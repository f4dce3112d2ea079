import PointerTrace.Program.Record
import PointerTrace.Proofs.Parsing
import PointerTrace.Proofs.Recast

/- Lists of records that are read as programs. What a record of each operation holds is said once, in a
   table (`parts?`): its fields in the order in which they are read, how the value of each is taken, and
   whether it must be there. A record whose fields fit is `Admissible`, and is read as the operation that
   it `Describes`; any other is refused for the first thing that is wrong with it (`Faulty`). This holds
   of records whose texts can be written (`Legible`). A list is read record by record, each of them for
   itself, and the first one that is not admissible is reported under its own index, whatever follows
   (`ofRecords_admissible`). -/
namespace PointerTrace

open Document (Value)

namespace Record

/-! ## What records hold -/

/-- How the value of a field is taken. -/
inductive Reading where
  | text
  | textOrNull
  | integer
  | truth
  | borrowKind
  deriving DecidableEq, Repr

/-- Whether a value can be taken in a way. A truth value is no whole number, and capitals make no
    difference in the word for a kind of borrow. -/
def Reading.Accepts : Reading → Value → Prop
  | .text, _ | .textOrNull, _ => True
  | .integer, v => ∃ n, v = .int n
  | .truth, v => ∃ b, v = .bool b
  | .borrowKind, v =>
    ∃ word, v.plain? = some word ∧ Text.lower word ∈ ["shared", "const", "unique", "mut"]

/-- What is reported about a value of a field that cannot be taken. -/
inductive Reading.Refuses (field : String) (v : Value) : Reading → Fault → Prop
  | notInteger (other : ∀ n, v ≠ .int n) :
      Refuses field v .integer (.unfit (v.quoted?.elim .unwritable (.notInteger field)))
  | notTruth (other : ∀ b, v ≠ .bool b) :
      Refuses field v .truth (.unfit (v.quoted?.elim .unwritable (.notTruthValue field)))
  | unknownKind {word : String} (written : v.plain? = some word)
      (unknown : Text.lower word ∉ ["shared", "const", "unique", "mut"]) :
      Refuses field v .borrowKind (.kind (Text.lower word))

/-- A field that a record has, or may have. -/
structure Part where
  field : String
  reading : Reading
  needed : Bool
  deriving DecidableEq, Repr

/-- The fields of the records of an operation, in the order in which they are read. -/
def parts? : String → Option (List Part)
  | "declare" => some [⟨"name", .text, true⟩, ⟨"value", .integer, false⟩,
      ⟨"mutable", .truth, false⟩, ⟨"interior_mutable", .truth, false⟩]
  | "borrow" =>
    some [⟨"target", .text, true⟩, ⟨"kind", .borrowKind, false⟩, ⟨"result", .text, true⟩]
  | "reborrow" =>
    some [⟨"source", .text, true⟩, ⟨"kind", .borrowKind, false⟩, ⟨"result", .text, true⟩]
  | "to_int" => some [⟨"source", .text, true⟩, ⟨"result", .text, true⟩]
  | "read" => some [⟨"source", .text, true⟩, ⟨"binding", .textOrNull, false⟩]
  | "write" => some [⟨"source", .text, true⟩, ⟨"value", .integer, true⟩]
  | "call" => some [⟨"source", .text, true⟩, ⟨"function", .text, false⟩]
  | _ => none

/-- A field of a record fits: its value can be taken, or it is left out where it may be. -/
def Part.Fits (p : Part) (fields : Fields) : Prop :=
  match Value.field? fields p.field with
  | some v => p.reading.Accepts v
  | none => p.needed = false

/-- What is reported about a field that does not fit. -/
inductive Part.Misfit (p : Part) (fields : Fields) : Fault → Prop
  | missing (needed : p.needed = true) (absent : Value.field? fields p.field = none) :
      Misfit p fields (.missing p.field)
  | refused {v : Value} {fault : Fault} (here : Value.field? fields p.field = some v)
      (refuses : p.reading.Refuses p.field v fault) : Misfit p fields fault

/-- A record is a mapping that names its operation, in small letters here. -/
def Names (record : Value) (fields : Fields) (operation : String) : Prop :=
  ∃ given word, record.opened = .mapping fields ∧ Value.field? fields "op" = some given ∧
    given.plain? = some word ∧ Text.lower word = operation

/-- A record of one of the operations whose fields fit. -/
def Admissible (record : Value) : Prop :=
  ∃ fields operation parts, Names record fields operation ∧ parts? operation = some parts ∧
    ∀ p ∈ parts, p.Fits fields

/-- What is reported about a record at an index: that it is no mapping or names no operation, that there
    is no such operation, or the first of its fields that does not fit. -/
inductive Faulty (index : Nat) (record : Value) : SyntaxFault → Prop
  | notMapping (other : ∀ fields, record.opened ≠ .mapping fields) :
      Faulty index record (.notRecord index)
  | unnamed {fields : Fields} (mapping : record.opened = .mapping fields)
      (absent : Value.field? fields "op" = none) : Faulty index record (.notRecord index)
  | unknown {fields : Fields} {operation : String} (names : Names record fields operation)
      (none : parts? operation = none) : Faulty index record (.unknownOperation index operation)
  | field {fields : Fields} {operation : String} {before after : List Part} {p : Part} {fault : Fault}
      (names : Names record fields operation) (parts : parts? operation = some (before ++ p :: after))
      (fine : ∀ q ∈ before, q.Fits fields) (misfit : p.Misfit fields fault) :
      Faulty index record (fault.toSyntax index operation)

/-! ## What records describe -/

/-- A value as a text. -/
def IsText (v : Value) (s : String) : Prop := v.plain? = some s

/-- A value as a text, or null as none. -/
def IsTextOrNull (v : Value) : Option String → Prop
  | none => v = .null
  | some s => v ≠ .null ∧ v.plain? = some s

/-- A value as a whole number. -/
def IsInteger (v : Value) (n : Int) : Prop := v = .int n

/-- A value as a truth value. -/
def IsTruth (v : Value) (b : Bool) : Prop := v = .bool b

/-- A value as a kind of borrow. -/
def IsKind (v : Value) (kind : BorrowKind) : Prop :=
  ∃ word, v.plain? = some word ∧ (Text.lower word, kind) ∈ kindWords

/-- What a field gives: what its value means or, when it is left out, the default if there is one. -/
def Gives {α : Type} (fields : Fields) (field : String) (means : Value → α → Prop)
    (default : Option α) (x : α) : Prop :=
  match Value.field? fields field with
  | some v => means v x
  | none => default = some x

/-- The operation that the fields of a record describe. -/
inductive FieldsDescribe (fields : Fields) : String → Action → Prop
  | declare {name : String} {value : Int} {isMutable interiorMutable : Bool}
      (named : Gives fields "name" IsText none name)
      (number : Gives fields "value" IsInteger (some 0) value)
      (flag : Gives fields "mutable" IsTruth (some false) isMutable)
      (interior : Gives fields "interior_mutable" IsTruth (some false) interiorMutable) :
      FieldsDescribe fields "declare" (.declare name value isMutable interiorMutable)
  | borrow {target result : String} {kind : BorrowKind}
      (origin : Gives fields "target" IsText none target)
      (chosen : Gives fields "kind" IsKind (some .shared) kind)
      (bound : Gives fields "result" IsText none result) :
      FieldsDescribe fields "borrow" (.borrow target kind result)
  | reborrow {source result : String} {kind : BorrowKind}
      (origin : Gives fields "source" IsText none source)
      (chosen : Gives fields "kind" IsKind (some .shared) kind)
      (bound : Gives fields "result" IsText none result) :
      FieldsDescribe fields "reborrow" (.reborrow source kind result)
  | toInteger {source result : String} (origin : Gives fields "source" IsText none source)
      (bound : Gives fields "result" IsText none result) :
      FieldsDescribe fields "to_int" (.toInteger source result)
  | read {source : String} {binding : Option String}
      (origin : Gives fields "source" IsText none source)
      (bound : Gives fields "binding" IsTextOrNull (some none) binding) :
      FieldsDescribe fields "read" (.read source binding)
  | write {source : String} {value : Int} (origin : Gives fields "source" IsText none source)
      (number : Gives fields "value" IsInteger none value) :
      FieldsDescribe fields "write" (.write source value)
  | call {source function : String} (origin : Gives fields "source" IsText none source)
      (called : Gives fields "function" IsText (some "opaque") function) :
      FieldsDescribe fields "call" (.call source function)

/-- The operation that a record describes. -/
def Describes (record : Value) (a : Action) : Prop :=
  ∃ fields operation, Names record fields operation ∧ FieldsDescribe fields operation a

/-! ## What can be written -/

/-- The fields whose values are taken as texts. -/
def textFields : List String :=
  ["op", "name", "target", "source", "result", "kind", "binding", "function"]

/-- Values that are taken as texts can be written: no number in them is too long. -/
def LegibleFields (fields : Fields) : Prop :=
  ∀ field ∈ textFields, ∀ v, Value.field? fields field = some v → v.plain? ≠ none

/-- What is taken as text in a record can be written. -/
def Legible (record : Value) : Prop := ∀ fields, record.opened = .mapping fields → LegibleFields fields

theorem plain?_ne_none {v : Value} (written : v.quoted? ≠ none) : v.plain? ≠ none := by
  unfold Value.plain?
  split
  · simp
  · simp
  · simp
  · exact written

theorem quoted?_of_mem {around : List Nat} {pairs : List (Value × Value)}
    (written : Value.quotedPairs around pairs ≠ none) {p : Value × Value} (inside : p ∈ pairs) :
    Value.quotedInside around p.2 ≠ none := by
  induction pairs with
  | nil => simp at inside
  | cons q rest ih =>
    obtain ⟨k, v⟩ := q
    intro unwritten
    rcases List.mem_cons.mp inside with rfl | later
    · simp [Value.quotedPairs, unwritten] at written
    · apply ih _ later unwritten
      intro none
      simp [Value.quotedPairs, none] at written

/-- A record that can be quoted is legible. -/
theorem legible_of_quoted? {record : Value} (written : record.opened.quoted? ≠ none) :
    Legible record := by
  intro fields mapping field _ v here
  rw [mapping] at written
  have pairs : Value.quotedPairs [] fields ≠ none := by
    intro none
    simp [Value.quoted?, Value.quotedInside, none] at written
  rw [Value.field?, Option.map_eq_some_iff] at here
  obtain ⟨p, found, rfl⟩ := here
  exact plain?_ne_none (quoted?_of_mem pairs (List.mem_of_find?_eq_some found))

/-! ## How fields are read -/

/-- What reading a value in a way comes to: it means something, or it is refused. -/
inductive Told {α : Type} (reading : Reading) (field : String) (means : Value → α → Prop)
    (v : Value) : Except Fault α → Prop
  | taken {x : α} (accepts : reading.Accepts v) (meant : means v x) :
      Told reading field means v (.ok x)
  | refused {fault : Fault} (refuses : reading.Refuses field v fault) :
      Told reading field means v (.error fault)

section Readings

variable {v : Value} (field : String)

theorem told_text (written : v.plain? ≠ none) : Told .text field IsText v (textOf v) := by
  obtain ⟨s, same⟩ := Option.ne_none_iff_exists'.mp written
  simp only [textOf, same, Option.elim_some]
  exact .taken trivial same

theorem told_integer (v : Value) : Told .integer field IsInteger v (integer field v) := by
  unfold integer
  split
  · next n => exact .taken ⟨n, rfl⟩ rfl
  · next other => exact .refused (.notInteger other)

theorem told_truth (v : Value) : Told .truth field IsTruth v (truth field v) := by
  unfold truth
  split
  · next b => exact .taken ⟨b, rfl⟩ rfl
  · next other => exact .refused (.notTruth other)

/-- The kind of borrow that a value names. -/
def kindNamed (v : Value) : Except Fault BorrowKind := do
  let word := Text.lower (← textOf v)
  match kindWords.lookup word with
  | some kind => return kind
  | none => throw (.kind word)

theorem kindOf_eq (fields : Fields) :
    kindOf fields = kindNamed ((Value.field? fields "kind").getD (.text "shared")) := rfl

theorem told_kind (written : v.plain? ≠ none) :
    Told .borrowKind field IsKind v (kindNamed v) := by
  obtain ⟨word, same⟩ := Option.ne_none_iff_exists'.mp written
  have read : kindNamed v = match kindWords.lookup (Text.lower word) with
      | some kind => .ok kind
      | none => .error (.kind (Text.lower word)) := by
    simp only [kindNamed, textOf, same, Option.elim_some]
    rfl
  rw [read]
  cases found : kindWords.lookup (Text.lower word) with
  | some kind =>
    have listed : (Text.lower word, kind) ∈ kindWords := by
      obtain ⟨before, after, split, -⟩ := List.lookup_eq_some_iff.mp found
      simp [split]
    refine .taken ⟨word, same, ?_⟩ ⟨word, same, listed⟩
    exact List.mem_map_of_mem (f := Prod.fst) listed
  | none =>
    refine .refused (.unknownKind same fun listed => ?_)
    simp [kindWords, List.lookup_eq_none_iff] at found listed
    tauto

/-- A value that may be null, as text. -/
def textOrNull : Value → Except Fault (Option String)
  | .null => .ok none
  | v => (textOf v).map some

theorem optional_eq (fields : Fields) :
    optional fields field = textOrNull ((Value.field? fields field).getD .null) := by
  unfold optional textOrNull
  cases Value.field? fields field with
  | none => rfl
  | some v => cases v <;> rfl

theorem told_textOrNull (written : v.plain? ≠ none) :
    Told .textOrNull field IsTextOrNull v (textOrNull v) := by
  unfold textOrNull
  split
  · exact .taken trivial rfl
  · next other =>
    obtain ⟨s, same⟩ := Option.ne_none_iff_exists'.mp written
    simp only [textOf, same, Option.elim_some]
    exact .taken trivial ⟨other, same⟩

end Readings

/-! ## How records are read -/

/-- What reading some fields of a record comes to: all of them fit and give something, or the first one
    that does not fit is reported. -/
def Outcome {α : Type} (fields : Fields) (parts : List Part) (gives : α → Prop)
    (r : Except Fault α) : Prop :=
  (∃ x, r = .ok x ∧ (∀ p ∈ parts, p.Fits fields) ∧ gives x) ∨
    ∃ fault before p after, r = .error fault ∧ parts = before ++ p :: after ∧
      (∀ q ∈ before, q.Fits fields) ∧ p.Misfit fields fault

section Outcomes

variable {α β : Type} {fields : Fields} {parts more : List Part} {gives : α → Prop}
  {r : Except Fault α}

theorem Outcome.bind {gives' : β → Prop} {f : α → Except Fault β}
    (first : Outcome fields parts gives r)
    (next : ∀ x, gives x → Outcome fields more gives' (f x)) :
    Outcome fields (parts ++ more) gives' (r >>= f) := by
  rcases first with ⟨x, rfl, fit, given⟩ | ⟨fault, before, p, after, rfl, rfl, fine, misfit⟩
  · rcases next x given with ⟨y, second, fit', given'⟩ |
      ⟨fault, before, p, after, second, rfl, fine, misfit⟩
    · refine .inl ⟨y, second, ?_, given'⟩
      simpa [or_imp, forall_and] using ⟨fit, fit'⟩
    · refine .inr ⟨fault, parts ++ before, p, after, second, by simp, ?_, misfit⟩
      simpa [or_imp, forall_and] using ⟨fit, fine⟩
  · exact .inr ⟨fault, before, p, after ++ more, rfl, by simp, fine, misfit⟩

theorem Outcome.done {x : α} (given : gives x) : Outcome fields [] gives (.ok x) :=
  .inl ⟨x, rfl, by simp, given⟩

variable {reading : Reading} {field : String} {means : Value → α → Prop}
  {read : Value → Except Fault α}

theorem outcome_of_told {v : Value} {needed : Bool} {default : Option α}
    (here : Value.field? fields field = some v) (told : Told reading field means v r) :
    Outcome fields [⟨field, reading, needed⟩] (Gives fields field means default) r := by
  cases told with
  | @taken x accepts meant =>
    refine .inl ⟨x, rfl, ?_, ?_⟩
    · simpa [Part.Fits, here] using accepts
    · simpa [Gives, here] using meant
  | @refused fault refuses =>
    exact .inr ⟨fault, [], _, [], rfl, rfl, by simp, .refused here refuses⟩

theorem outcome_of_missing (absent : Value.field? fields field = none) :
    Outcome fields [⟨field, reading, true⟩] gives (.error (.missing field)) :=
  .inr ⟨_, [], _, [], rfl, rfl, by simp, .missing rfl absent⟩

/-- A field that has a default, which is read from some value. -/
theorem outcome_of_default (instead : Value) {x : α}
    (told : ∀ v, Value.field? fields field = some v → Told reading field means v (read v))
    (kept : read instead = .ok x) :
    Outcome fields [⟨field, reading, false⟩] (Gives fields field means (some x))
      (read ((Value.field? fields field).getD instead)) := by
  cases here : Value.field? fields field with
  | some v => exact outcome_of_told here (told v here)
  | none => exact .inl ⟨x, kept, by simp [Part.Fits, here], by simp [Gives, here]⟩

end Outcomes

variable {fields : Fields} {record : Value} {operation : String} {index : Nat}

theorem needed_text (legible : LegibleFields fields) (field : String) (text : field ∈ textFields) :
    Outcome fields [⟨field, .text, true⟩] (Gives fields field IsText none)
      (required fields field) := by
  unfold required
  cases here : Value.field? fields field with
  | some v => exact outcome_of_told here (told_text field (legible field text v here))
  | none => exact outcome_of_missing here

theorem given_flag (field : String) : Outcome fields [⟨field, .truth, false⟩]
    (Gives fields field IsTruth (some false)) (flag fields field) :=
  outcome_of_default (.bool false) (fun v _ => told_truth field v) rfl

theorem given_integer (field : String) (n : Int) : Outcome fields [⟨field, .integer, false⟩]
    (Gives fields field IsInteger (some n))
    (integer field ((Value.field? fields field).getD (.int n))) :=
  outcome_of_default (.int n) (fun v _ => told_integer field v) rfl

theorem given_text (legible : LegibleFields fields) (field : String) (text : field ∈ textFields)
    (s : String) : Outcome fields [⟨field, .text, false⟩] (Gives fields field IsText (some s))
      (textOf ((Value.field? fields field).getD (.text s))) :=
  outcome_of_default (.text s) (fun v here => told_text field (legible field text v here)) rfl

theorem given_kind (legible : LegibleFields fields) : Outcome fields [⟨"kind", .borrowKind, false⟩]
    (Gives fields "kind" IsKind (some .shared)) (kindOf fields) := by
  rw [kindOf_eq]
  refine outcome_of_default (.text "shared") (fun v here => ?_) rfl
  exact told_kind "kind" (legible "kind" (by decide) v here)

theorem given_textOrNull (legible : LegibleFields fields) (field : String)
    (text : field ∈ textFields) : Outcome fields [⟨field, .textOrNull, false⟩]
      (Gives fields field IsTextOrNull (some none)) (optional fields field) := by
  rw [optional_eq]
  refine outcome_of_default .null (fun v here => ?_) rfl
  exact told_textOrNull field (legible field text v here)

/-- An operation has a row in the table when there is one of its name. Reading the fields of a record of
    it follows that row, and gives the operation that they describe. -/
theorem action_outcome (legible : LegibleFields fields) (operation : String) :
    (action? operation fields = none ∧ parts? operation = none) ∨
      ∃ r parts, action? operation fields = some r ∧ parts? operation = some parts ∧
        Outcome fields parts (FieldsDescribe fields operation) r := by
  have source := needed_text legible "source" (by decide)
  have result := needed_text legible "result" (by decide)
  have kind := given_kind legible
  unfold action?
  split
  · refine .inr ⟨_, _, rfl, rfl, ?_⟩
    have name := needed_text legible "name" (by decide)
    exact name.bind fun name named => (given_integer "value" 0).bind fun value number =>
      (given_flag "mutable").bind fun isMutable flag =>
        (given_flag "interior_mutable").bind fun interior inside =>
          .done (.declare named number flag inside)
  · refine .inr ⟨_, _, rfl, rfl, ?_⟩
    have target := needed_text legible "target" (by decide)
    exact target.bind fun target origin => kind.bind fun kind chosen =>
      result.bind fun result bound => .done (.borrow origin chosen bound)
  · refine .inr ⟨_, _, rfl, rfl, ?_⟩
    exact source.bind fun source origin => kind.bind fun kind chosen =>
      result.bind fun result bound => .done (.reborrow origin chosen bound)
  · refine .inr ⟨_, _, rfl, rfl, ?_⟩
    exact source.bind fun source origin => result.bind fun result bound =>
      .done (.toInteger origin bound)
  · refine .inr ⟨_, _, rfl, rfl, ?_⟩
    have binding := given_textOrNull legible "binding" (by decide)
    exact source.bind fun source origin => binding.bind fun binding bound =>
      .done (.read origin bound)
  · refine .inr ⟨_, _, rfl, rfl, source.bind fun source origin => ?_⟩
    cases here : Value.field? fields "value" with
    | some v =>
      exact (outcome_of_told here (told_integer "value" v)).bind fun value number =>
        .done (.write origin number)
    | none => exact outcome_of_missing here
  · refine .inr ⟨_, _, rfl, rfl, ?_⟩
    have function := given_text legible "function" (by decide) "opaque"
    exact source.bind fun source origin => function.bind fun function called =>
      .done (.call origin called)
  · refine .inl ⟨rfl, ?_⟩
    unfold parts?
    split <;> simp_all

/-- A record is admissible and is read as the operation that it describes, or it is at fault, and that is
    what is reported. -/
theorem read_outcome_of_legible (legible : Legible record) (index : Nat) :
    (∃ a, read index record = .ok a ∧ Admissible record ∧ Describes record a) ∨
      ∃ fault, read index record = .error (.ofSyntax fault none) ∧ Faulty index record fault := by
  unfold read
  split
  · next fields mapping =>
    unfold readFields
    split
    · next absent => exact .inr ⟨_, rfl, .unnamed mapping absent⟩
    · next given here =>
      split
      · next unwritable => exact absurd unwritable (legible fields mapping "op" (by decide) given here)
      · next word written =>
        have names : Names record fields (Text.lower word) := ⟨given, word, mapping, here, written, rfl⟩
        rcases action_outcome (legible fields mapping) (Text.lower word) with ⟨action, parts⟩ |
          ⟨r, parts, action, row, ⟨a, rfl, fit, describes⟩ |
            ⟨fault, before, p, after, rfl, rfl, fine, misfit⟩⟩
        · simp only [action]
          exact .inr ⟨_, rfl, .unknown names parts⟩
        · simp only [action]
          exact .inl ⟨a, rfl, ⟨fields, _, parts, names, row, fit⟩, fields, _, names, describes⟩
        · simp only [action]
          exact .inr ⟨_, rfl, .field names row fine misfit⟩
  · next other => exact .inr ⟨_, rfl, .notMapping other⟩

/-! ## Faults are what is not admissible -/

theorem Reading.Refuses.not_accepts {reading : Reading} {field : String} {v : Value} {fault : Fault}
    (refuses : reading.Refuses field v fault) : ¬ reading.Accepts v := by
  cases refuses with
  | notInteger other =>
    rintro ⟨n, rfl⟩
    exact other n rfl
  | notTruth other =>
    rintro ⟨b, rfl⟩
    exact other b rfl
  | unknownKind written unknown =>
    rintro ⟨word, written', known⟩
    rw [written, Option.some.injEq] at written'
    exact unknown (written' ▸ known)

theorem Part.Misfit.not_fits {p : Part} {fault : Fault} (misfit : p.Misfit fields fault) :
    ¬ p.Fits fields := by
  unfold Part.Fits
  cases misfit with
  | missing needed absent => simp [absent, needed]
  | refused here refuses => simpa [here] using refuses.not_accepts

theorem Names.unique {fields' : Fields} {operation' : String} (names : Names record fields operation)
    (names' : Names record fields' operation') : fields = fields' ∧ operation = operation' := by
  obtain ⟨given, word, mapping, here, written, rfl⟩ := names
  obtain ⟨given', word', mapping', here', written', rfl⟩ := names'
  rw [mapping, Value.mapping.injEq] at mapping'
  subst mapping'
  rw [here, Option.some.injEq] at here'
  subst here'
  rw [written, Option.some.injEq] at written'
  exact ⟨rfl, congrArg Text.lower written'⟩

theorem Faulty.not_admissible {fault : SyntaxFault} (faulty : Faulty index record fault) :
    ¬ Admissible record := by
  rintro ⟨fields, operation, parts, names, row, fit⟩
  cases faulty with
  | notMapping other =>
    obtain ⟨_, _, mapping, -⟩ := names
    exact other fields mapping
  | unnamed mapping absent =>
    obtain ⟨given, _, mapping', here, -⟩ := names
    rw [mapping, Value.mapping.injEq] at mapping'
    rw [← mapping', absent] at here
    simp at here
  | unknown names' none =>
    obtain ⟨-, rfl⟩ := names.unique names'
    rw [none] at row
    simp at row
  | field names' row' fine misfit =>
    obtain ⟨rfl, rfl⟩ := names.unique names'
    rw [row', Option.some.injEq] at row
    exact misfit.not_fits (fit _ (by simp [← row]))

theorem admissible_iff (legible : Legible record) (index : Nat) :
    Admissible record ↔ ∃ a, read index record = .ok a := by
  rcases read_outcome_of_legible legible index with ⟨a, fine, admissible, -⟩ | ⟨fault, broken, faulty⟩
  · exact iff_of_true admissible ⟨a, fine⟩
  · refine iff_of_false faulty.not_admissible ?_
    simp [broken]

/-! ## Lists of records -/

theorem read_eq_ok_iff {a : Action} : read index record = .ok a ↔
    ∃ fields operation, Names record fields operation ∧
      action? operation fields = some (.ok a) := by
  constructor
  · intro fine
    unfold read readFields at fine
    split at fine
    · next fields mapping =>
      split at fine
      · simp at fine
      · next given here =>
        split at fine
        · simp at fine
        · next word written =>
          refine ⟨fields, Text.lower word, ⟨given, word, mapping, here, written, rfl⟩, ?_⟩
          cases action : action? (Text.lower word) fields with
          | none => simp [action] at fine
          | some r => cases r <;> simp_all [Except.mapError]
    · simp at fine
  · rintro ⟨fields, _, ⟨given, word, mapping, here, written, rfl⟩, action⟩
    simp [read, readFields, mapping, here, written, action, Except.mapError]

/-- A list is read record by record; the index of a record matters only where it is reported. -/
theorem readFrom_eq_ok_iff {l : List Value} {actions : List Action} : readFrom index l = .ok actions ↔
    List.Forall₂ (fun record a => read 0 record = .ok a) l actions := by
  induction l generalizing index actions with
  | nil => simp [readFrom, eq_comm]
  | cons record rest ih =>
    rw [List.forall₂_cons_left_iff, readFrom]
    constructor
    · intro fine
      cases first : read index record with
      | error e => simp [first, bind, Except.bind] at fine
      | ok a =>
        cases more : readFrom (index + 1) rest with
        | error e => simp [first, more, bind, Except.bind] at fine
        | ok l =>
          simp only [first, more, bind, Except.bind, pure, Except.pure, Except.ok.injEq] at fine
          exact ⟨a, l, read_eq_ok_iff.mpr (read_eq_ok_iff.mp first), ih.mp more, fine.symm⟩
    · rintro ⟨a, l, first, more, rfl⟩
      have first' : read index record = .ok a := read_eq_ok_iff.mpr (read_eq_ok_iff.mp first)
      simp [first', ih.mpr more, bind, Except.bind, pure, Except.pure]

/-- The first record that is not read decides, whatever follows it. -/
theorem readFrom_eq_error {before : List Value} {e : ReadFailure}
    (fine : ∀ earlier ∈ before, ∃ a, read 0 earlier = .ok a)
    (broken : read (index + before.length) record = .error e) (after : List Value) :
    readFrom index (before ++ record :: after) = .error e := by
  induction before generalizing index with
  | nil =>
    have here : read index record = .error e := broken
    simp [readFrom, here, bind, Except.bind]
  | cons earlier before ih =>
    obtain ⟨a, first⟩ := fine earlier (by simp)
    have first' : read index earlier = .ok a := read_eq_ok_iff.mpr (read_eq_ok_iff.mp first)
    have more : readFrom (index + 1) (before ++ record :: after) = .error e := by
      apply ih
      · exact fun r inside => fine r (by simp [inside])
      · simpa [Nat.add_assoc, Nat.add_comm 1] using broken
    simp [readFrom, first', more, bind, Except.bind]

theorem exists_first {l : List Value} (flawed : ¬ ∀ record ∈ l, Admissible record) :
    ∃ before record after, l = before ++ record :: after ∧
      (∀ earlier ∈ before, Admissible earlier) ∧ ¬ Admissible record := by
  induction l with
  | nil => simp at flawed
  | cons record rest ih =>
    by_cases first : Admissible record
    · obtain ⟨before, bad, after, rfl, fine, broken⟩ := ih (by simpa [first] using flawed)
      exact ⟨record :: before, bad, after, rfl, by simpa [first] using fine, broken⟩
    · exact ⟨[], record, rest, rfl, by simp, first⟩

end Record

namespace Program

open Record (Admissible Describes Faulty Legible)

variable {records : List Value} {name : String} {p : Program}

theorem ofRecords_eq_ok_iff : ofRecords records name = .ok p ↔ ∃ actions,
    List.Forall₂ (fun record a => Record.read 0 record = .ok a) records actions ∧
      p = ⟨actions.map fun a => ⟨a, none⟩, name, none, 0⟩ := by
  unfold ofRecords
  constructor
  · intro found
    cases read : Record.readFrom 0 records with
    | error e => simp [read, Except.map] at found
    | ok actions =>
      simp only [read, Except.map, Except.ok.injEq] at found
      exact ⟨actions, Record.readFrom_eq_ok_iff.mp read, found.symm⟩
  · rintro ⟨actions, read, rfl⟩
    rw [Record.readFrom_eq_ok_iff.mpr read]
    rfl

/-- The operation at an index is the one that the record at that index is read as. -/
theorem read_of_ofRecords (found : ofRecords records name = .ok p) {i : Nat} {record : Value}
    (here : records[i]? = some record) :
    ∃ a, p.operations[i]? = some ⟨a, none⟩ ∧ Record.read 0 record = .ok a := by
  obtain ⟨actions, read, rfl⟩ := ofRecords_eq_ok_iff.mp found
  obtain ⟨a, there, fine⟩ := forall₂_getElem? read here
  exact ⟨a, by simp [there], fine⟩

/-- A list of records is read as a program exactly if every one of them is admissible. Operation by
    operation the program is what the records describe, with defaults for the fields that are left out,
    and each operation is decided by its own record. Otherwise what is reported is one fault of the
    syntax, that of the first record that is not admissible at its own index, whatever follows it. -/
theorem ofRecords_admissible (records : List Value) (name : String)
    (legible : ∀ record ∈ records, Legible record) :
    ((∃ p, ofRecords records name = .ok p) ↔ ∀ record ∈ records, Admissible record) ∧
    (∀ p, ofRecords records name = .ok p → p.name = name ∧
      List.Forall₂ (fun record (op : Operation) => Describes record op.action ∧ op.location = none)
        records p.operations ∧
      ∀ (records' : List Value) (name' : String) (p' : Program), ofRecords records' name' = .ok p' →
        ∀ i j : Nat, i < records.length → records[i]? = records'[j]? →
          p.operations[i]? = p'.operations[j]?) ∧
    ((¬ ∀ record ∈ records, Admissible record) → ∃ before record after fault,
      records = before ++ record :: after ∧ (∀ earlier ∈ before, Admissible earlier) ∧
      ¬ Admissible record ∧ Faulty before.length record fault ∧
      Record.read before.length record = .error (.malformed [.ofSyntax fault none]) ∧
      ∀ following name', ofRecords (before ++ record :: following) name' =
        .error (.malformed [.ofSyntax fault none])) := by
  have fine : ∀ record ∈ records, (Admissible record ↔ ∃ a, Record.read 0 record = .ok a) :=
    fun record inside => Record.admissible_iff (legible record inside) 0
  refine ⟨?_, ?_, ?_⟩
  · rw [forall₂_congr fine, ← Trace.exists_forall₂]
    constructor
    · rintro ⟨p, found⟩
      obtain ⟨actions, read, -⟩ := ofRecords_eq_ok_iff.mp found
      exact ⟨actions, read⟩
    · rintro ⟨actions, read⟩
      exact ⟨_, ofRecords_eq_ok_iff.mpr ⟨actions, read, rfl⟩⟩
  · intro p found
    obtain ⟨actions, read, rfl⟩ := ofRecords_eq_ok_iff.mp found
    refine ⟨rfl, ?_, ?_⟩
    · rw [List.forall₂_map_right_iff]
      refine ((List.forall₂_and_left _ _).mpr ⟨legible, read⟩).imp fun record a ⟨legible, fine⟩ => ?_
      rcases Record.read_outcome_of_legible legible 0 with ⟨a', fine', -, describes⟩ | ⟨fault, failed, -⟩
      · rw [fine, Except.ok.injEq] at fine'
        exact ⟨fine' ▸ describes, rfl⟩
      · simp [fine] at failed
    · intro records' name' p' found' i j inside same
      have here : records[i]? = some records[i] := List.getElem?_eq_getElem _
      obtain ⟨a, there, fine⟩ := read_of_ofRecords found here
      obtain ⟨a', there', fine'⟩ := read_of_ofRecords found' (same ▸ here)
      rw [fine, Except.ok.injEq] at fine'
      rw [there, there', fine']
  · intro flawed
    obtain ⟨before, record, after, rfl, admissible, broken⟩ := Record.exists_first flawed
    rcases Record.read_outcome_of_legible (legible record (by simp)) before.length with
      ⟨_, _, admissible', _⟩ | ⟨fault, failed, faulty⟩
    · exact absurd admissible' broken
    · refine ⟨before, record, after, fault, rfl, admissible, broken, faulty, failed, ?_⟩
      intro following name'
      have earlier : ∀ r ∈ before, ∃ a, Record.read 0 r = .ok a :=
        fun r inside => (fine r (by simp [inside])).mp (admissible r inside)
      unfold ofRecords
      rw [Record.readFrom_eq_error earlier (by simpa using failed)]
      rfl

/-- A declaration of a variable that is named by a number, and a borrow of it, with capitals. -/
def spelled : List Value :=
  [.mapping [(.text "op", .text "DECLARE"), (.text "name", .int 7), (.text "mutable", .bool true)],
    .mapping [(.text "kind", .text "Const"), (.text "result", .null), (.text "op", .text "borrow"),
      (.text "target", .text "7")]]

/-- The same records, a write of a truth value, and an operation that there is not. -/
def misspelled : List Value :=
  spelled ++ [.mapping [(.text "op", .text "write"), (.text "source", .text "None"),
      (.text "value", .bool true)], .mapping [(.text "op", .text "teleport")]]

theorem ofRecords_admissible_spelled :
    (∀ record ∈ misspelled, Legible record) ∧ (∀ record ∈ spelled, Admissible record) ∧
    ofRecords spelled "t" =
      .ok ⟨[⟨.declare "7" 0 true false, none⟩, ⟨.borrow "7" .shared "None", none⟩], "t", none, 0⟩ ∧
    ∃ before record after fault, misspelled = before ++ record :: after ∧ ¬ Admissible record ∧
      Faulty before.length record fault ∧
      fault = .fieldFault 2 "write" (.notInteger "value" "True") := by
  have legible : ∀ record ∈ misspelled, Legible record := by
    have quoted : ∀ record ∈ misspelled, record.opened.quoted? ≠ none := by decide +kernel
    exact fun record inside => Record.legible_of_quoted? (quoted record inside)
  have legible' : ∀ record ∈ spelled, Legible record :=
    fun record inside => legible record (List.mem_append_left _ inside)
  have accepted : ofRecords spelled "t" = .ok ⟨[⟨.declare "7" 0 true false, none⟩,
      ⟨.borrow "7" .shared "None", none⟩], "t", none, 0⟩ := by decide +kernel
  have refused : ofRecords misspelled "t" = .error (.malformed [.ofSyntax
      (.fieldFault 2 "write" (.notInteger "value" "True")) none]) := by decide +kernel
  have first := ofRecords_admissible spelled "t" legible'
  have second := ofRecords_admissible misspelled "t" legible
  have broken : ¬ ∀ record ∈ misspelled, Admissible record := by
    simp [← second.1, refused]
  obtain ⟨before, record, after, fault, split, -, bad, faulty, -, reported⟩ := second.2.2 broken
  refine ⟨legible, first.1.mp ⟨_, accepted⟩, accepted, before, record, after, fault, split, bad, faulty, ?_⟩
  have same := reported after "t"
  rw [← split, refused] at same
  simpa [Issue.ofSyntax, eq_comm] using same

end Program

end PointerTrace
