import PointerTrace.Proofs.ExitCode
import PointerTrace.Proofs.Rendering

/- Texts that give no program. Reading ends with a program or with one syntax fault, unless something
   in the text cannot be built (`ReadOutcome`): a number of a trace text with too many digits, where a
   statement has a number (`Trace.Unbuilt`), or in a text of records a part of the document that has
   no value or a name that cannot be written (`Record.Unbuilt`). Nothing wraps such a failure on its
   way out, so that it is not reported as a problem of the text: not every text that gives no program
   is (`not_forall_reported`). All others are, and a command refuses a file that gives no program with
   exit code 2 unless it holds something that cannot be built (`reading_reported`). -/
namespace PointerTrace

open Document (ScalarFault Value)

/-- The outcome of reading something: what was read, one syntax fault, or something that cannot be
    built, of which a condition is known. -/
inductive ReadOutcome {α : Type} (Unbuilt : ScalarFault → Prop) : Except ReadFailure α → Prop
  | found (x : α) : ReadOutcome Unbuilt (.ok x)
  | malformed (fault : SyntaxFault) (place : Option Location) :
      ReadOutcome Unbuilt (.error (.ofSyntax fault place))
  | unbuilt {fault : ScalarFault} (why : Unbuilt fault) :
      ReadOutcome Unbuilt (.error (.unreadable fault))

section Outcomes

variable {α β : Type} {P Q : ScalarFault → Prop} {r : Except ReadFailure α}

theorem ReadOutcome.mono (outcome : ReadOutcome P r) (weaker : ∀ fault, P fault → Q fault) :
    ReadOutcome Q r := by
  cases outcome with
  | found x => exact .found x
  | malformed fault place => exact .malformed fault place
  | unbuilt why => exact .unbuilt (weaker _ why)

theorem ReadOutcome.bind {f : α → Except ReadFailure β} (outcome : ReadOutcome P r)
    (next : ∀ x, r = .ok x → ReadOutcome P (f x)) : ReadOutcome P (r >>= f) := by
  cases outcome with
  | found x => exact next x rfl
  | malformed fault place => exact .malformed fault place
  | unbuilt why => exact .unbuilt why

theorem ReadOutcome.map (outcome : ReadOutcome P r) (f : α → β) : ReadOutcome P (r.map f) := by
  cases outcome with
  | found x => exact .found (f x)
  | malformed fault place => exact .malformed fault place
  | unbuilt why => exact .unbuilt why

end Outcomes

/-! ## Trace texts -/

namespace Trace

/-- A trace text has, behind pieces that are read, one with a number of too many digits where a
    statement has a number. -/
inductive Unbuilt (source file : String) : ScalarFault → Prop
  | number {ts : Tokens} (tokens : tokenize source file = .ok ts) {before after : List (List Token)}
      {piece : List Token} {fault : ScalarFault}
      (pieces : ts.body.splitOnP (·.symbol.endsStatement) = before ++ piece :: after)
      (fine : ∀ read ∈ before, Short read ∧
        (read = [] ∨ ∃ statement, IsStatement (read.map Token.symbol) statement))
      (overlong : Overlong piece fault) : Unbuilt source file fault

end Trace

namespace Program

open Trace (IsName IsStatement Scans Unbuilt)

theorem parse_outcome (source file : String) (name : Option String) :
    ReadOutcome (Unbuilt source file) (parse source file name) := by
  cases tokens : Trace.tokenize source file with
  | error issue =>
    obtain ⟨c, place, rfl⟩ := Trace.tokensFrom_eq_error tokens
    rw [parse, tokens]
    exact .malformed (.unexpectedCharacter c) (some place)
  | ok ts =>
    rw [parse_eq tokens]
    refine .map ?_ _
    cases read : Trace.readStatements ts with
    | ok l => exact .found l
    | error e =>
      rcases Trace.readStatements_cases read with ⟨fault, place, rfl⟩ | ⟨fault, rfl⟩
      · exact .malformed fault (some place)
      · obtain ⟨before, piece, after, pieces, fine, overlong⟩ :=
          Trace.readStatements_eq_unreadable.mp read
        exact .unbuilt (.number tokens pieces
          (fun read here => (fine read here).imp_right Trace.spells_iff.mp) overlong)

theorem parse_of_unbuilt {source file : String} {fault : ScalarFault}
    (unbuilt : Unbuilt source file fault) (name : Option String) :
    parse source file name = .error (.unreadable fault) := by
  obtain ⟨tokens, pieces, fine, overlong⟩ := unbuilt
  next ts before after piece =>
  have broken : Trace.readStatements ts = .error (.unreadable fault) :=
    Trace.readStatements_eq_unreadable.mpr ⟨before, piece, after, pieces,
      fun read here => (fine read here).imp_right Trace.spells_iff.mpr, overlong⟩
  rw [parse_eq tokens, broken]
  rfl

/-- A name that is bound to a number of too many digits. -/
theorem unbuilt_of_binding {bound digits : String} (named : IsName bound)
    (all : ∀ d ∈ digits.toList, d.isDigit = true) (long : Decimal.literalLimit < digits.length)
    (file : String) :
    Unbuilt ("let " ++ bound ++ " = " ++ digits) file (.tooManyDigits digits.length) := by
  have nonempty : digits.toList ≠ [] := by
    intro none
    rw [← String.length_toList, none] at long
    cases long
  have number := Scans.number nonempty all .nil
  have scans : Scans ("let " ++ bound ++ " = " ++ digits).toList
      ([.letWord, .name bound, .assign] ++ [.number digits]) [] := by
    simpa using named.scans_bound.trans number
  obtain ⟨ts, tokens, same⟩ := scans.tokenize file
  have whole : ts.body.splitOnP (·.symbol.endsStatement) = [] ++ ts.body :: [] := by
    refine List.splitOnP_eq_singleton fun t inside => ?_
    have symbol := List.mem_map_of_mem (f := Trace.Token.symbol) inside
    rw [same] at symbol
    simp at symbol
    rcases symbol with same | same | same | same <;> rw [same] <;> rfl
  obtain ⟨lead, rest, split, leads, last⟩ := List.map_eq_append_iff.mp same
  obtain ⟨place, rfl⟩ := Trace.symbols_eq_single.mp last
  have spelled : IsStatement ([.letWord, .name bound, .assign] ++ .number digits :: [])
      (.binding false bound false (.value (Decimal.value digits.toList))) :=
    .binding false bound .absent (.value (.plain digits))
  exact .number tokens whole nofun (.number split (leads ▸ spelled) long)

end Program

/-! ## Texts of records -/

namespace Record

/-- What a mapping holds under a key cannot be written. -/
def Unwritable (key : String) (v : Value) : Prop :=
  ∃ fields given, v.opened = .mapping fields ∧ Value.field? fields key = some given ∧
    given.plain? = none

/-- Behind records that are in order there is one whose operation has a name that cannot be written. -/
inductive Breaks : Nat → List Value → Prop
  | here {index : Nat} {record : Value} {rest : List Value} (unnamed : Unwritable "op" record) :
      Breaks index (record :: rest)
  | later {index : Nat} {record : Value} {rest : List Value} {a : Action}
      (fine : read index record = .ok a) (later : Breaks (index + 1) rest) :
      Breaks index (record :: rest)

theorem read_outcome (index : Nat) (record : Value) :
    ReadOutcome (fun fault => fault = .unwritable ∧ Unwritable "op" record) (read index record) := by
  unfold read
  split
  · next fields mapping =>
    unfold readFields
    split
    · exact .malformed _ _
    · next given operation =>
      split
      · next unwritable => exact .unbuilt ⟨rfl, fields, given, mapping, operation, unwritable⟩
      · dsimp only
        split
        · next a _ =>
          cases a with
          | error fault => exact .malformed _ _
          | ok a => exact .found a
        · exact .malformed _ _
  · exact .malformed _ _

theorem read_of_unwritable {record : Value} (unnamed : Unwritable "op" record) (index : Nat) :
    read index record = .error (.unreadable .unwritable) := by
  obtain ⟨fields, given, mapping, operation, unwritable⟩ := unnamed
  rw [read, mapping]
  dsimp only
  rw [readFields, operation]
  dsimp only
  rw [unwritable]

theorem readFrom_outcome (index : Nat) (l : List Value) :
    ReadOutcome (fun fault => fault = .unwritable ∧ Breaks index l) (readFrom index l) := by
  induction l generalizing index with
  | nil => exact .found []
  | cons record rest ih =>
    have first := (read_outcome index record).mono (Q := fun fault => fault = .unwritable ∧
      Breaks index (record :: rest)) fun _ why => ⟨why.1, .here why.2⟩
    refine first.bind fun a fine => ?_
    have more := (ih (index + 1)).mono (Q := fun fault => fault = .unwritable ∧
      Breaks index (record :: rest)) fun _ why => ⟨why.1, .later fine why.2⟩
    exact more.bind fun actions _ => .found (a :: actions)

theorem readFrom_of_breaks {index : Nat} {l : List Value} (breaks : Breaks index l) :
    readFrom index l = .error (.unreadable .unwritable) := by
  induction breaks with
  | here unnamed =>
    rw [readFrom, read_of_unwritable unnamed]
    rfl
  | later fine _ ih =>
    rw [readFrom, fine]
    show (readFrom _ _ >>= _) = _
    rw [ih]
    rfl

/-- What a document gives for its records: what stands under their name, or the document itself. -/
def given? (document : Value) : Option Value :=
  match document.opened with
  | .mapping fields => Value.field? fields "ops"
  | _ => some document

/-- What a text of records holds that cannot be built: a part of the document without value, or a name
    of the program or of an operation that cannot be written. -/
inductive Unbuilt [Document.Yaml.Library] (text : String) : ScalarFault → Prop
  | part {fault : ScalarFault} (broken : readDocument text = .error (.scalar fault)) :
      Unbuilt text fault
  | name {document : Value} (read : readDocument text = .ok document)
      (unnamed : Unwritable "name" document) : Unbuilt text .unwritable
  | operation {document : Value} {l : List Value} (read : readDocument text = .ok document)
      (records : (given? document).map Value.opened = some (.list l)) (breaks : Breaks 0 l) :
      Unbuilt text .unwritable

end Record

namespace Program

open Record (Breaks Unbuilt Unwritable given?)

theorem ofList_outcome (records : Option Value) (name : String) :
    ReadOutcome (fun fault => fault = .unwritable ∧
      ∃ l, records.map Value.opened = some (.list l) ∧ Breaks 0 l) (ofList records name) := by
  unfold ofList
  split
  · next l same =>
    exact ((Record.readFrom_outcome 0 l).map _).mono fun _ why => ⟨why.1, l, same, why.2⟩
  · exact .malformed _ _

theorem ofList_of_breaks {records : Option Value} {l : List Value}
    (same : records.map Value.opened = some (.list l)) (breaks : Breaks 0 l) (name : String) :
    ofList records name = .error (.unreadable .unwritable) := by
  rw [ofList, same]
  dsimp only
  rw [ofRecords, Record.readFrom_of_breaks breaks]
  rfl

/-- A document has a name that cannot be written, or it is read as its records under some name. -/
theorem ofDocument_cases (document : Value) (name : String) :
    (Unwritable "name" document ∧ ofDocument document name = .error (.unreadable .unwritable)) ∨
      ¬ Unwritable "name" document ∧
        ∃ own, ofDocument document name = ofList (given? document) own := by
  unfold ofDocument given? Unwritable
  cases document.opened with
  | mapping fields =>
    dsimp only
    cases named : Value.field? fields "name" with
    | none =>
      refine .inr ⟨?_, name, rfl⟩
      rintro ⟨_, given, ⟨⟩, here, -⟩
      rw [named] at here
      cases here
    | some given =>
      dsimp only [Option.map_some]
      cases written : given.plain? with
      | none => exact .inl ⟨⟨fields, given, rfl, named, written⟩, rfl⟩
      | some own =>
        refine .inr ⟨?_, own, rfl⟩
        rintro ⟨_, given', ⟨⟩, here, unwritable⟩
        rw [named, Option.some.injEq] at here
        rw [← here, written] at unwritable
        cases unwritable
  | _ => exact .inr ⟨by rintro ⟨_, _, ⟨⟩, -⟩, name, rfl⟩

variable [Document.Yaml.Library]

theorem readRecords_outcome (text name : String) :
    ReadOutcome (Unbuilt text) (readRecords text name) := by
  unfold readRecords
  split
  · next document read =>
    rcases ofDocument_cases document name with ⟨unnamed, broken⟩ | ⟨-, own, listed⟩
    · rw [broken]
      exact .unbuilt (.name read unnamed)
    · rw [listed]
      refine (ofList_outcome (given? document) own).mono ?_
      rintro _ ⟨rfl, l, same, breaks⟩
      exact .operation read same breaks
  · exact .malformed _ _
  · next fault broken => exact .unbuilt (.part broken)

theorem readRecords_of_unbuilt {text : String} {fault : ScalarFault} (unbuilt : Unbuilt text fault)
    (name : String) : readRecords text name = .error (.unreadable fault) := by
  unfold readRecords
  cases unbuilt with
  | part broken => rw [broken]
  | @name document read unnamed =>
    rw [read]
    rcases ofDocument_cases document name with ⟨-, broken⟩ | ⟨named, -⟩
    · exact broken
    · exact absurd unnamed named
  | @operation document l read records breaks =>
    rw [read]
    rcases ofDocument_cases document name with ⟨-, broken⟩ | ⟨-, own, listed⟩
    · exact broken
    · exact listed.trans (ofList_of_breaks records breaks own)

end Program

/-! ## Files -/

namespace Files

/-- Where a text can be read stands a file. -/
theorem holds_of_readText {t : Tree} {path text : String}
    (content : t.readText path = .ok text) :
    t.holds path = true := by
  unfold Tree.holds
  cases entry : t.entry path with
  | ok e => rfl
  | error e =>
    rw [Tree.readText, Tree.readCharacters, Tree.read, entry] at content
    cases content

variable [Document.Yaml.Library]

/-- What the text of the file at a path holds that cannot be built. -/
def Unbuilt (path text : String) (fault : ScalarFault) : Prop :=
  if holdsRecords path then Record.Unbuilt text fault else Trace.Unbuilt text path fault

theorem readProgram_outcome (path text : String) :
    ReadOutcome (Unbuilt path text) (readProgram path text) := by
  unfold readProgram Unbuilt
  split
  · exact Program.readRecords_outcome text (baseName path)
  · exact Program.parse_outcome text path (some (baseName path))

theorem readProgram_of_unbuilt {path text : String} {fault : ScalarFault}
    (unbuilt : Unbuilt path text fault) : readProgram path text = .error (.unreadable fault) := by
  unfold Unbuilt at unbuilt
  unfold readProgram
  split at unbuilt
  · next records =>
    rw [if_pos records]
    exact Program.readRecords_of_unbuilt unbuilt (baseName path)
  · next trace =>
    rw [if_neg trace]
    exact Program.parse_of_unbuilt unbuilt (some (baseName path))

variable {t : Tree} {path : String}

theorem programAt_of_readText {text : String} (content : t.readText path = .ok text) :
    t.programAt path = (readProgram path text).mapError .content := by
  rw [Tree.programAt, if_pos (holds_of_readText content), content]

/-- The content of a file gives no program because of one syntax fault, or because of something that
    cannot be built. -/
theorem content_cases {failure : ReadFailure}
    (read : t.programAt path = .error (.content failure)) :
    (∃ fault place, failure = .ofSyntax fault place) ∨ ∃ text fault, t.readText path = .ok text ∧
      Unbuilt path text fault ∧ failure = .unreadable fault := by
  cases content : t.readText path with
  | ok text =>
    rw [programAt_of_readText content] at read
    have outcome := readProgram_outcome path text
    cases program : readProgram path text with
    | ok p =>
      rw [program] at read
      cases read
    | error e =>
      rw [program] at read outcome
      cases read
      cases outcome with
      | malformed fault place => exact .inl ⟨fault, place, rfl⟩
      | @unbuilt fault why => exact .inr ⟨text, fault, rfl, why, rfl⟩
  | error e =>
    rw [Tree.programAt, content] at read
    split at read
    · cases e with
      | file failure => cases read
      | notUtf8 fault =>
        cases read
        exact .inl ⟨_, _, rfl⟩
    · cases read

end Files

/-! ## Commands -/

namespace CommandLine

variable {t : Files.Tree} {path : String} {task : Task}

/-- A file that gives no program is refused with exit code 2, unless something in it cannot be built;
    the task is then broken off. What is printed of a file's content is the one fault of its
    syntax. -/
theorem refused_of_failure [Document.Yaml.Library] (concerns : task.file? = some path)
    (style : Report.Style) (settings : Settings) {failure : Files.ProgramFailure}
    (read : t.programAt path = .error failure) :
    (∃ answer, task.run style t settings = .ok (answer, t) ∧ answer.exit = 2 ∧
      ∀ content, failure = .content content → ∃ fault place, content = .ofSyntax fault place ∧
        answer.out = printed (Issue.listText [.ofSyntax fault place])) ∨
    ∃ text fault, t.readText path = .ok text ∧ Files.Unbuilt path text fault ∧
      task.run style t settings = .error (.unreadable fault) := by
  obtain ⟨shown, ran⟩ := task.run_of_file concerns style t settings
  rw [examine_of_failure read settings task.records] at ran
  cases failure with
  | absent => exact .inl ⟨_, ran, rfl, nofun⟩
  | file failure => exact .inl ⟨_, ran, rfl, nofun⟩
  | content failure =>
    rcases Files.content_cases read with ⟨fault, place, rfl⟩ | ⟨text, fault, content, why, rfl⟩
    · refine .inl ⟨_, ran, rfl, ?_⟩
      rintro _ ⟨⟩
      exact ⟨fault, place, rfl, rfl⟩
    · exact .inr ⟨text, fault, content, why, ran⟩

/-- Where something cannot be built, a task is broken off. -/
theorem run_of_unbuilt [Document.Yaml.Library] (concerns : task.file? = some path) (style : Report.Style)
    (settings : Settings) {text : String} {fault : ScalarFault}
    (content : t.readText path = .ok text) (unbuilt : Files.Unbuilt path text fault) :
    task.run style t settings = .error (.unreadable fault) := by
  have read : t.programAt path = .error (.content (.unreadable fault)) := by
    rw [Files.programAt_of_readText content, Files.readProgram_of_unbuilt unbuilt]
    rfl
  obtain ⟨shown, ran⟩ := task.run_of_file concerns style t settings
  rw [examine_of_failure read settings task.records] at ran
  exact ran

/-- Reading comes to a program or to problems of the syntax. -/
def Reported : Except ReadFailure Program → Prop
  | .ok _ => True
  | .error (.malformed issues) => ∀ issue ∈ issues, issue.cause.kind = "syntax_error"
  | .error (.unreadable _) => False

instance (r : Except ReadFailure Program) : Decidable (Reported r) :=
  match r with
  | .ok _ => .isTrue trivial
  | .error (.malformed issues) =>
    inferInstanceAs (Decidable (∀ issue ∈ issues, issue.cause.kind = "syntax_error"))
  | .error (.unreadable _) => .isFalse id

theorem reported_iff {P : ScalarFault → Prop} {r : Except ReadFailure Program}
    (outcome : ReadOutcome P r) (broken : ∀ fault, P fault → r = .error (.unreadable fault)) :
    Reported r ↔ ∀ fault, ¬ P fault := by
  cases outcome with
  | found p =>
    refine ⟨fun _ fault why => ?_, fun _ => trivial⟩
    cases broken fault why
  | malformed fault place =>
    refine ⟨fun _ fault why => ?_, fun _ issue inside => ?_⟩
    · cases broken fault why
    · rw [List.mem_singleton.mp inside]
      rfl
  | unbuilt why => exact ⟨False.elim, fun none => none _ why⟩

/-- With any library that reads YAML: a text is read as a program or reported as malformed, unless it
    holds something that cannot be built, and then it is not. A file that gives no program is refused
    with exit code 2, unless its text holds such a thing, and then it is not. -/
theorem reading_reported [Document.Yaml.Library] (source file : String) (asked : Option String)
    (text name : String) (t : Files.Tree) (path : String) (task : Task) (style : Report.Style)
    (settings : Settings) :
    (Reported (Program.parse source file asked) ↔ ∀ fault, ¬ Trace.Unbuilt source file fault) ∧
    (Reported (Program.readRecords text name) ↔ ∀ fault, ¬ Record.Unbuilt text fault) ∧
    ∀ failure, t.programAt path = .error failure → task.file? = some path →
      ((∃ answer, task.run style t settings = .ok (answer, t) ∧ answer.exit = 2) ↔
        ∀ text fault, t.readText path = .ok text → ¬ Files.Unbuilt path text fault) := by
  refine ⟨?_, ?_, fun failure read concerns => ⟨?_, fun none => ?_⟩⟩
  · exact reported_iff (Program.parse_outcome source file asked)
      fun _ why => Program.parse_of_unbuilt why asked
  · exact reported_iff (Program.readRecords_outcome text name)
      fun _ why => Program.readRecords_of_unbuilt why name
  · rintro ⟨answer, ran, -⟩ text fault content unbuilt
    rw [run_of_unbuilt concerns style settings content unbuilt] at ran
    cases ran
  · rcases refused_of_failure concerns style settings read with
      ⟨answer, ran, exit, -⟩ | ⟨text, fault, content, unbuilt, -⟩
    · exact ⟨answer, ran, exit⟩
    · exact absurd unbuilt (none text fault content)

/-- A text that breaks off behind the name that is to be bound. -/
def unfinished : Files.Tree := holding "t.bs" "let x"

theorem reading_reported_unfinished : Reported (Program.parse "let x" "t.bs" none) ∧
    (∀ fault, ¬ Trace.Unbuilt "let x" "t.bs" fault) ∧
    ∀ text fault, unfinished.readText "t.bs" = .ok text → ¬ Files.Unbuilt "t.bs" text fault := by
  have unread : (unfinished.programAt "t.bs").toOption.isSome = false := by decide +kernel
  have refused : ((Task.check "t.bs" none none).run ⟨false⟩ unfinished {}).toOption.any
      (fun outcome => outcome.1.exit = 2 ∧ outcome.2 = unfinished) = true := by decide +kernel
  have reported : Reported (Program.parse "let x" "t.bs" none) := by decide +kernel
  obtain ⟨trace, -, file⟩ := reading_reported "let x" "t.bs" none "let x" "t.bs" unfinished "t.bs"
    (.check "t.bs" none none) ⟨false⟩ {}
  refine ⟨reported, trace.mp reported, ?_⟩
  cases read : unfinished.programAt "t.bs" with
  | ok p =>
    rw [read] at unread
    cases unread
  | error failure =>
    refine (file failure read rfl).mp ?_
    cases ran : (Task.check "t.bs" none none).run ⟨false⟩ unfinished {} with
    | error abort =>
      rw [ran] at refused
      cases refused
    | ok outcome =>
      rw [ran] at refused
      obtain ⟨exit, same⟩ := of_decide_eq_true refused
      exact ⟨outcome.1, congrArg (fun files => Except.ok (outcome.1, files)) same, exit⟩

/-- A record with a name that would be a day of the thirteenth month. -/
def wrongDay : String := "- \x7bop: declare, name: 2024-13-01, value: 1\x7d"

/-- A number that is written with a given number of ones. -/
def ones (count : Nat) : String := String.ofList (List.replicate count '1')

theorem length_ones (count : Nat) : (ones count).length = count := by
  rw [ones, String.length_ofList, List.length_replicate]

theorem isDigit_of_mem_ones {count : Nat} {d : Char} (inside : d ∈ (ones count).toList) :
    d.isDigit = true := by
  rw [ones, String.toList_ofList] at inside
  rw [List.eq_of_mem_replicate inside]
  rfl

/-- Neither all trace texts nor all texts of records that give no program are reported as malformed, and
    not all files that give none are refused. -/
theorem not_forall_reported :
    (¬ ∀ source file name, Reported (Program.parse source file name)) ∧
    (¬ ∀ text name, Reported (Program.readRecords text name)) ∧
    ¬ ∀ (t : Files.Tree) (path : String) (failure : Files.ProgramFailure),
      t.programAt path = .error failure →
      ∀ (task : Task) (style : Report.Style) (settings : Settings), task.file? = some path →
        ∃ answer, task.run style t settings = .ok (answer, t) ∧ answer.exit = 2 := by
  refine ⟨fun all => ?_, fun all => ?_, fun all => ?_⟩
  · have long : Decimal.literalLimit < (ones 4301).length := by
      rw [length_ones, Decimal.literalLimit]
      omega
    have named : Trace.IsName "x" := by decide
    have unbuilt := Program.unbuilt_of_binding named (fun _ => isDigit_of_mem_ones) long "t"
    have reported := all ("let " ++ "x" ++ " = " ++ ones 4301) "t" none
    rw [Program.parse_of_unbuilt unbuilt] at reported
    exact reported
  · exact absurd (all wrongDay "t") (by decide +kernel)
  · have unread : ((holding "t.yml" wrongDay).programAt "t.yml").toOption.isSome = false := by
      decide +kernel
    have broken : ((Task.check "t.yml" none none).run ⟨false⟩ (holding "t.yml" wrongDay)
        {}).toOption.isSome = false := by decide +kernel
    cases read : (holding "t.yml" wrongDay).programAt "t.yml" with
    | ok p =>
      rw [read] at unread
      cases unread
    | error failure =>
      obtain ⟨answer, ran, -⟩ := all _ _ failure read (.check "t.yml" none none) ⟨false⟩ {} rfl
      rw [ran] at broken
      cases broken

end CommandLine

end PointerTrace
