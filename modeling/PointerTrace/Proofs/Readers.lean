import PointerTrace.Proofs.Grammar

/- What the readers of the parts of a statement take. A reader takes from the front of the tokens what
   the grammar allows, or it fails: at a place, or at a number of too many digits behind what leads to
   a number (`Reads`). One reader after the other takes what one part of the grammar after the other
   allows (`Reads.bind`), so that each reader is proved from those that it calls, up to a statement
   (`reads_statement`). -/
namespace PointerTrace.Trace

/-- No number has more digits than are read. -/
def Short (tokens : List Token) : Prop :=
  ∀ t ∈ tokens, ∀ digits, t.symbol = .number digits → digits.length ≤ Decimal.literalLimit

/-- How a reader of tokens fails: with one syntax fault at a place, or because a number has more digits
    than are read, which stands behind what may lead to a number. -/
inductive Fails (tokens : List Token) (B : List Symbol → Prop) : ReadFailure → Prop
  | fault (fault : SyntaxFault) (place : Location) : Fails tokens B (.ofSyntax fault (some place))
  | digits {lead rest : List Token} {digits : String} {place : Location}
      (split : tokens = lead ++ ⟨.number digits, place⟩ :: rest) (leads : B (lead.map Token.symbol))
      (long : Decimal.literalLimit < digits.length) :
      Fails tokens B (.unreadable (.tooManyDigits digits.length))

/-- The outcome of a reader: what it took from the front of the tokens is what a relation says, or it
    failed, at a number only behind what may lead to one. -/
structure Reads {α : Type} (tokens : List Token) (G : List Symbol → α → Prop)
    (B : List Symbol → Prop) (r : Except ReadFailure (α × List Token)) : Prop where
  took : ∀ {x rest}, r = .ok (x, rest) →
    ∃ used, tokens = used ++ rest ∧ G (used.map Token.symbol) x
  failed : ∀ {e}, r = .error e → Fails tokens B e

section Reads

variable {α β : Type} {tokens : List Token} {G : List Symbol → α → Prop} {B : List Symbol → Prop}
  {stop : Token}

theorem Short.tail {t : Token} {rest : List Token} (short : Short (t :: rest)) : Short rest :=
  fun u hu => short u (List.mem_cons_of_mem t hu)

theorem Short.right {used rest : List Token} (short : Short (used ++ rest)) : Short rest :=
  fun t ht => short t (List.mem_append_right used ht)

theorem Short.left {used rest : List Token} (short : Short (used ++ rest)) : Short used :=
  fun t ht => short t (List.mem_append_left rest ht)

/-- A failure behind tokens that were taken. -/
theorem Fails.behind (used : List Token) {rest : List Token} {e : ReadFailure}
    (fails : Fails rest (fun l => B (used.map Token.symbol ++ l)) e) : Fails (used ++ rest) B e := by
  cases fails with
  | fault fault place => exact .fault fault place
  | @digits lead more digits place split leads long =>
    have whole : used ++ rest = (used ++ lead) ++ ⟨.number digits, place⟩ :: more := by
      rw [split, List.append_assoc]
    rw [← List.map_append] at leads
    exact .digits whole leads long

/-- Where no number has too many digits, only the syntax can be at fault. -/
theorem Fails.of_short {e : ReadFailure} (fails : Fails tokens B e) (short : Short tokens) :
    ∃ fault place, e = .ofSyntax fault (some place) := by
  cases fails with
  | fault fault place => exact ⟨fault, place, rfl⟩
  | digits split leads long =>
    subst split
    exact absurd (short.right _ List.mem_cons_self _ rfl) (Nat.not_le.mpr long)

theorem Reads.nothing {x : α} (fits : G [] x) : Reads tokens G B (.ok (x, tokens)) where
  took := by
    rintro _ _ ⟨⟩
    exact ⟨[], rfl, fits⟩
  failed := nofun

theorem Reads.fault (fault : SyntaxFault) (place : Location) :
    Reads tokens G B (.error (.ofSyntax fault (some place))) where
  took := nofun
  failed := by
    rintro _ ⟨⟩
    exact .fault fault place

theorem Reads.failAt (rest : List Token) (fault : Symbol → SyntaxFault) :
    Reads tokens G B (.error (failAt stop rest fault)) :=
  .fault ..

theorem Reads.mono {H : List Symbol → α → Prop} {r : Except ReadFailure (α × List Token)}
    (reads : Reads tokens G B r) (weaker : ∀ l x, G l x → H l x) : Reads tokens H B r where
  took same := by
    obtain ⟨used, split, fits⟩ := reads.took same
    exact ⟨used, split, weaker _ _ fits⟩
  failed := reads.failed

theorem Reads.leading {C : List Symbol → Prop} {r : Except ReadFailure (α × List Token)}
    (reads : Reads tokens G B r) (weaker : ∀ l, B l → C l) : Reads tokens G C r where
  took := reads.took
  failed same := by
    cases reads.failed same with
    | fault fault place => exact .fault fault place
    | digits split leads long => exact .digits split (weaker _ leads) long

/-- A token that the reader looked at and took. -/
theorem Reads.cons {t : Token} {r : Except ReadFailure (α × List Token)}
    (rest : Reads tokens (fun l x => G (t.symbol :: l) x) (fun l => B (t.symbol :: l)) r) :
    Reads (t :: tokens) G B r where
  took same := by
    obtain ⟨used, rfl, fits⟩ := rest.took same
    exact ⟨t :: used, rfl, fits⟩
  failed same := .behind [t] (rest.failed same)

/-- One reader after the other. -/
theorem Reads.bind {H : List Symbol → β → Prop} {r : Except ReadFailure (α × List Token)}
    {f : α × List Token → Except ReadFailure (β × List Token)} (first : Reads tokens G B r)
    (next : ∀ x rest l, G l x →
      Reads rest (fun k y => H (l ++ k) y) (fun k => B (l ++ k)) (f (x, rest))) :
    Reads tokens H B (r >>= f) := by
  cases r with
  | error e =>
    refine ⟨nofun, ?_⟩
    rintro _ ⟨⟩
    exact first.failed rfl
  | ok taken =>
    obtain ⟨x, rest⟩ := taken
    obtain ⟨used, rfl, fits⟩ := first.took rfl
    have later := next x rest _ fits
    refine ⟨fun same => ?_, fun same => .behind used (later.failed same)⟩
    obtain ⟨more, rfl, fits'⟩ := later.took same
    exact ⟨used ++ more, (List.append_assoc ..).symm, by rw [List.map_append]; exact fits'⟩

variable (stop)

theorem reads_name (what : String) (tokens : List Token) :
    Reads tokens (fun l x => l = [.name x.1]) B (readName stop what tokens) := by
  unfold readName
  split
  · exact .cons (.nothing rfl)
  · exact .failAt _ _

theorem reads_symbol (symbol : Symbol) (what : String) (tokens : List Token) :
    Reads tokens (fun l _ => l = [symbol]) B (readSymbol stop symbol what tokens) := by
  unfold readSymbol
  split
  · split
    · next same => exact .cons (.nothing (by rw [same]))
    · exact .failAt _ _
  · exact .failAt _ _

theorem reads_number (tokens : List Token) : Reads tokens
    (fun l n => ∃ digits, l = [.number digits] ∧ n = Decimal.value digits.toList) (· = [])
    (readNumber stop tokens) := by
  unfold readNumber
  split
  · next digits place rest =>
    rw [Decimal.literal, String.length_toList]
    by_cases long : Decimal.literalLimit < digits.length
    · rw [if_pos long]
      refine ⟨nofun, ?_⟩
      rintro _ ⟨⟩
      exact .digits (List.nil_append _).symm rfl long
    · rw [if_neg long]
      exact .cons (.nothing ⟨digits, rfl, rfl⟩)
  · exact .failAt _ _

theorem reads_int (tokens : List Token) :
    Reads tokens IsInteger LeadsInteger (readInt stop tokens) := by
  unfold readInt
  split
  · next place rest =>
    have leads : ∀ l, l = [] → LeadsInteger (.minus :: l) := fun l none => none ▸ .negative
    refine .cons (.bind ((reads_number stop _).leading leads) ?_)
    rintro n rest _ ⟨digits, rfl, rfl⟩
    exact .nothing (.negative digits)
  · have leads : ∀ l, l = [] → LeadsInteger l := fun l none => none ▸ .plain
    refine .bind ((reads_number stop _).leading leads) ?_
    rintro n rest _ ⟨digits, rfl, rfl⟩
    exact .nothing (.plain digits)

theorem reads_pointee {x : α} (tokens : List Token) :
    Reads tokens (fun l y => y = x ∧ ∃ pointee : Option String, l = (pointee.map Symbol.name).toList)
      B (.ok (x, skipPointee tokens)) := by
  unfold skipPointee
  split
  · next name place rest => exact .cons (.nothing ⟨rfl, some name, rfl⟩)
  · exact .nothing ⟨rfl, none, rfl⟩

theorem reads_cast (tokens : List Token) : Reads tokens IsCast B (readCast stop tokens) := by
  unfold readCast
  split
  · refine .cons (.cons ((reads_pointee _).mono ?_))
    rintro _ _ ⟨rfl, pointee, rfl⟩
    exact .pointer .shared pointee
  · refine .cons (.cons ((reads_pointee _).mono ?_))
    rintro _ _ ⟨rfl, pointee, rfl⟩
    exact .pointer .unique pointee
  · exact .failAt _ _
  · refine .bind (reads_name stop _ _) ?_
    rintro ⟨type, place⟩ rest _ rfl
    dsimp only
    split
    · next known => exact .nothing (.integer known)
    · exact .fault _ _

theorem reads_casts (links : Nat) (tokens : List Token) :
    Reads tokens IsCasts B (readCasts stop links tokens) := by
  induction links generalizing tokens B with
  | zero => exact .nothing .nil
  | succ links ih =>
    unfold readCasts
    split
    · next more place rest same =>
      cases same
      refine .cons (.bind (reads_cast stop _) ?_)
      intro cast rest l first
      refine .bind (ih _) ?_
      intro casts rest k more
      exact .nothing (by rw [List.append_nil]; exact .cons first more)
    · exact .nothing .nil

theorem reads_primary (tokens : List Token) :
    Reads tokens IsPrimary B (readPrimary stop tokens) := by
  unfold readPrimary
  split
  · refine .cons (.cons (.bind (reads_name stop _ _) ?_))
    rintro ⟨target, place⟩ rest _ rfl
    exact .nothing (.unique target)
  · refine .cons (.bind (reads_name stop _ _) ?_)
    rintro ⟨target, place⟩ rest _ rfl
    exact .nothing (.shared target)
  · refine .bind (reads_name stop _ _) ?_
    rintro ⟨name, place⟩ rest _ rfl
    exact .nothing (.name name)

theorem reads_pointer (tokens : List Token) :
    Reads tokens IsPointer B (readPointer stop tokens) := by
  refine .bind (reads_primary stop _) ?_
  intro primary rest l start
  refine .bind (reads_casts stop rest.length _) ?_
  intro casts rest k more
  exact .nothing (by rw [List.append_nil]; exact .mk start more)

theorem reads_cell (type : String) (place : Location) (tokens : List Token) :
    Reads tokens (fun l x => IsInitializer (.name type :: l) x)
      (fun l => LeadsInitializer (.name type :: l)) (readCell stop type place tokens) := by
  unfold readCell
  split
  · exact .fault _ _
  · next known =>
    have known := Decidable.not_not.mp known
    refine .bind (reads_symbol stop _ _ _) ?_
    rintro - rest _ rfl
    refine .bind (reads_name stop _ _) ?_
    rintro ⟨constructor, place⟩ rest _ rfl
    dsimp only
    split
    · exact .fault _ _
    · next new =>
      obtain rfl := Decidable.not_not.mp new
      refine .bind (reads_symbol stop _ _ _) ?_
      rintro - rest _ rfl
      refine .bind ((reads_int stop _).leading fun l int => .cell known int) ?_
      intro n rest l int
      refine .bind (reads_symbol stop _ _ _) ?_
      rintro - rest _ rfl
      have cell := IsInitializer.cell known int
      exact .nothing (by simpa using cell)

theorem reads_initializer (tokens : List Token) :
    Reads tokens IsInitializer LeadsInitializer (readInitializer stop tokens) := by
  have value : ∀ tokens, Reads tokens IsInitializer LeadsInitializer
      (readInt stop tokens >>= fun taken => pure (.value taken.1, taken.2)) := by
    intro tokens
    refine .bind ((reads_int stop _).leading fun l int => .value int) ?_
    intro n rest l int
    exact .nothing (by rw [List.append_nil]; exact .value int)
  unfold readInitializer
  split
  · exact value _
  · exact value _
  · exact .cons (reads_cell stop _ _ _)
  · refine .cons (.bind (reads_name stop _ _) ?_)
    rintro ⟨source, place⟩ rest _ rfl
    exact .nothing (.deref source)
  · refine .bind (reads_pointer stop _) ?_
    intro e rest l pointer
    exact .nothing (by rw [List.append_nil]; exact .pointer pointer)

theorem reads_annotated (tokens : List Token) :
    Reads tokens IsAnnotation B <| readAnnotation stop tokens := by
  unfold readAnnotation
  split
  · refine .cons (.bind (reads_name stop _ _) ?_)
    rintro ⟨type, place⟩ rest _ rfl
    exact .nothing (.type type)
  · exact .nothing .absent

theorem reads_binding (isMutable : Bool) (tokens : List Token) :
    Reads tokens
      (fun l x => IsStatement (.letWord :: ((if isMutable then [.mutWord] else []) ++ l)) x)
      (fun l => LeadsStatement (.letWord :: ((if isMutable then [.mutWord] else []) ++ l)))
      (readBinding stop isMutable tokens) := by
  refine .bind (reads_name stop _ _) ?_
  rintro ⟨name, place⟩ rest _ rfl
  refine .bind (reads_annotated stop _) ?_
  intro isCell rest k typed
  refine .bind (reads_symbol stop _ _ _) ?_
  rintro - rest _ rfl
  have leads : ∀ l, LeadsInitializer l → LeadsStatement (.letWord ::
      ((if isMutable then [.mutWord] else []) ++ ([.name name] ++ (k ++ ([.assign] ++ l))))) :=
    fun l init => .binding isMutable name typed init
  refine .bind ((reads_initializer stop _).leading leads) ?_
  intro init rest l bound
  have binding := IsStatement.binding isMutable name typed bound
  exact .nothing (by simpa using binding)

/-- A statement is taken as the grammar says, or the failure has a place, but for a number of too many
    digits where a number may stand. -/
theorem reads_statement (tokens : List Token) :
    Reads tokens IsStatement LeadsStatement (readStatement stop tokens) := by
  unfold readStatement
  split
  · exact .cons (.cons (reads_binding stop true _))
  · exact .cons (reads_binding stop false _)
  · refine .cons (.bind (reads_name stop _ _) ?_)
    rintro ⟨source, place⟩ rest _ rfl
    dsimp only
    split
    · refine .cons (.bind ((reads_int stop _).leading fun l int => .derefAssign source int) ?_)
      intro n rest l int
      exact .nothing (by rw [List.append_nil]; exact .derefAssign source int)
    · exact .nothing (.deref source)
  · refine .cons (.cons (.bind ((reads_int stop _).leading fun l int => .assign _ int) ?_))
    intro n rest l int
    exact .nothing (by rw [List.append_nil]; exact .assign _ int)
  · refine .cons (.cons (.bind (reads_pointer stop _) ?_))
    intro e rest l argument
    refine .bind (reads_symbol stop _ _ _) ?_
    rintro - rest _ rfl
    exact .nothing (.call _ argument)
  · exact .failAt _ _

end Reads

end PointerTrace.Trace
