import PointerTrace.Trace.Parser

/- The grammar of the trace language. It says which lists of symbols are a statement, and which one; it
   has one relation for each part of a statement, and knows nothing of how tokens are read. A
   statement has at most one number, and what stands before it is known as well: a second family of
   relations says what leads to a number, and does so exactly (`leadsStatement_iff`). -/
namespace PointerTrace.Trace

/-! ## The grammar -/

/-- `int = '-'? number` -/
inductive IsInteger : List Symbol → Int → Prop
  | plain (digits : String) : IsInteger [.number digits] (Decimal.value digits.toList)
  | negative (digits : String) :
      IsInteger [.minus, .number digits] (-(Decimal.value digits.toList : Int))

/-- The word of a cast to a pointer. -/
def kindWord : BorrowKind → Symbol
  | .shared => .constWord
  | .unique => .mutWord

/-- `cast = '*' ('const' | 'mut') name? | integer type` -/
inductive IsCast : List Symbol → Cast → Prop
  | pointer (kind : BorrowKind) (pointee : Option String) :
      IsCast (.star :: kindWord kind :: (pointee.map Symbol.name).toList) (.pointer kind)
  | integer {type : String} (known : type ∈ integerTypes) : IsCast [.name type] .integer

/-- `casts = ('as' cast)*` -/
inductive IsCasts : List Symbol → List Cast → Prop
  | nil : IsCasts [] []
  | cons {l k : List Symbol} {cast : Cast} {casts : List Cast} (first : IsCast l cast)
      (more : IsCasts k casts) : IsCasts (.asWord :: (l ++ k)) (cast :: casts)

/-- `primary = '&' 'mut'? name | name` -/
inductive IsPrimary : List Symbol → Primary → Prop
  | shared (target : String) : IsPrimary [.ampersand, .name target] (.borrow .shared target)
  | unique (target : String) : IsPrimary [.ampersand, .mutWord, .name target] (.borrow .unique target)
  | name (name : String) : IsPrimary [.name name] (.name name)

/-- `pointer = primary casts` -/
inductive IsPointer : List Symbol → PointerExpr → Prop
  | mk {l k : List Symbol} {primary : Primary} {casts : List Cast} (start : IsPrimary l primary)
      (more : IsCasts k casts) : IsPointer (l ++ k) ⟨primary, casts⟩

/-- `init = int | cell type '::' 'new' '(' int ')' | '*' name | pointer` -/
inductive IsInitializer : List Symbol → Initializer → Prop
  | value {l : List Symbol} {n : Int} (int : IsInteger l n) : IsInitializer l (.value n)
  | cell {type : String} (known : type ∈ cellTypes) {l : List Symbol} {n : Int}
      (int : IsInteger l n) : IsInitializer
        (.name type :: .doubleColon :: .name "new" :: .leftParen :: (l ++ [.rightParen])) (.cell n)
  | deref (source : String) : IsInitializer [.star, .name source] (.deref source)
  | pointer {l : List Symbol} {e : PointerExpr} (pointer : IsPointer l e) :
      IsInitializer l (.pointer e)

/-- `annotation = (':' name)?`, with whether it names an interior-mutable type -/
inductive IsAnnotation : List Symbol → Bool → Prop
  | absent : IsAnnotation [] false
  | type (type : String) : IsAnnotation [.colon, .name type] (type ∈ cellTypes)

/-- `statement = 'let' 'mut'? name annotation '=' init | '*' name ('=' int)? | name '=' int
    | name '(' pointer ')'` -/
inductive IsStatement : List Symbol → Statement → Prop
  | binding (isMutable : Bool) (name : String) {k l : List Symbol} {isCell : Bool}
      {init : Initializer} (typed : IsAnnotation k isCell) (bound : IsInitializer l init) :
      IsStatement (.letWord :: ((if isMutable then [.mutWord] else []) ++
        (.name name :: (k ++ (.assign :: l))))) (.binding isMutable name isCell init)
  | deref (source : String) : IsStatement [.star, .name source] (.deref source none)
  | derefAssign (source : String) {l : List Symbol} {n : Int} (int : IsInteger l n) :
      IsStatement (.star :: .name source :: .assign :: l) (.deref source (some n))
  | assign (name : String) {l : List Symbol} {n : Int} (int : IsInteger l n) :
      IsStatement (.name name :: .assign :: l) (.assign name n)
  | call (function : String) {l : List Symbol} {e : PointerExpr} (argument : IsPointer l e) :
      IsStatement (.name function :: .leftParen :: (l ++ [.rightParen])) (.call function e)

/-! ## What leads to a number -/

/-- What an integer has before its number. -/
inductive LeadsInteger : List Symbol → Prop
  | plain : LeadsInteger []
  | negative : LeadsInteger [.minus]

/-- What an initializer has before its number. -/
inductive LeadsInitializer : List Symbol → Prop
  | value {l : List Symbol} (int : LeadsInteger l) : LeadsInitializer l
  | cell {type : String} (known : type ∈ cellTypes) {l : List Symbol} (int : LeadsInteger l) :
      LeadsInitializer (.name type :: .doubleColon :: .name "new" :: .leftParen :: l)

/-- What a statement has before its number. -/
inductive LeadsStatement : List Symbol → Prop
  | binding (isMutable : Bool) (name : String) {k l : List Symbol} {isCell : Bool}
      (typed : IsAnnotation k isCell) (init : LeadsInitializer l) :
      LeadsStatement (.letWord :: ((if isMutable then [.mutWord] else []) ++
        (.name name :: (k ++ (.assign :: l)))))
  | derefAssign (source : String) {l : List Symbol} (int : LeadsInteger l) :
      LeadsStatement (.star :: .name source :: .assign :: l)
  | assign (name : String) {l : List Symbol} (int : LeadsInteger l) :
      LeadsStatement (.name name :: .assign :: l)

theorem LeadsInteger.continues {l : List Symbol} (leads : LeadsInteger l) (digits : String) :
    ∃ n, IsInteger (l ++ [.number digits]) n := by
  cases leads with
  | plain => exact ⟨_, .plain digits⟩
  | negative => exact ⟨_, .negative digits⟩

theorem LeadsInitializer.continues {l : List Symbol} (leads : LeadsInitializer l)
    (digits : String) : ∃ more init, IsInitializer (l ++ .number digits :: more) init := by
  cases leads with
  | value int =>
    obtain ⟨n, int⟩ := int.continues digits
    exact ⟨[], _, .value int⟩
  | cell known int =>
    obtain ⟨n, int⟩ := int.continues digits
    exact ⟨[.rightParen], _, by simpa using IsInitializer.cell known int⟩

theorem LeadsStatement.continues {l : List Symbol} (leads : LeadsStatement l) (digits : String) :
    ∃ more statement, IsStatement (l ++ .number digits :: more) statement := by
  cases leads with
  | binding isMutable name typed init =>
    obtain ⟨more, init, bound⟩ := init.continues digits
    exact ⟨more, _, by simpa using IsStatement.binding isMutable name typed bound⟩
  | derefAssign source int =>
    obtain ⟨n, int⟩ := int.continues digits
    exact ⟨[], _, .derefAssign source int⟩
  | assign name int =>
    obtain ⟨n, int⟩ := int.continues digits
    exact ⟨[], _, .assign name int⟩

/-- No number is among the symbols. -/
def Numberless (l : List Symbol) : Prop := ∀ digits, Symbol.number digits ∉ l

theorem IsCast.numberless {l : List Symbol} {cast : Cast} (spelled : IsCast l cast) :
    Numberless l := by
  intro digits
  cases spelled with
  | pointer kind pointee => cases kind <;> cases pointee <;> simp [kindWord]
  | integer => simp

theorem IsCasts.numberless {l : List Symbol} {casts : List Cast} (spelled : IsCasts l casts) :
    Numberless l := by
  intro digits
  induction spelled with
  | nil => simp
  | cons first more ih => simp [first.numberless digits, ih]

theorem IsPointer.numberless {l : List Symbol} {e : PointerExpr} (spelled : IsPointer l e) :
    Numberless l := by
  intro digits
  cases spelled with
  | mk start more => cases start <;> simp [more.numberless digits]

theorem IsAnnotation.numberless {l : List Symbol} {isCell : Bool} (spelled : IsAnnotation l isCell) :
    Numberless l := by
  intro digits
  cases spelled <;> simp

section Split

variable {k l m more : List Symbol} {digits : String}

/-- A number behind symbols without one. -/
theorem Numberless.behind (numberless : Numberless k)
    (same : k ++ m = l ++ .number digits :: more) :
    ∃ l', l = k ++ l' ∧ m = l' ++ .number digits :: more := by
  rcases List.append_eq_append_iff.mp same with behind | ⟨c, rfl, rest⟩
  · exact behind
  · cases c with
    | nil => exact ⟨[], by simp, by simpa using rest.symm⟩
    | cons s c =>
      obtain ⟨rfl, -⟩ := List.cons.inj rest
      exact absurd (List.mem_append_right l List.mem_cons_self) (numberless digits)

/-- A number before symbols without one. -/
theorem Numberless.before (numberless : Numberless m)
    (same : k ++ m = l ++ .number digits :: more) : ∃ more', k = l ++ .number digits :: more' := by
  rcases List.append_eq_append_iff.mp same with ⟨c, rfl, rest⟩ | ⟨c, rfl, rest⟩
  · exact absurd (rest ▸ List.mem_append_right c List.mem_cons_self) (numberless digits)
  · cases c with
    | nil =>
      rw [List.nil_append] at rest
      exact absurd (rest ▸ List.mem_cons_self) (numberless digits)
    | cons s c =>
      obtain ⟨rfl, -⟩ := List.cons.inj rest
      exact ⟨c, rfl⟩

theorem Numberless.ne (numberless : Numberless k) : k ≠ l ++ .number digits :: more :=
  fun same => numberless digits (same ▸ List.mem_append_right l List.mem_cons_self)

theorem IsInteger.leads {n : Int} (int : IsInteger k n) (same : k = l ++ .number digits :: more) :
    LeadsInteger l := by
  cases int with
  | plain =>
    cases l with
    | nil => exact .plain
    | cons s l => simp at same
  | negative d =>
    have sign : Numberless [.minus] := by simp [Numberless]
    obtain ⟨l', rfl, number⟩ := sign.behind (m := [.number d]) same
    cases l' with
    | nil => exact .negative
    | cons s l => simp at number

theorem IsInitializer.leads {init : Initializer} (spelled : IsInitializer k init)
    (same : k = l ++ .number digits :: more) : LeadsInitializer l := by
  cases spelled with
  | value int => exact .value (int.leads same)
  | @cell type known i n int =>
    have opening : Numberless [.name type, .doubleColon, .name "new", .leftParen] := by
      simp [Numberless]
    have closing : Numberless [.rightParen] := by simp [Numberless]
    obtain ⟨l', rfl, inner⟩ := opening.behind same
    obtain ⟨more', inner⟩ := closing.before inner
    exact .cell known (int.leads inner)
  | deref source =>
    have none : Numberless [.star, .name source] := by simp [Numberless]
    exact absurd same none.ne
  | pointer pointer => exact absurd same pointer.numberless.ne

/-- Numbers stand where they are led to, and nowhere else. -/
theorem leadsStatement_iff : LeadsStatement l ↔ ∃ digits more statement,
    IsStatement (l ++ .number digits :: more) statement := by
  constructor
  · exact fun leads => ⟨"", leads.continues ""⟩
  · rintro ⟨digits, more, statement, spelled⟩
    generalize same : l ++ Symbol.number digits :: more = k at spelled
    replace same := same.symm
    cases spelled with
    | @binding isMutable name a i isCell init typed bound =>
      have start : Numberless (.letWord :: ((if isMutable then [.mutWord] else []) ++
          (.name name :: (a ++ [.assign])))) := by
        intro digits
        cases isMutable <;> simp [typed.numberless digits]
      obtain ⟨l', rfl, inner⟩ := start.behind (by simpa using same)
      simpa using LeadsStatement.binding isMutable name typed (bound.leads inner)
    | deref source =>
      have none : Numberless [.star, .name source] := by simp [Numberless]
      exact absurd same none.ne
    | derefAssign source int =>
      have start : Numberless [.star, .name source, .assign] := by simp [Numberless]
      obtain ⟨l', rfl, inner⟩ := start.behind same
      exact .derefAssign source (int.leads inner)
    | assign name int =>
      have start : Numberless [.name name, .assign] := by simp [Numberless]
      obtain ⟨l', rfl, inner⟩ := start.behind same
      exact .assign name (int.leads inner)
    | @call function i e argument =>
      have none : Numberless (.name function :: .leftParen :: (i ++ [.rightParen])) := by
        intro digits
        simp [argument.numberless digits]
      exact absurd same none.ne

end Split

end PointerTrace.Trace
