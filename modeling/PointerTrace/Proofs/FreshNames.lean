import PointerTrace.Proofs.RecordRoundTrip
import PointerTrace.Proofs.Temporaries

/- Names that a builder chooses. A program counts the temporaries that it hands out. As long as it is
   made by reading a text and by calls of its builder, the temporaries that it binds are those up to
   the count (`Program.Made.numbers`), so that the next one is new. Records hold the names and not the
   count: a program that is read from records counts anew, and hands out once more the temporaries
   that are bound in it (`Program.issues_of_reloaded`). -/
namespace PointerTrace

/-! ## Calls of a builder -/

/-- What a pointer is derived from, and how. A cast to a pointer is a reborrow. -/
inductive Source where
  | borrow (target : String) (kind : BorrowKind)
  | reborrow (source : String) (kind : BorrowKind)
  | toInteger (source : String)

/-- The operation that derives a pointer. -/
def Source.action (result : String) : Source → Action
  | .borrow target kind => .borrow target kind result
  | .reborrow source kind => .reborrow source kind result
  | .toInteger source => .toInteger source result

/-- A call of a program's builder. -/
inductive BuilderCall where
  | declare (name : String) (value : Int) (isMutable interiorMutable : Bool)
  | derive (source : Source) (result : Option String)
  | read (source : String) (binding : Option String)
  | write (source : String) (value : Int)
  | call (source function : String)

/-- The name that a call gives to what it makes, if any. -/
def BuilderCall.given? : BuilderCall → Option String
  | .declare name .. => some name
  | .derive _ result => nonempty result
  | .read .. | .write .. | .call .. => none

namespace Program

/-- Appends a derivation and returns the name of the new pointer. -/
def derive (p : Program) (result : Option String) : Source → String × Program
  | .borrow target kind => p.borrow target kind result
  | .reborrow source kind => p.reborrow source kind result
  | .toInteger source => p.toInteger source result

/-- The program after a call of its builder. -/
def afterCall (p : Program) : BuilderCall → Program
  | .declare name value isMutable interiorMutable => p.declare name value isMutable interiorMutable
  | .derive source result => (p.derive result source).2
  | .read source binding => (p.read source binding).2
  | .write source value => (p.write source value).2
  | .call source function => (p.call source function).2

/-- Programs that are read from a text or made by calls of a builder, where no name that is given is a
    temporary. A name of the language is none. -/
inductive Made : Program → Prop where
  | parsed {source file : String} {name : Option String} {p : Program}
      (parsed : parse source file name = .ok p) : Made p
  | empty (name : String) : Made (empty name)
  | call {p : Program} {c : BuilderCall} (made : Made p)
      (given : ∀ name, c.given? = some name → temporaryNumber? name = none) : Made (p.afterCall c)

/-- A pointer can be derived: a borrow is one of a variable, and another one has a name to start
    from. -/
def Usable (p : Program) : Source → Prop
  | .borrow target _ => ∃ writable, p.DeclaredBefore p.length target writable
  | .reborrow source _ | .toInteger source => p.Binds source

/-- A program to which pointers are added one after the other, and the names that are chosen for
    them. -/
inductive Extends (p : Program) : List String → Program → Prop where
  | start : Extends p [] p
  | derive {names : List String} {r : Program} {source : Source} (before : Extends p names r)
      (usable : r.Usable source) :
      Extends p (names ++ [(r.derive none source).1]) (r.derive none source).2

variable {p r : Program} {name : String} {names : List String} {source : Source} {act : Action}

/-! ## What a call adds -/

@[simp] theorem actions_add (p : Program) (act : Action) : (p.add act).actions = p.actions ++ [act] := by
  simp [actions, add]

@[simp] theorem length_add (p : Program) (act : Action) : (p.add act).length = p.length + 1 := by
  simp [length, add]

theorem binds_add : (p.add act).Binds name ↔ p.Binds name ∨ act.result? = some name := by
  simp [Binds, add, or_and_right, exists_or]

theorem derive_given {result : Option String} (given : nonempty result = some name) :
    (p.derive result source).2 = p.add (source.action name) := by
  cases source <;> simp [derive, borrow, reborrow, toInteger, resultName, given, Source.action]

/-- For a name that is left out the next temporary is chosen. -/
theorem derive_chosen {result : Option String} (left : nonempty result = none) :
    p.derive result source = (temporary (p.temporaries + 1),
      p.fresh.2.add (source.action (temporary (p.temporaries + 1)))) := by
  cases source <;> simp [derive, borrow, reborrow, toInteger, resultName, left, Source.action, fresh]

@[simp] theorem result?_action (source : Source) (result : String) :
    (source.action result).result? = some result := by
  cases source <;> rfl

theorem boundBefore_length : p.BoundBefore p.length name ↔ p.Binds name := by
  constructor
  · rintro ⟨k, op, -, here, binds⟩
    exact ⟨op, List.mem_of_getElem? here, binds⟩
  · rintro ⟨op, inside, binds⟩
    obtain ⟨k, here⟩ := List.mem_iff_getElem?.mp inside
    exact ⟨k, op, (List.getElem?_eq_some_iff.mp here).1, here, binds⟩

/-! ## The count -/

/-- A call that binds no temporary leaves the temporaries and the count as they are. -/
theorem numbers_add (numbers : p.actions.filterMap Action.bound? = List.range' 1 p.temporaries)
    (other : act.bound? = none) :
    (p.add act).actions.filterMap Action.bound? = List.range' 1 (p.add act).temporaries := by
  rw [actions_add, List.filterMap_append, List.filterMap_cons_none other, List.filterMap_nil,
    List.append_nil, numbers]
  rfl

theorem numbers_afterCall (numbers : p.actions.filterMap Action.bound? = List.range' 1 p.temporaries)
    {c : BuilderCall} (given : ∀ name, c.given? = some name → temporaryNumber? name = none) :
    (p.afterCall c).actions.filterMap Action.bound? = List.range' 1 (p.afterCall c).temporaries := by
  cases c with
  | declare name value isMutable interiorMutable => exact numbers_add numbers (given name rfl)
  | read source binding => exact numbers_add numbers rfl
  | write source value => exact numbers_add numbers rfl
  | call source function => exact numbers_add numbers rfl
  | derive source result =>
    show (p.derive result source).2.actions.filterMap Action.bound? = _
    cases chosen : nonempty result with
    | some name =>
      have other : (source.action name).bound? = none := by
        rw [Action.bound?, result?_action]
        exact given name chosen
      rw [afterCall, derive_given chosen]
      exact numbers_add numbers other
    | none =>
      have next : (source.action (temporary (p.temporaries + 1))).bound? = some (p.temporaries + 1) := by
        rw [Action.bound?_eq_some, result?_action]
      rw [afterCall, derive_chosen chosen, actions_add, List.filterMap_append,
        List.filterMap_cons_some next, List.filterMap_nil]
      show p.actions.filterMap Action.bound? ++ [p.temporaries + 1] = List.range' 1 (p.temporaries + 1)
      rw [numbers, List.range'_1_concat, Nat.add_comm 1]

/-- The temporaries that are bound are those up to the count, in order. -/
theorem Made.numbers (made : p.Made) :
    p.actions.filterMap Action.bound? = List.range' 1 p.temporaries := by
  induction made with
  | parsed parsed => exact (of_parsed parsed).2.1
  | empty name => rfl
  | call made given ih => exact numbers_afterCall ih given

theorem Made.binds_temporary (made : p.Made) (n : Nat) :
    p.Binds (temporary (n + 1)) ↔ n < p.temporaries := by
  have bound : p.Binds (temporary (n + 1)) ↔ n + 1 ∈ p.actions.filterMap Action.bound? := by
    simp [Binds, actions, Action.bound?_eq_some]
  rw [bound, made.numbers, List.mem_range'_1]
  omega

/-! ## Pointers that are added -/

/-- What is reported of a pointer is that its name is bound already. -/
theorem issues_add_action (usable : p.Usable source) :
    (p.add (source.action name)).issues false = p.issues false ++
      ((p.scopeAt p.length).resultIssue? p.length (source.action name)).toList.map (⟨·, none⟩) := by
  have target : (p.scopeAt p.length).targetIssue? false p.length (source.action name) = none := by
    cases source with
    | borrow target kind =>
      have known := hasAllocation_scopeAt.mpr usable
      simp [Source.action, Scope.targetIssue?, known]
    | reborrow | toInteger => rfl
  have operand : (p.scopeAt p.length).operandIssue? false p.length (source.action name) = none := by
    cases source with
    | borrow => rfl
    | reborrow | toInteger =>
      have known := binds_scopeAt.mpr (boundBefore_length.mpr usable)
      simp [Source.action, Scope.operandIssue?, Action.operand?, Scope.operandUse?, known]
  have split : (p.add (source.action name)).issues false = p.issues false ++
      Scope.issuesFrom false (Scope.empty.afterAll p.operations) (0 + p.length)
        [⟨source.action name, none⟩] := Scope.issuesFrom_append ..
  -- the pass knows all operations when it comes to the last one
  have scope : Scope.empty.afterAll p.operations = p.scopeAt p.length := by
    rw [scopeAt, length, List.take_length]
  rw [split, scope, Nat.zero_add, Scope.issuesFrom, Scope.issuesFrom, List.append_nil, Scope.issues,
    target, operand]
  rfl

theorem Extends.temporaries (ext : p.Extends names r) :
    r.temporaries = p.temporaries + names.length := by
  induction ext with
  | start => rfl
  | derive before usable ih =>
    rw [derive_chosen rfl, List.length_append, ← Nat.add_assoc, ← ih]
    rfl

theorem Extends.length (ext : p.Extends names r) : r.length = p.length + names.length := by
  induction ext with
  | start => rfl
  | derive before usable ih =>
    rw [derive_chosen rfl, length_add, List.length_append, ← Nat.add_assoc, ← ih]
    rfl

/-- The names that are chosen are the next temporaries. -/
theorem Extends.names_eq (ext : p.Extends names r) :
    names = (List.range names.length).map fun i => temporary (p.temporaries + i + 1) := by
  induction ext with
  | start => rfl
  | derive before usable ih =>
    rw [derive_chosen rfl, List.length_append, List.length_singleton, List.range_succ, List.map_append,
      ← ih, before.temporaries]
    rfl

theorem Extends.binds_iff (ext : p.Extends names r) : r.Binds name ↔ p.Binds name ∨ name ∈ names := by
  induction ext with
  | start => simp
  | derive before usable ih =>
    rw [derive_chosen rfl, binds_add, result?_action, List.mem_append, List.mem_singleton,
      Option.some.injEq, eq_comm, ← or_assoc, ← ih]
    rfl

/-- The next temporary is none of those that were chosen. -/
theorem Extends.next_not_mem (ext : p.Extends names r) :
    temporary (r.temporaries + 1) ∉ names := by
  intro chosen
  rw [ext.names_eq, List.mem_map] at chosen
  obtain ⟨i, inside, same⟩ := chosen
  have before : i < names.length := List.mem_range.mp inside
  have number : p.temporaries + i + 1 = r.temporaries + 1 := temporary_inj.mp same
  rw [ext.temporaries] at number
  omega

theorem Extends.nodup (ext : p.Extends names r) : names.Nodup := by
  rw [ext.names_eq]
  refine List.nodup_range.map fun i j same => ?_
  have number := temporary_inj.mp same
  omega

/-- The name of a pointer that is added is reported as bound. -/
def takenIssue (p : Program) (i : Nat) : Issue :=
  ⟨.duplicateName (temporary (p.temporaries + i + 1)) (p.length + i), none⟩

/-- When the temporaries up to some one are bound, those of them are reported that are chosen. -/
theorem Extends.issues {k : Nat} (bound : ∀ n, p.Binds (temporary (n + 1)) ↔ n < k)
    (ext : p.Extends names r) : r.issues false = p.issues false ++
      (List.range (min names.length (k - p.temporaries))).map p.takenIssue := by
  induction ext with
  | start => simp
  | @derive names r source before usable ih =>
    have count : r.temporaries = p.temporaries + names.length := before.temporaries
    have taken : (r.scopeAt r.length).binds (temporary (r.temporaries + 1)) = true ↔
        r.temporaries < k := by
      rw [binds_scopeAt, boundBefore_length, before.binds_iff, bound, or_iff_left before.next_not_mem]
    have fresh : r.fresh.2.Usable source := usable
    rw [derive_chosen rfl, issues_add_action fresh, List.length_append, List.length_singleton]
    show r.issues false ++ ((r.scopeAt r.length).resultIssue? r.length _).toList.map (⟨·, none⟩) = _
    rw [ih, List.append_assoc, Scope.resultIssue?, result?_action]
    -- the chosen numbers go up, so that all of them are old up to some one and none is from there on
    by_cases old : r.temporaries < k
    · have all : min (names.length + 1) (k - p.temporaries) = names.length + 1 := by omega
      have all' : min names.length (k - p.temporaries) = names.length := by omega
      simp only [taken.mpr old, if_true]
      rw [all, all', List.range_succ, List.map_append, before.length, count]
      rfl
    · have same : min (names.length + 1) (k - p.temporaries) =
          min names.length (k - p.temporaries) := by omega
      have free := Bool.not_eq_true _ ▸ mt taken.mp old
      simp [same, free]

/-! ## Programs from records -/

/-- With the check of bindings no other name is reported as bound twice. -/
theorem duplicates_eq (p : Program) (checkBindings : Bool) :
    (p.issues checkBindings).filter (·.cause.kind = "duplicate_name") =
      (p.issues false).filter (·.cause.kind = "duplicate_name") := by
  cases checkBindings with
  | false => rfl
  | true =>
    have known : (p.issues true).filter (·.cause.kind ≠ "immutable_binding") = p.issues false :=
      Scope.filter_issuesFrom .empty 0 p.operations
    rw [← known, List.filter_filter]
    refine List.filter_congr fun issue _ => ?_
    by_cases duplicate : issue.cause.kind = "duplicate_name" <;> simp [duplicate]

theorem binds_recorded {x : String} : (p.recorded name).Binds x ↔ p.Binds x := by
  simp [Binds, recorded, Operation.recorded, Action.result?_plain]

/-- Extended with pointers whose names are left out, a program that is read from a text or made by
    calls of a builder gets names that are new, and is well formed as before. The program that its
    records give back binds the same names and counts from the start. Extended in the same way, it
    gets the names of the first temporaries, and just those of them are reported that the program
    had bound: no name is bound twice when the program had no temporary, or when nothing is added,
    and the first pointer that is added binds one twice otherwise. -/
theorem issues_of_reloaded (made : p.Made) (clean : p.WellFormed false) (name : String) :
    (∀ names r, p.Extends names r →
      (∀ x ∈ names, ¬ p.Binds x) ∧ names.Nodup ∧ r.WellFormed false) ∧
    ∃ q, ofRecords (p.toRecords.map Json.value) name = .ok q ∧ q.WellFormed false ∧
      (∀ n, q.Binds (temporary (n + 1)) ↔ n < p.temporaries) ∧
      ∀ names r, q.Extends names r →
        names = (List.range names.length).map (fun i => temporary (i + 1)) ∧
        r.issues false = (List.range (min names.length p.temporaries)).map (fun i =>
          ⟨.duplicateName (temporary (i + 1)) (p.length + i), none⟩) ∧
        ∀ checkBindings, (r.issues checkBindings).filter (·.cause.kind = "duplicate_name") =
          r.issues false := by
  have bound := made.binds_temporary
  constructor
  · intro names r ext
    refine ⟨?_, ext.nodup, ?_⟩
    · intro x chosen
      rw [ext.names_eq, List.mem_map] at chosen
      obtain ⟨i, -, rfl⟩ := chosen
      rw [bound]
      omega
    · have reported := ext.issues bound
      rw [Nat.sub_self, Nat.min_zero, show p.issues false = [] from clean] at reported
      exact reported
  · have bound' (n : Nat) : (p.recorded name).Binds (temporary (n + 1)) ↔ n < p.temporaries :=
      binds_recorded.trans (bound n)
    refine ⟨p.recorded name, p.ofRecords_toRecords name, clean.recorded name, bound', ?_⟩
    intro names r ext
    have counted : (p.recorded name).temporaries = 0 := rfl
    have length : (p.recorded name).length = p.length := List.length_map ..
    have taken : (p.recorded name).takenIssue = fun i =>
        ⟨.duplicateName (temporary (i + 1)) (p.length + i), none⟩ := by
      funext i
      rw [takenIssue, counted, length, Nat.zero_add]
    have chosen := ext.names_eq
    have reported := ext.issues bound'
    simp only [counted, Nat.zero_add] at chosen
    rw [show (p.recorded name).issues false = [] from clean.recorded name, List.nil_append, counted,
      Nat.sub_zero, taken] at reported
    refine ⟨chosen, reported, fun checkBindings => ?_⟩
    rw [duplicates_eq, reported, List.filter_eq_self]
    intro issue inside
    obtain ⟨i, -, rfl⟩ := List.mem_map.mp inside
    rfl

/-- A variable and a borrow of it whose name is left out. -/
def borrowed : Program := (((empty "t").declare "x" 0 false false).borrow "x" .shared none).2

theorem made_borrowed : borrowed.Made := by
  have declared : Made ((empty "t").afterCall (.declare "x" 0 false false)) :=
    .call (.empty "t") (by decide)
  exact .call (c := .derive (.borrow "x" .shared) none) declared nofun

theorem wellFormed_borrowed : borrowed.WellFormed false := by
  show borrowed.issues false = []
  decide

/-- What its records give back, with one more borrow. -/
def borrowedAgain : Program := ((borrowed.recorded "u").borrow "x" .shared none).2

theorem extends_borrowedAgain : (borrowed.recorded "u").Extends [temporary 1] borrowedAgain := by
  have usable : (borrowed.recorded "u").Usable (.borrow "x" .shared) :=
    hasAllocation_scopeAt.mp (by decide)
  exact .derive .start usable

theorem issues_of_reloaded_borrowed : borrowed.Made ∧ borrowed.WellFormed false ∧
    ∃ q names r, ofRecords (borrowed.toRecords.map Json.value) "u" = .ok q ∧
      q.Extends names r ∧ names = [temporary 1, temporary 2] ∧
      r.issues false = [⟨.duplicateName (temporary 1) 2, none⟩] := by
  have usable : borrowedAgain.Usable (.reborrow (temporary 1) .unique) :=
    extends_borrowedAgain.binds_iff.mpr (.inr List.mem_cons_self)
  have twice : (borrowed.recorded "u").Extends [temporary 1, temporary 2]
      (borrowedAgain.derive none (.reborrow (temporary 1) .unique)).2 :=
    .derive extends_borrowedAgain usable
  obtain ⟨-, q, read, -, -, all⟩ := issues_of_reloaded made_borrowed wellFormed_borrowed "u"
  obtain rfl : q = borrowed.recorded "u" :=
    Except.ok.inj (read.symm.trans (borrowed.ofRecords_toRecords "u"))
  exact ⟨made_borrowed, wellFormed_borrowed, _, _, _, read, twice, rfl, (all _ _ twice).2.1⟩

/-- The names that are chosen are not always new in what records give back: the temporary that the
    borrow has is chosen once more. -/
theorem not_forall_new_after_reload : ¬ ∀ (p q r : Program) (name : String) (names : List String),
    p.Made → p.WellFormed false → ofRecords (p.toRecords.map Json.value) name = .ok q →
      q.Extends names r → (∀ x ∈ names, ¬ q.Binds x) ∧
        ∀ issue ∈ r.issues false, issue.cause.kind ≠ "duplicate_name" := by
  intro all
  have new := (all borrowed _ _ "u" _ made_borrowed wellFormed_borrowed
    (borrowed.ofRecords_toRecords "u") extends_borrowedAgain).1
  have bound : (borrowed.recorded "u").Binds (temporary 1) :=
    binds_recorded.mpr ((made_borrowed.binds_temporary 0).mpr Nat.one_pos)
  exact new (temporary 1) List.mem_cons_self bound

end Program

end PointerTrace
