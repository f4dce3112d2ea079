import PointerTrace.Proofs.Run

/- The resolution of names before a run and the names that the run binds. The pass over the operations
   and the machine know the same names after the same operations (`Scope.Agrees`): what the pass takes
   for an allocation is declared in the store, and what it takes for a pointer is bound. So an
   operation that the pass has nothing against finds all its names (`Run.ready`). -/
namespace PointerTrace

/-! ## Names of a store -/

namespace Store

theorem has_iff {s : Store} {name : String} : s.has name = true ↔ name ∈ s.names := by
  simp [has, named?, names]

theorem has_declare {s store : Store} {name : String} {value : Int}
    {isMutable interiorMutable : Bool} {id : AllocationId}
    (h : s.declare name value isMutable interiorMutable = .ok (id, store)) (other : String) :
    store.has other = (other == name || s.has other) := by
  obtain ⟨-, -, rfl⟩ := declare_eq_ok.mp h
  rw [Bool.eq_iff_iff]
  simp [has_iff, names, declared, Allocation.push, or_comm]

theorem names_modify (s : Store) (id : AllocationId) {f : Allocation → Allocation}
    (same : ∀ a, (f a).name = a.name) : (s.modify id f).names = s.names := by
  refine List.ext_getElem? fun n => ?_
  simp only [Store.names, modify, List.getElem?_map, List.getElem?_modify]
  cases s.allocations[n]? with
  | none => rfl
  | some a => by_cases here : id.toNat = n <;> simp [here, same]

/-- Where names are distinct, an allocation is the one with its name. -/
theorem named?_of_get? {s : Store} (distinct : s.names.Nodup) {id : AllocationId} {a : Allocation}
    (found : s.get? id = some a) : s.named? a.name = some a := by
  have inside := mem_of_get? found
  unfold named?
  cases named : s.allocations.find? (·.name = a.name) with
  | none =>
    have absent := List.find?_eq_none.mp named a inside
    simp at absent
  | some b =>
    have same : b.name = a.name := by simpa using List.find?_some named
    rw [List.inj_on_of_nodup_map distinct (List.mem_of_find?_eq_some named) inside same]

/-- A declaration adds its name and leaves what the others stand for. -/
theorem named?_declare {s store : Store} {name : String} {value : Int}
    {isMutable interiorMutable : Bool} {id : AllocationId}
    (h : s.declare name value isMutable interiorMutable = .ok (id, store)) (other : String) :
    store.named? other = if other = name then
      some (s.declared name value isMutable interiorMutable) else s.named? other := by
  obtain ⟨free, -, rfl⟩ := declare_eq_ok.mp h
  have absent : s.named? name = none := by simpa [has] using free
  have same : (s.declared name value isMutable interiorMutable).name = name := rfl
  unfold named? at absent ⊢
  rw [List.find?_append]
  by_cases here : other = name
  · subst here
    simp [absent, same]
  · simp [here, same, Ne.symm here]

theorem name_of_named? {s : Store} {name : String} {a : Allocation} (h : s.named? name = some a) :
    a.name = name := by
  simpa using List.find?_some h

namespace Valid

variable {s : Store} (hs : s.Valid)
include hs

/-- Where ids are places, a change of one allocation is a change of those with its id. -/
theorem modify_eq_map {id : AllocationId} {b : Allocation} (h : s.get? id = some b)
    (f : Allocation → Allocation) :
    (s.modify id f).allocations = s.allocations.map fun a => if a.id = id then f a else a := by
  obtain ⟨n, rfl, -⟩ := get?_eq_some.mp h
  refine List.ext_getElem? fun k => ?_
  rw [Store.modify, List.getElem?_modify, List.getElem?_map]
  cases here : s.allocations[k]? with
  | none => rfl
  | some a =>
    have place := hs.place k a here
    by_cases same : n = k
    · simp [place, same]
    · have apart : ¬ (k : Int) = n := by omega
      simp [place, same, apart]

/-- What the names stand for once an allocation has changed and kept its name. -/
theorem named?_modify {id : AllocationId} {b : Allocation} (h : s.get? id = some b)
    {f : Allocation → Allocation} (name : ∀ a, (f a).name = a.name) {store : Store}
    (same : store.allocations = (s.modify id f).allocations) (other : String) :
    store.named? other = (s.named? other).map fun a => if a.id = id then f a else a := by
  unfold named?
  rw [same, hs.modify_eq_map h f, List.find?_map]
  congr 2
  funext a
  simp only [Function.comp_apply]
  split <;> simp [name]

end Valid

end Store

/-- The name that an action declares, if any. -/
def Action.declares? : Action → Option String
  | .declare name .. => some name
  | _ => none

namespace Machine

theorem Derives.declares {m : Machine} {act : Action} {kind : BorrowKind} {result : String}
    {p : Pointer} (h : m.Derives act kind result p) : act.declares? = none := by
  cases h <;> rfl

theorem Writes.declares {m : Machine} {act : Action} {p : Pointer} {value : Int}
    (h : m.Writes act p value) : act.declares? = none := by
  cases h <;> rfl

/-- Only a declaration adds a name. -/
theorem Change.names {m m' : Machine} {act : Action} (h : m.Change act m') :
    m'.store.names = m.store.names ++ act.declares?.toList := by
  cases h with
  | declare declared =>
    obtain ⟨-, -, rfl⟩ := Store.declare_eq_ok.mp declared
    exact List.map_append
  | @derive _ kind result p a f derives =>
    have names := Store.names_modify m.store.takeTag.2 p.target (f := fun b => b.push
      ⟨⟨m.store.nextTag⟩, f.permission.derive kind a.interiorMutable, some f.tag⟩) fun _ => rfl
    rw [derives.declares, Option.toList_none, List.append_nil]
    exact names
  | untagged derives =>
    rw [derives.declares, Option.toList_none, List.append_nil]
    rfl
  | toInteger => exact (List.append_nil _).symm
  | @read source binding p a t grant resolved =>
    have names := Store.names_modify m.store p.target (f := fun a => a.apply grant) fun _ => rfl
    exact names.trans (List.append_nil _).symm
  | @write _ p value a t grant writes =>
    have names := Store.names_modify m.store p.target (f := fun a => { a.apply grant with value })
      fun _ => rfl
    rw [writes.declares, Option.toList_none, List.append_nil]
    exact names

/-- An operation that declares nothing leaves the names as they are. -/
theorem Change.has_kept {m m' : Machine} {act : Action} (h : m.Change act m')
    (silent : act.declares? = none) (name : String) : m'.store.has name = m.store.has name := by
  rw [Bool.eq_iff_iff, Store.has_iff, Store.has_iff, h.names, silent, Option.toList_none,
    List.append_nil]

/-- A declaration refuses a name that is taken. -/
theorem Change.declared_free {m m' : Machine} {act : Action} (h : m.Change act m')
    {name : String} (declares : act.declares? = some name) : m.store.has name = false := by
  cases h with
  | declare declared =>
    cases declares
    exact (Store.declare_eq_ok.mp declared).1
  | derive derives => cases derives.declares.symm.trans declares
  | untagged derives => cases derives.declares.symm.trans declares
  | write writes => cases writes.declares.symm.trans declares
  | _ => cases declares

theorem Change.names_distinct {m m' : Machine} {act : Action} (h : m.Change act m')
    (distinct : m.store.names.Nodup) : m'.store.names.Nodup := by
  rw [h.names]
  cases declares : act.declares? with
  | none => rwa [Option.toList_none, List.append_nil]
  | some name =>
    have free := h.declared_free declares
    refine List.nodup_append.mpr ⟨distinct, List.nodup_singleton name, ?_⟩
    intro other inside last only same
    rw [List.mem_singleton.mp only] at same
    rw [same, ← Store.has_iff, free] at inside
    cases inside

/-- What a name stands for is a pointer that it is bound to, or the variable of that name. -/
theorem resolve_cases {m : Machine} (hm : m.Valid) {name : String} {p : Pointer}
    (h : m.resolve name = .ok p) : (name, p) ∈ m.pointers ∨
      ∃ a, m.store.named? name = some a ∧ m.store.get? a.id = some a ∧ p = a.rootPointer := by
  unfold resolve at h
  cases bound : m.pointers.lookup name with
  | some q =>
    obtain ⟨before, after, split, -⟩ := List.lookup_eq_some_iff.mp bound
    simp only [bound, Except.ok.injEq] at h
    exact .inl (by simp [split, h])
  | none =>
    simp only [bound] at h
    exact .inr ((Store.lookup_rootPointer hm.store).mp h)

end Machine

namespace Scope

/-- The pass over the names and the machine know the same names. -/
structure Agrees (s : Scope) (m : Machine) : Prop where
  allocations : ∀ name, s.hasAllocation name = m.store.has name
  pointers : ∀ name, s.pointers.contains name = (m.pointers.lookup name).isSome

variable {s : Scope} {m m' : Machine} {checkBindings : Bool} {index : Nat} {op : Operation}

/-- What the pass asks of an operation that it reports nothing for. -/
structure Allows (s : Scope) (checkBindings : Bool) (act : Action) : Prop where
  target : ∀ name kind result, act = .borrow name kind result → s.hasAllocation name = true ∧
    (checkBindings = true → kind = .unique → s.isImmutable name = false)
  operand : ∀ name, act.operand? = some name → s.binds name = true ∧
    (checkBindings = true → (operandUse? act).isSome = true → s.isImmutable name = false)
  result : ∀ name, act.result? = some name → s.binds name = false

theorem targetIssue?_eq_none {act : Action} : s.targetIssue? checkBindings index act = none ↔
    ∀ name kind result, act = .borrow name kind result → s.hasAllocation name = true ∧
      (checkBindings = true → kind = .unique → s.isImmutable name = false) := by
  cases act with
  | borrow target kind result =>
    cases declared : s.hasAllocation target <;> simp [targetIssue?, declared]
  | _ => simp [targetIssue?]

theorem operandIssue?_eq_none {act : Action} : s.operandIssue? checkBindings index act = none ↔
    ∀ name, act.operand? = some name → s.binds name = true ∧
      (checkBindings = true → (operandUse? act).isSome = true → s.isImmutable name = false) := by
  unfold operandIssue?
  cases act.operand? with
  | none => simp
  | some name => cases operandUse? act <;> cases bound : s.binds name <;> simp [bound]

theorem resultIssue?_eq_none {act : Action} : s.resultIssue? index act = none ↔
    ∀ name, act.result? = some name → s.binds name = false := by
  unfold resultIssue?
  cases act.result? <;> simp

theorem issues_eq_nil :
    s.issues checkBindings index op = [] ↔ s.Allows checkBindings op.action := by
  have parts : s.issues checkBindings index op = [] ↔
      s.targetIssue? checkBindings index op.action = none ∧
      s.operandIssue? checkBindings index op.action = none ∧
      s.resultIssue? index op.action = none := by simp [issues]
  rw [parts, targetIssue?_eq_none, operandIssue?_eq_none, resultIssue?_eq_none]
  exact ⟨fun h => ⟨h.1, h.2.1, h.2.2⟩, fun h => ⟨h.target, h.operand, h.result⟩⟩

/-- The name that an operation without problems binds is new. -/
theorem result_free (h : s.issues checkBindings index op = []) {name : String}
    (result : op.action.result? = some name) : s.binds name = false :=
  (issues_eq_nil.mp h).result name result

/-- The operand of an operation without problems is bound. -/
theorem operand_bound (h : s.issues checkBindings index op = []) {name : String}
    (operand : op.action.operand? = some name) : s.binds name = true :=
  ((issues_eq_nil.mp h).operand name operand).1

/-- The target of a borrow without problems is declared. -/
theorem target_declared {target result : String} {kind : BorrowKind} {location : Option Location}
    (h : s.issues checkBindings index ⟨.borrow target kind result, location⟩ = []) :
    s.hasAllocation target = true :=
  ((issues_eq_nil.mp h).target target kind result rfl).1

theorem issues_unchecked (clean : s.issues checkBindings index op = []) :
    s.issues false index op = [] := by
  have allows := issues_eq_nil.mp clean
  refine issues_eq_nil.mpr ⟨?_, ?_, allows.result⟩
  · exact fun name kind result same => ⟨(allows.target name kind result same).1, nofun⟩
  · exact fun name operand => ⟨(allows.operand name operand).1, nofun⟩

/-- A bound name stands for a pointer. -/
theorem Agrees.resolves (h : s.Agrees m) (hm : m.Valid) {name : String}
    (bound : s.binds name = true) : ∃ p, m.resolve name = .ok p := by
  unfold Machine.resolve
  cases found : m.pointers.lookup name with
  | some p => exact ⟨p, rfl⟩
  | none =>
    have declared : m.store.has name = true := by
      simpa only [binds, h.pointers, found, h.allocations, Option.isSome_none,
        Bool.false_or] using bound
    obtain ⟨p, resolved, -⟩ := Store.rootPointer_of_has hm.store declared
    exact ⟨p, resolved⟩

/-- An operation without problems finds its names. -/
theorem Agrees.ready (h : s.Agrees m) (hm : m.Valid)
    (clean : s.issues checkBindings index op = []) : m.Ready op.action := by
  obtain ⟨action, location⟩ := op
  cases action with
  | declare name value isMutable interiorMutable =>
    have free := result_free clean rfl
    simp only [binds, Bool.or_eq_false_iff, h.allocations] at free
    exact free.2
  | borrow target kind result =>
    show m.store.has target = true
    rw [← h.allocations, target_declared clean]
  | reborrow source kind result => exact h.resolves hm (operand_bound clean rfl)
  | toInteger source result => exact h.resolves hm (operand_bound clean rfl)
  | read source binding => exact h.resolves hm (operand_bound clean rfl)
  | write source value => exact h.resolves hm (operand_bound clean rfl)
  | call source function => exact h.resolves hm (operand_bound clean rfl)

/-! ## Agreement is kept -/

/-- Binding a new pointer name on both sides. -/
theorem Agrees.bind (h : s.Agrees m) (store : Store)
    (same : ∀ name, store.has name = m.store.has name) (result : String) (p : Pointer) :
    Agrees { s with pointers := result :: s.pointers } ({ m with store }.bind result p) := by
  refine ⟨fun name => (h.allocations name).trans (same name).symm, fun name => ?_⟩
  show (result :: s.pointers).contains name =
    ((m.pointers ++ [(result, p)]).lookup name).isSome
  rw [List.contains_cons, h.pointers, List.lookup_append]
  -- the machine appends where the pass prepends
  cases m.pointers.lookup name with
  | some q => simp
  | none => by_cases same : name = result <;> simp [List.lookup_cons, same, beq_eq_false_iff_ne.mpr]

/-- An operation that binds no name leaves the scope as it is. -/
theorem after_of_no_result {act : Action} (none : act.result? = none) : s.after act = s := by
  simp [after, none]

/-- A new result becomes a pointer name. -/
theorem after_derives {act : Action} {kind : BorrowKind} {result : String} {p : Pointer}
    (derives : m.Derives act kind result p) :
    act.result? = some result ∧ (s.binds result = false →
      s.after act = { s with pointers := result :: s.pointers }) := by
  refine ⟨derives.result, fun free => ?_⟩
  cases derives <;> simp [after, Action.result?, free]

/-- After an operation without problems the pass and the machine agree again. -/
theorem Agrees.change (h : s.Agrees m) (clean : s.issues checkBindings index op = [])
    (change : m.Change op.action m') : (s.after op.action).Agrees m' := by
  obtain ⟨action, location⟩ := op
  have kept := change.has_kept
  cases change with
  | @declare name value isMutable interiorMutable id store declared =>
    have free := result_free clean rfl
    have scope : s.after (.declare name value isMutable interiorMutable) =
        { s with allocations := (name, isMutable || interiorMutable) :: s.allocations } := by
      simp [after, Action.result?, free]
    rw [scope]
    refine ⟨fun other => ?_, h.pointers⟩
    rw [Store.has_declare declared, ← h.allocations, hasAllocation, hasAllocation, List.lookup_cons]
    cases other == name <;> rfl
  | @derive _ kind result p a f derives found present tagged enabled =>
    obtain ⟨binds, scope⟩ := after_derives (s := s) derives
    rw [scope (result_free clean binds)]
    exact h.bind _ (kept derives.declares) result _
  | @untagged _ kind result p derives noTag =>
    obtain ⟨binds, scope⟩ := after_derives (s := s) derives
    rw [scope (result_free clean binds)]
    exact h.bind m.store (fun _ => rfl) result _
  | @toInteger source result p resolved =>
    have free := result_free clean rfl
    have scope : s.after (.toInteger source result) =
        { s with pointers := result :: s.pointers } := by
      simp [after, Action.result?, free]
    rw [scope]
    exact h.bind m.store (fun _ => rfl) result _
  | @read source binding p a t grant resolved found tagged granted =>
    rw [after_of_no_result rfl]
    exact ⟨fun name => (h.allocations name).trans (kept rfl name).symm, h.pointers⟩
  | @write _ p value a t grant writes found tagged granted =>
    rw [after_of_no_result (by cases writes <;> rfl)]
    exact ⟨fun name => (h.allocations name).trans (kept writes.declares name).symm, h.pointers⟩

/-! ## Along a run -/

/-- The scope after some operations. -/
def afterAll (s : Scope) (l : List Operation) : Scope := l.foldl (fun s op => s.after op.action) s

theorem binds_after (s : Scope) (act : Action) (name : String) :
    (s.after act).binds name = true ↔ act.result? = some name ∨ s.binds name = true := by
  unfold after
  cases result : act.result? with
  | none => simp
  | some bound =>
    simp only [Option.some.injEq]
    split
    · next taken =>
      constructor
      · exact .inr
      · rintro (rfl | known)
        · exact taken
        · exact known
    · have mine : bound = name ↔ name = bound := eq_comm
      cases act with
      | declare => by_cases same : name = bound <;>
          simp [binds, hasAllocation, List.lookup_cons, mine, same, beq_eq_false_iff_ne.mpr]
      | _ => simp [binds, hasAllocation, mine, or_assoc]

/-- What is bound after some operations was bound before or by one of them. -/
theorem binds_afterAll {l : List Operation} {name : String}
    (h : (s.afterAll l).binds name = true) :
    s.binds name = true ∨ ∃ op ∈ l, op.action.result? = some name := by
  induction l generalizing s with
  | nil => exact .inl h
  | cons op l ih =>
    rcases ih h with before | ⟨later, inside, binds⟩
    · rcases (s.binds_after op.action name).mp before with binds | before
      · exact .inr ⟨op, List.mem_cons_self, binds⟩
      · exact .inl before
    · exact .inr ⟨later, List.mem_cons_of_mem op inside, binds⟩

/-- No name stands for an allocation and a pointer. -/
def Separate (s : Scope) : Prop := ∀ name, s.pointers.contains name = true →
  s.hasAllocation name = false

theorem Separate.after (h : s.Separate) (act : Action) : (s.after act).Separate := by
  unfold Scope.after
  cases result : act.result? with
  | none => exact h
  | some name =>
    simp only
    by_cases bound : s.binds name = true
    · rw [if_pos bound]
      exact h
    · rw [if_neg bound]
      simp only [binds, Bool.or_eq_true, not_or, Bool.not_eq_true] at bound
      obtain ⟨noPointer, noAllocation⟩ := bound
      have pointer : Separate { s with pointers := name :: s.pointers } := by
        intro other inside
        rw [List.contains_cons, Bool.or_eq_true, beq_iff_eq] at inside
        rcases inside with rfl | inside
        · exact noAllocation
        · exact h other inside
      cases act with
      | declare declared value isMutable interiorMutable =>
        intro other inside
        have apart : (other == name) = false := beq_eq_false_iff_ne.mpr fun same => by
          rw [same, noPointer] at inside
          cases inside
        show (List.lookup other ((name, _) :: s.allocations)).isSome = false
        rw [List.lookup_cons, apart]
        exact h other inside
      | _ => exact pointer

theorem Separate.afterAll (h : s.Separate) (l : List Operation) : (s.afterAll l).Separate := by
  induction l generalizing s with
  | nil => exact h
  | cons op l ih => exact ih (h.after op.action)

theorem separate_empty : empty.Separate := nofun

/-- Where a pass reports nothing, no operation has a problem in the scope of those before it. -/
theorem issues_of_issuesFrom {l : List Operation} (h : issuesFrom checkBindings s index l = [])
    {n : Nat} (here : l[n]? = some op) :
    (s.afterAll (l.take n)).issues checkBindings (index + n) op = [] := by
  induction l generalizing s index n with
  | nil => cases here
  | cons first rest ih =>
    obtain ⟨clean, later⟩ := List.append_eq_nil_iff.mp h
    cases n with
    | zero =>
      rw [List.getElem?_cons_zero, Option.some.injEq] at here
      exact here ▸ clean
    | succ n =>
      rw [List.getElem?_cons_succ] at here
      rw [show index + (n + 1) = index + 1 + n by omega]
      exact ih later here

theorem issuesFrom_unchecked {l : List Operation} (clean : issuesFrom checkBindings s index l = []) :
    issuesFrom false s index l = [] := by
  induction l generalizing s index with
  | nil => rfl
  | cons op l ih =>
    obtain ⟨here, rest⟩ := List.append_eq_nil_iff.mp clean
    exact List.append_eq_nil_iff.mpr ⟨issues_unchecked here, ih rest⟩

theorem agrees_start (p : Program) (externalValue : Int) (recording : Bool) :
    empty.Agrees (.start p externalValue recording) :=
  ⟨fun _ => rfl, fun _ => rfl⟩

end Scope

/-- A program that is well formed with the check of bindings is so without it. -/
theorem Program.WellFormed.unchecked {p : Program} {checkBindings : Bool}
    (clean : p.WellFormed checkBindings) : p.WellFormed false :=
  Scope.issuesFrom_unchecked clean

namespace Run

variable {r : Run}

/-- What the pass and the machine share at the start, and share again after every operation without
    problems, they share in every state of a run. -/
theorem scope_induction {P : Scope → Machine → Prop}
    (start : P .empty (.start r.program r.options.externalValue r.recording))
    (keeps : ∀ s m index op after, m.Valid → s.issues r.options.checkBindings index op = [] →
      m.Change op.action after → P s m → P (s.after op.action) (after.advance op))
    (clean : r.program.WellFormed r.options.checkBindings) {n : Nat} {m : Machine}
    (h : r.state? n = some m) : P (Scope.empty.afterAll (r.program.operations.take n)) m := by
  induction n generalizing m with
  | zero =>
    rw [(state?_zero h).2]
    exact start
  | succ n ih =>
    obtain ⟨before, op, after, found, here, change, rfl⟩ := state?_succ h
    rw [List.take_add_one, here, Option.toList_some, Scope.afterAll, List.foldl_append]
    exact keeps _ _ _ _ _ (reached found).valid (Scope.issues_of_issuesFrom clean here) change
      (ih found)

/-- In every state of a run the pass agrees with the machine. -/
theorem agrees (clean : r.program.WellFormed r.options.checkBindings) {n : Nat} {m : Machine}
    (h : r.state? n = some m) :
    (Scope.empty.afterAll (r.program.operations.take n)).Agrees m := by
  refine scope_induction (Scope.agrees_start ..) ?_ clean h
  intro s m index op after _ clean change shared
  have agreed := shared.change clean change
  exact ⟨agreed.allocations, agreed.pointers⟩

/-- A program that runs is well formed. -/
theorem wellFormed {n : Nat} {m : Machine} (h : r.state? n = some m) :
    r.program.WellFormed r.options.checkBindings := by
  obtain ⟨m₀, first⟩ :=
    Option.isSome_iff_exists.mp (state?_earlier (Nat.zero_le n) (by rw [h]; rfl))
  exact (state?_zero first).1

/-- In every state of a run the name that the next operation binds is not bound to a pointer. -/
theorem result_unbound {n : Nat} {m : Machine} (h : r.state? n = some m) {op : Operation}
    (here : r.program.operations[n]? = some op) {name : String}
    (result : op.action.result? = some name) : m.pointers.lookup name = none := by
  have clean := wellFormed h
  have free := Scope.result_free (Scope.issues_of_issuesFrom clean here) result
  rw [Scope.binds, Bool.or_eq_false_iff, (agrees clean h).pointers] at free
  exact Option.isNone_iff_eq_none.mp (Option.isSome_eq_false_iff.mp free.1)

/-- In every state of a run the name of a variable is bound to no pointer. -/
theorem unbound_of_declared {n : Nat} {m : Machine} (h : r.state? n = some m) {name : String}
    (declared : m.store.has name = true) : m.pointers.lookup name = none := by
  have shared := agrees (wellFormed h) h
  have separate := Scope.separate_empty.afterAll (r.program.operations.take n)
  by_contra bound
  have pointer := separate name (by rw [shared.pointers, Option.isSome_iff_ne_none.mpr bound])
  rw [shared.allocations, declared] at pointer
  cases pointer

/-- In every state of a run the declared names are distinct. -/
theorem names_distinct {n : Nat} {m : Machine} (h : r.state? n = some m) :
    m.store.names.Nodup := by
  induction n generalizing m with
  | zero =>
    rw [(state?_zero h).2]
    exact List.nodup_nil
  | succ n ih =>
    obtain ⟨before, op, after, found, -, change, rfl⟩ := state?_succ h
    exact change.names_distinct (ih found)

/-- In every state of the run of a well-formed program the next operation finds its names. -/
theorem ready (clean : r.program.WellFormed r.options.checkBindings) {n : Nat} {m : Machine}
    (h : r.state? n = some m) {op : Operation} (here : r.program.operations[n]? = some op) :
    m.Ready op.action :=
  (agrees clean h).ready (reached h).valid (Scope.issues_of_issuesFrom clean here)

end Run

end PointerTrace
