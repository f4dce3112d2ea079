import PointerTrace.Machine.Check
import PointerTrace.Proofs.Execution

/- Runs. `Run.state?` is the state after a number of operations that were carried out: it starts with
   the loaded program, follows `Machine.step`, and ends with the program or before the first
   operation at fault. Each state has what `Reached` lists, by induction along the run. What happens
   to one allocation between two states is `Moves`; a property of the allocation that every move
   keeps holds from then on (`Run.carries`), which is how the statements about whole runs are
   proved. -/
namespace PointerTrace

namespace Machine

/-- The machine after one more operation, unless the program is over or the operation is at
    fault. -/
def next? (m : Machine) : Option Machine :=
  match m.step with
  | .ok after => if after.status = .running then some after else none
  | .error _ => none

/-- The borrow stack at a place; empty where nothing is declared yet. -/
def stackOf (m : Machine) (id : AllocationId) : List Frame :=
  ((m.store.get? id).map Allocation.stack).getD []

theorem step_eq_ok {m m' : Machine} : m.step = .ok m' ↔ m.status = .running ∧
    ∃ op, m.program.operations[m.pc]? = some op ∧ m.execute op = .ok m' := by
  unfold step
  split
  · next running =>
    cases m.program.operations[m.pc]? with
    | none => simp
    | some op => cases executed : m.execute op <;> simp [executed, Except.mapError, running]
  · next halted => simp [halted]

theorem next?_eq_some {m m' : Machine} :
    m.next? = some m' ↔ m.step = .ok m' ∧ m'.status = .running := by
  unfold next?
  cases m.step with
  | error e => simp
  | ok after =>
    by_cases running : after.status = .running
    · simp only [running, if_true, Option.some.injEq, Except.ok.injEq]
      exact ⟨fun same => ⟨same, same ▸ running⟩, And.left⟩
    · simp only [running, if_false, reduceCtorEq, Except.ok.injEq, false_iff, not_and]
      exact fun same => same ▸ running

/-- One more operation of a machine is a change. -/
theorem next?_cases {m m' : Machine} (hm : m.Valid) (h : m.next? = some m') :
    ∃ op after, m.program.operations[m.pc]? = some op ∧ m.Change op.action after ∧
      m' = after.advance op := by
  obtain ⟨stepped, stays⟩ := next?_eq_some.mp h
  obtain ⟨running, op, here, executed⟩ := step_eq_ok.mp stepped
  rcases execute_ready hm running op (ready_of_execute executed) with
    ⟨after, change, same⟩ | ⟨fault, same⟩
  · rw [executed, Except.ok.injEq] at same
    exact ⟨op, after, here, change, same⟩
  · -- a machine that still runs is not one after a fault
    rw [executed, Except.ok.injEq] at same
    rw [same] at stays
    cases stays

theorem Valid.advance {m : Machine} (hm : m.Valid) (op : Operation) : (m.advance op).Valid :=
  ⟨hm.store, hm.pointers⟩

theorem valid_start (p : Program) (externalValue : Int) (recording : Bool) :
    (start p externalValue recording).Valid :=
  ⟨Store.valid_empty, nofun⟩

end Machine

/-- A program with the options of its check. -/
structure Run where
  program : Program
  options : CheckOptions
  recording : Bool

namespace Run

/-- The run of some operations without places, with the default options. -/
def ofActions (l : List Action) : Run := ⟨⟨l.map (⟨·, none⟩), "trace", none, 0⟩, {}, false⟩

/-- The state after a number of operations that were carried out. -/
def state? (r : Run) : Nat → Option Machine
  | 0 => (Machine.load r.program r.options.externalValue r.options.checkBindings
      r.recording).toOption
  | n + 1 => (r.state? n).bind Machine.next?

/-- The allocation at a place after a number of operations. -/
def allocation? (r : Run) (n : Nat) (id : AllocationId) : Option Allocation :=
  (r.state? n).bind fun m => m.store.get? id

/-- The access that the operation at an index makes when it is carried out. -/
def performed? (r : Run) (n : Nat) : Option (Access × Pointer) := do
  let m ← r.state? n
  let _ ← r.state? (n + 1)
  let op ← r.program.operations[n]?
  let (access, source) ← op.action.access?
  let p ← (m.resolve source).toOption
  return (access, p)

/-- The operation at an index is carried out and accesses memory through a pointer. -/
def Performs (r : Run) (n : Nat) (access : Access) (p : Pointer) : Prop :=
  r.performed? n = some (access, p)

instance (r : Run) (n : Nat) (access : Access) (p : Pointer) : Decidable (r.Performs n access p) :=
  inferInstanceAs (Decidable (_ = _))

/-- The borrow stack at a place after a number of operations. -/
def stack? (r : Run) (n : Nat) (id : AllocationId) : Option (List Frame) :=
  (r.state? n).map fun m => m.stackOf id

/-- The operation at an index pushes a frame on the stack at a place. -/
def Pushes (r : Run) (n : Nat) (id : AllocationId) (f : Frame) : Prop :=
  (r.stack? n id).isSome ∧ r.stack? (n + 1) id = (r.stack? n id).map (· ++ [f])

instance (r : Run) (n : Nat) (id : AllocationId) (f : Frame) : Decidable (r.Pushes n id f) :=
  inferInstanceAs (Decidable (_ ∧ _))

/-- What every state of a run has. -/
structure Reached (r : Run) (n : Nat) (m : Machine) : Prop where
  program : m.program = r.program
  externalValue : m.externalValue = r.options.externalValue
  pc : m.pc = n
  status : m.status = .running
  fault : m.fault = none
  valid : m.Valid

/-- What an operation of a run did to one allocation. -/
structure Moves (r : Run) (n : Nat) (id : AllocationId) (a : Allocation) (ev : Allocation.Event)
    (a' : Allocation) : Prop where
  before : r.allocation? n id = some a
  after : r.allocation? (n + 1) id = some a'
  valid : a.Valid
  step : a.Step ev a'
  shows : ∀ access t, ev = .access t access ↔ r.Performs n access ⟨id, some t⟩

variable {r : Run}

/-- A run starts with a well-formed program on an empty store. -/
theorem state?_zero {m : Machine} (h : r.state? 0 = some m) :
    r.program.WellFormed r.options.checkBindings ∧
      m = Machine.start r.program r.options.externalValue r.recording := by
  unfold state? Machine.load at h
  cases found : r.program.issues r.options.checkBindings with
  | nil =>
    simp only [found, Except.toOption, Option.some.injEq] at h
    exact ⟨found, h.symm⟩
  | cons issue issues =>
    simp only [found, Except.toOption] at h
    cases h

/-- The run of a well-formed program starts. -/
theorem state?_start (clean : r.program.WellFormed r.options.checkBindings) :
    r.state? 0 = some (Machine.start r.program r.options.externalValue r.recording) := by
  rw [state?, Machine.load, show r.program.issues r.options.checkBindings = [] from clean]
  rfl

theorem reached {n : Nat} {m : Machine} (h : r.state? n = some m) : r.Reached n m := by
  induction n generalizing m with
  | zero =>
    obtain ⟨-, rfl⟩ := state?_zero h
    exact ⟨rfl, rfl, rfl, rfl, rfl, Machine.valid_start ..⟩
  | succ n ih =>
    obtain ⟨before, found, next⟩ := Option.bind_eq_some_iff.mp h
    have old := ih found
    obtain ⟨op, after, -, change, rfl⟩ := Machine.next?_cases old.valid next
    have same := change.frame
    exact ⟨(congrArg Machine.program same).trans old.program,
      (congrArg Machine.externalValue same).trans old.externalValue,
      congrArg (· + 1) ((congrArg Machine.pc same).trans old.pc),
      change.running old.status,
      (congrArg Machine.fault same).trans old.fault,
      (old.valid.change change).advance op⟩

/-- Between two states of a run lies the change of one operation. -/
theorem state?_succ {n : Nat} {m' : Machine} (h : r.state? (n + 1) = some m') :
    ∃ m op after, r.state? n = some m ∧ r.program.operations[n]? = some op ∧
      m.Change op.action after ∧ m' = after.advance op := by
  obtain ⟨m, found, next⟩ := Option.bind_eq_some_iff.mp h
  have old := reached found
  obtain ⟨op, after, here, change, same⟩ := Machine.next?_cases old.valid next
  rw [old.program, old.pc] at here
  exact ⟨m, op, after, found, here, change, same⟩

/-- Between two states that are known lies the change of the operation at their index. -/
theorem change_between {n : Nat} {m m' : Machine} {op : Operation} (h : r.state? n = some m)
    (here : r.program.operations[n]? = some op) (h' : r.state? (n + 1) = some m') :
    ∃ after, m.Change op.action after ∧ m' = after.advance op := by
  obtain ⟨m₁, op₁, after, found, here₁, change, same⟩ := state?_succ h'
  rw [h, Option.some.injEq] at found
  rw [here, Option.some.injEq] at here₁
  subst found here₁
  exact ⟨after, change, same⟩

/-- Every state but the first has one before it. -/
theorem state?_earlier {n k : Nat} (le : n ≤ k) (h : (r.state? k).isSome) :
    (r.state? n).isSome := by
  induction le with
  | refl => exact h
  | step _ ih =>
    obtain ⟨m', found⟩ := Option.isSome_iff_exists.mp h
    obtain ⟨m, -, -, before, -⟩ := state?_succ found
    exact ih (by rw [before]; rfl)

theorem performs_iff {n : Nat} {access : Access} {p : Pointer} :
    r.Performs n access p ↔ ∃ m op, r.state? n = some m ∧ (r.state? (n + 1)).isSome ∧
      r.program.operations[n]? = some op ∧ m.Accesses op.action access p := by
  unfold Performs performed? Machine.Accesses
  constructor
  · intro h
    simp only [Option.bind_eq_bind, Option.bind_eq_some_iff, Option.pure_def, Option.some.injEq,
      Prod.mk.injEq] at h
    obtain ⟨m, found, m', next, op, here, ⟨access, source⟩, reads, p, resolved, rfl, rfl⟩ := h
    refine ⟨m, op, found, by rw [next]; rfl, here, source, reads, ?_⟩
    cases result : m.resolve source with
    | error e =>
      rw [result] at resolved
      cases resolved
    | ok q =>
      rw [result] at resolved
      exact congrArg _ (Option.some.inj resolved)
  · rintro ⟨m, op, found, more, here, source, reads, resolved⟩
    obtain ⟨m', next⟩ := Option.isSome_iff_exists.mp more
    simp [found, next, here, reads, resolved, Except.toOption]

/-! ## One allocation along a run -/

theorem allocation?_eq_some {n : Nat} {id : AllocationId} {a : Allocation} :
    r.allocation? n id = some a ↔ ∃ m, r.state? n = some m ∧ m.store.get? id = some a :=
  Option.bind_eq_some_iff

theorem allocation_valid {n : Nat} {id : AllocationId} {a : Allocation}
    (h : r.allocation? n id = some a) : a.Valid := by
  obtain ⟨m, found, here⟩ := allocation?_eq_some.mp h
  exact ((reached found).valid.store.get? here).1

/-- An allocation is there from its declaration on, and every operation moves it. -/
theorem moves {n : Nat} {id : AllocationId} {a : Allocation} (before : r.allocation? n id = some a)
    (more : (r.state? (n + 1)).isSome) : ∃ ev a', r.Moves n id a ev a' := by
  obtain ⟨m', next⟩ := Option.isSome_iff_exists.mp more
  obtain ⟨m, op, after, found, here, change, rfl⟩ := state?_succ next
  obtain ⟨m₀, found₀, placed⟩ := allocation?_eq_some.mp before
  rw [found, Option.some.injEq] at found₀
  subst found₀
  have valid := (reached found).valid
  obtain ⟨ev, a', placed', step, shows⟩ := change.allocation valid placed
  refine ⟨ev, a', before, allocation?_eq_some.mpr ⟨_, next, placed'⟩,
    (valid.store.get? placed).1, step, fun access t => (shows access t).trans ?_⟩
  constructor
  · exact fun accesses => performs_iff.mpr ⟨m, op, found, more, here, accesses⟩
  · intro performs
    obtain ⟨m₁, op₁, found₁, -, here₁, accesses⟩ := performs_iff.mp performs
    rw [found, Option.some.injEq] at found₁
    rw [here, Option.some.injEq] at here₁
    exact found₁ ▸ here₁ ▸ accesses

/-- An access that is carried out is a change of the machine. -/
theorem Performs.change {n : Nat} {access : Access} {p : Pointer} (h : r.Performs n access p) :
    ∃ m op after, r.state? n = some m ∧ r.state? (n + 1) = some (after.advance op) ∧
      m.Change op.action after ∧ m.Accesses op.action access p := by
  obtain ⟨m, op, found, more, here, accesses⟩ := performs_iff.mp h
  obtain ⟨m', next⟩ := Option.isSome_iff_exists.mp more
  obtain ⟨after, change, rfl⟩ := change_between found here next
  exact ⟨m, op, after, found, next, change, accesses⟩

/-- An access that is carried out is an access of its allocation, through a tag. -/
theorem Performs.moves {n : Nat} {access : Access} {p : Pointer} (h : r.Performs n access p) :
    ∃ t a a', p.tag = some t ∧ r.Moves n p.target a (.access t access) a' := by
  obtain ⟨m, op, after, found, next, change, accesses⟩ := h.change
  obtain ⟨t, tagged⟩ := change.tagged accesses
  obtain ⟨source, -, resolved⟩ := accesses
  obtain ⟨a, placed, -⟩ := (reached found).valid.resolve resolved
  obtain ⟨ev, a', moved⟩ :=
    Run.moves (allocation?_eq_some.mpr ⟨m, found, placed⟩) (by rw [next]; rfl)
  have same : ev = .access t access := (moved.shows access t).mpr (tagged ▸ h)
  exact ⟨t, a, a', tagged, same ▸ moved⟩

theorem Pushes.found {n : Nat} {id : AllocationId} {f : Frame} (h : r.Pushes n id f) :
    ∃ a, r.allocation? (n + 1) id = some a ∧ f ∈ a.stack := by
  obtain ⟨some_before, after⟩ := h
  obtain ⟨l, before⟩ := Option.isSome_iff_exists.mp some_before
  rw [before, Option.map_some] at after
  obtain ⟨m, found, stack⟩ := Option.map_eq_some_iff.mp after
  cases placed : m.store.get? id with
  | none => simp [Machine.stackOf, placed] at stack
  | some a =>
    simp only [Machine.stackOf, placed, Option.map_some, Option.getD_some] at stack
    exact ⟨a, allocation?_eq_some.mpr ⟨m, found, placed⟩, by simp [stack]⟩

/-- A property of an allocation that every move keeps holds from then on. -/
theorem carries {id : AllocationId} {P : Allocation → Prop} {i n : Nat} {a b : Allocation}
    (start : r.allocation? i id = some a) (holds : P a) (le : i ≤ n)
    (found : r.allocation? n id = some b)
    (keeps : ∀ j ev c c', i ≤ j → j < n → r.Moves j id c ev c' → P c → P c') : P b := by
  have along : ∀ k, i ≤ k → k ≤ n → ∃ c, r.allocation? k id = some c ∧ P c := by
    intro k hik
    induction hik with
    | refl => exact fun _ => ⟨a, start, holds⟩
    | @step k hik ih =>
      intro hkn
      obtain ⟨c, before, hc⟩ := ih (by omega)
      obtain ⟨m, last, -⟩ := allocation?_eq_some.mp found
      obtain ⟨ev, c', moved⟩ := moves before (state?_earlier hkn (by rw [last]; rfl))
      exact ⟨c', moved.after, keeps k ev c c' hik (by omega) moved hc⟩
  obtain ⟨c, last, hc⟩ := along n le (Nat.le_refl n)
  rw [found, Option.some.injEq] at last
  exact last ▸ hc

/-- A property that no move brings about held all along when it holds later. -/
theorem carries_back {id : AllocationId} {P Q : Allocation → Prop} {i n : Nat} {a b : Allocation}
    (start : r.allocation? i id = some a) (side : P a) (le : i ≤ n)
    (found : r.allocation? n id = some b) (last : Q b)
    (keeps : ∀ j ev c c', r.Moves j id c ev c' → P c → P c' ∧ (Q c' → Q c)) : Q a := by
  by_contra lost
  have kept : P b ∧ ¬ Q b := by
    refine carries (P := fun c => P c ∧ ¬ Q c) start ⟨side, lost⟩ le found ?_
    rintro j ev c c' - - moved ⟨side, lost⟩
    obtain ⟨side', back⟩ := keeps j ev c c' moved side
    exact ⟨side', fun again => lost (back again)⟩
  exact kept.2 last

/-- An allocation stays in the store. -/
theorem allocation_later {i n : Nat} {id : AllocationId} {a : Allocation}
    (start : r.allocation? i id = some a) (le : i ≤ n) (more : (r.state? n).isSome) :
    ∃ b, r.allocation? n id = some b := by
  induction le with
  | refl => exact ⟨a, start⟩
  | @step n le ih =>
    obtain ⟨b, before⟩ := ih (state?_earlier (Nat.le_succ n) more)
    obtain ⟨ev, b', moved⟩ := moves before more
    exact ⟨b', moved.after⟩

/-- What a recorded tag was derived from never changes. -/
theorem descends_later {id : AllocationId} {i n : Nat} {a b : Allocation} {t u : Tag}
    (start : r.allocation? i id = some a) (ht : t ∈ a.tags) (le : i ≤ n)
    (found : r.allocation? n id = some b) : b.Descends t u ↔ a.Descends t u := by
  refine (carries (P := fun c => t ∈ c.tags ∧ (c.Descends t u ↔ a.Descends t u)) start ⟨ht, .rfl⟩
    le found ?_).2
  intro j ev c c' _ _ moved kept
  exact ⟨moved.step.mem_tags kept.1, (moved.step.descends_iff moved.valid kept.1).trans kept.2⟩

theorem interiorMutable_later {id : AllocationId} {i n : Nat} {a b : Allocation}
    (start : r.allocation? i id = some a) (le : i ≤ n) (found : r.allocation? n id = some b) :
    b.interiorMutable = a.interiorMutable :=
  carries (P := fun c => c.interiorMutable = a.interiorMutable) start rfl le found
    fun _ _ _ _ _ _ moved same => moved.step.interiorMutable_eq.trans same

end Run

end PointerTrace
