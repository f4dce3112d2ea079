import PointerTrace.Proofs.NameResolution

/- Progress of well-formed programs. In every state of the run of a program without name problems the
   next operation finds whatever it looks up (`Machine.Safe`), so that it is carried out or is at
   fault. The run therefore ends, after at most as many operations as the program has: behind the
   last operation without fault, or at the operation whose fault it notes
   (`evaluate_of_wellFormed`). -/
namespace PointerTrace

namespace Machine

/-- Whatever the operation looks up is there. -/
structure Safe (m : Machine) (op : Operation) : Prop where
  /-- The operand is a pointer into an allocation, which has a lowest frame. -/
  operand : ∀ source, op.action.operand? = some source →
    ∃ p a, m.resolve source = .ok p ∧ m.store.get p.target = .ok a ∧ a.stack ≠ []
  /-- The target of a borrow is an allocation, which has a lowest frame. -/
  target : ∀ name kind result, op.action = .borrow name kind result →
    ∃ id a, m.store.lookup name = .ok id ∧ m.store.get id = .ok a ∧ a.stack ≠ [] ∧
      m.store.rootPointer id = .ok a.rootPointer
  /-- The name of a declaration is free. -/
  declaration : ∀ name value isMutable interiorMutable,
    op.action = .declare name value isMutable interiorMutable →
    ∃ id store, m.store.declare name value isMutable interiorMutable = .ok (id, store)
  /-- A parent that is not at fault has its frame on the stack, and a rule derives the new
      permission from it. -/
  parent : ∀ kind result p a t, m.Derives op.action kind result p →
    m.store.get p.target = .ok a → a.parentFault? p.tag .read = none → p.tag = some t →
    ∃ f, ((a.find t).bind fun depth => a.stack[depth]?) = some f ∧ f.tag = t ∧
      f.permission.DerivedBy kind a.interiorMutable
        (f.permission.derive kind a.interiorMutable)

/-- Where the names of an operation resolve, nothing that it looks up is missing. -/
theorem Ready.safe {m : Machine} {op : Operation} (hm : m.Valid) (ready : m.Ready op.action) :
    m.Safe op where
  operand := by
    intro source operand
    obtain ⟨p, resolved⟩ := ready.resolves operand
    obtain ⟨a, found, -⟩ := hm.resolve resolved
    exact ⟨p, a, resolved, Store.get_eq_ok.mpr found, (hm.store.get? found).1.stack_ne_nil⟩
  target := by
    intro name kind result borrows
    rw [borrows] at ready
    obtain ⟨a, named⟩ := Option.isSome_iff_exists.mp ready
    have found := hm.store.get?_of_named named
    have got := Store.get_eq_ok.mpr found
    refine ⟨a.id, a, by simp [Store.lookup, named], got,
      (hm.store.get? found).1.stack_ne_nil, ?_⟩
    rw [Store.rootPointer, got]
    rfl
  declaration := by
    intro name value isMutable interiorMutable declares
    rw [declares] at ready
    exact ⟨_, _, Store.declare_eq_ok.mpr ⟨ready, rfl, rfl⟩⟩
  parent := by
    rintro kind result p a t - - judged tagged
    rw [tagged] at judged
    obtain ⟨f, -, tag_eq, -, at_depth⟩ := Allocation.parentFault?_eq_none.mp judged
    exact ⟨f, at_depth, tag_eq, Permission.derivedBy_iff.mpr rfl⟩

end Machine

namespace Run

variable {r : Run}

/-- A run has no more states after the first than the program has operations. -/
theorem le_length {n : Nat} {m : Machine} (h : r.state? n = some m) : n ≤ r.program.length := by
  cases n with
  | zero => exact Nat.zero_le _
  | succ n =>
    obtain ⟨-, op, -, -, here, -⟩ := state?_succ h
    exact (List.getElem?_eq_some_iff.mp here).1

theorem step_of_execute {n : Nat} {m m' : Machine} {op : Operation} (h : r.state? n = some m)
    (here : r.program.operations[n]? = some op) (executed : m.execute op = .ok m') :
    m.step = .ok m' := by
  have old := reached h
  exact Machine.step_eq_ok.mpr ⟨old.status, op, by rw [old.program, old.pc, here], executed⟩

/-- An operation that makes a change leads to the next state of the run. -/
theorem state?_of_change {n : Nat} {m after : Machine} {op : Operation} (h : r.state? n = some m)
    (here : r.program.operations[n]? = some op) (change : m.Change op.action after) :
    r.state? (n + 1) = some (after.advance op) := by
  have old := reached h
  have executed := change.execute old.valid old.status
  rw [state?, h, Option.bind_some]
  exact Machine.next?_eq_some.mpr ⟨step_of_execute h here executed, change.running old.status⟩

/-- A step into a fault leads to no further state. -/
theorem state?_of_stepped {n : Nat} {m : Machine} {op : Operation} {fault : AccessFault}
    (h : r.state? n = some m) (stepped : m.step = .ok (m.faulted op fault)) :
    r.state? (n + 1) = none := by
  by_contra more
  obtain ⟨m', next⟩ := Option.ne_none_iff_exists'.mp more
  rw [state?, h, Option.bind_some, Machine.next?_eq_some, stepped, Except.ok.injEq] at next
  obtain ⟨rfl, running⟩ := next
  cases running

/-- An operation at fault leads to no further state. -/
theorem state?_of_faults {n : Nat} {m : Machine} {op : Operation} {fault : AccessFault}
    (h : r.state? n = some m) (here : r.program.operations[n]? = some op)
    (faults : m.Faults op.action fault) : r.state? (n + 1) = none :=
  state?_of_stepped h (step_of_execute h here faults.execute)

/-- Behind the last operation there is no further state. -/
theorem state?_of_end {n : Nat} (ended : r.program.operations[n]? = none) :
    r.state? (n + 1) = none := by
  by_contra more
  obtain ⟨m', next⟩ := Option.ne_none_iff_exists'.mp more
  obtain ⟨m, op, after, -, here, -⟩ := state?_succ next
  rw [ended] at here
  cases here

/-- How a run ends: behind the last operation, or with the fault of an operation. -/
inductive Ends (r : Run) : Machine → Prop where
  | done {last : Machine} (found : r.state? r.program.length = some last) :
      r.Ends { last with status := .haltedOk }
  | fault {n : Nat} {last : Machine} {op : Operation} {fault : AccessFault}
      (found : r.state? n = some last) (here : r.program.operations[n]? = some op)
      (stepped : last.step = .ok (last.faulted op fault)) : r.Ends (last.faulted op fault)

/-- The memory that a run ends with is that of its last state. -/
theorem Ends.last {m : Machine} (h : r.Ends m) :
    ∃ last, r.state? m.pc = some last ∧ m.store = last.store := by
  cases h with
  | @done last found => exact ⟨last, (congrArg r.state? (reached found).pc).trans found, rfl⟩
  | @fault n last op fault found here stepped =>
    exact ⟨last, (congrArg r.state? (reached found).pc).trans found, rfl⟩

/-- The fault that a run ends with is one of the operation at its index. -/
theorem Ends.faults {m : Machine} (h : r.Ends m) {fault : Fault} (noted : m.fault = some fault) :
    ∃ last op, r.state? fault.index = some last ∧ r.program.operations[fault.index]? = some op ∧
      last.Faults op.action fault.access ∧ m.store = last.store := by
  cases h with
  | @done last found =>
    have clear := (reached found).fault
    rw [show last.fault = some fault from noted] at clear
    cases clear
  | @fault n last op access found here stepped =>
    have old := reached found
    obtain ⟨-, op', here', executed⟩ := Machine.step_eq_ok.mp stepped
    rw [old.program, old.pc, here, Option.some.injEq] at here'
    subst here'
    simp only [Machine.faulted, Option.some.injEq] at noted
    subst noted
    have index : last.pc = n := old.pc
    refine ⟨last, op, by rw [index, found], by rw [index, here], ?_, rfl⟩
    rcases (ready (wellFormed found) found here).cases old.valid with
      ⟨after, change⟩ | ⟨other, faults⟩
    · -- a machine that made a change still runs
      rw [change.execute old.valid old.status, Except.ok.injEq] at executed
      have running := change.running old.status
      rw [show after.status = .haltedUb from congrArg Machine.status executed] at running
      cases running
    · rw [faults.execute, Except.ok.injEq] at executed
      have same := congrArg Machine.fault executed
      simp only [Machine.faulted, Option.some.injEq, Fault.mk.injEq, true_and] at same
      exact same ▸ faults

/-- From every state of the run of a well-formed program, the rest of it ends. -/
theorem runThrough_ends (clean : r.program.WellFormed r.options.checkBindings) {n : Nat}
    {m : Machine} (h : r.state? n = some m) {l : List Operation}
    (rest : r.program.operations.drop n = l) : ∃ m', m.runThrough l = .ok m' ∧ r.Ends m' := by
  induction l generalizing n m with
  | nil =>
    have all : n = r.program.length :=
      Nat.le_antisymm (le_length h) (List.drop_eq_nil_iff.mp rest)
    subst all
    exact ⟨_, rfl, .done h⟩
  | cons op l ih =>
    have here : r.program.operations[n]? = some op := by
      rw [← List.head?_drop, rest, List.head?_cons]
    have old := reached h
    -- the operation leads to the next state of the run, or it is at fault and ends the run
    rcases Machine.execute_ready old.valid old.status op (ready clean h here) with
      ⟨after, change, executed⟩ | ⟨fault, executed⟩
    · have running : (after.advance op).status = .running := change.running old.status
      have next := state?_of_change h here change
      obtain ⟨m', ran, ends⟩ := ih next (by rw [← List.drop_drop, rest]; rfl)
      refine ⟨m', ?_, ends⟩
      rw [Machine.runThrough, executed]
      show (if (after.advance op).status = .running then _ else _) = _
      rw [if_pos running, ran]
    · refine ⟨m.faulted op fault, ?_, .fault h here (step_of_execute h here executed)⟩
      rw [Machine.runThrough, executed]
      rfl

/-- The evaluation of a program that runs ends. -/
theorem evaluate_ends (clean : r.program.WellFormed r.options.checkBindings) :
    ∃ m, r.program.evaluate r.options r.recording = .ok m ∧ r.Ends m := by
  let start := Machine.start r.program r.options.externalValue r.recording
  have loaded : Machine.load r.program r.options.externalValue r.options.checkBindings r.recording =
      .ok start := by
    rw [Machine.load, show r.program.issues r.options.checkBindings = [] from clean]
  obtain ⟨m, ran, ends⟩ := runThrough_ends clean (state?_start clean) rfl
  have ended : start.run = .ok m := by
    rw [Machine.run]
    exact (if_pos rfl).trans ran
  refine ⟨m, ?_, ends⟩
  rw [Program.evaluate, loaded]
  show Except.mapError _ start.run = _
  rw [ended]
  rfl

/-- What the evaluation of a program gives is an end of its run. -/
theorem ends_of_evaluate {m : Machine} (h : r.program.evaluate r.options r.recording = .ok m) :
    r.Ends m := by
  cases found : r.program.issues r.options.checkBindings with
  | nil =>
    obtain ⟨m', evaluated, ends⟩ := evaluate_ends found
    rw [h, Except.ok.injEq] at evaluated
    exact evaluated ▸ ends
  | cons issue issues =>
    rw [Program.evaluate, Machine.load, found] at h
    cases h

/-- The evaluation of the program ends with a fault of the operation at an index. -/
def FaultsAt (r : Run) (n : Nat) : Prop :=
  ∃ m fault, r.program.evaluate r.options r.recording = .ok m ∧ m.status = .haltedUb ∧
    m.fault = some fault ∧ fault.index = n

/-- A run that does not get through some of its operations ends with a fault of one of them. -/
theorem faultsAt_of_none {n k : Nat} {m : Machine} (h : r.state? n = some m)
    (none : r.state? k = none) (le : k ≤ r.program.length) :
    ∃ j, n ≤ j ∧ j < k ∧ r.FaultsAt j := by
  have later : ∀ j, (r.state? j).isSome → j < k := fun j reaches => by
    by_contra beyond
    have := state?_earlier (Nat.le_of_not_lt beyond) reaches
    rw [none] at this
    cases this
  obtain ⟨last, evaluated, ends⟩ := evaluate_ends (wellFormed h)
  cases ends with
  | done found =>
    have := later r.program.length (by rw [found]; rfl)
    omega
  | @fault j before op fault found here stepped =>
    refine ⟨j, ?_, later j (by rw [found]; rfl), _, _, evaluated, rfl, rfl, (reached found).pc⟩
    by_contra beyond
    -- the state after the fault would run
    have more := state?_earlier (Nat.lt_of_not_le beyond) (by rw [h]; rfl)
    rw [state?_of_stepped found stepped] at more
    cases more

/-- A program without name problems is loaded, every operation that it comes to finds what it looks
    up, and its evaluation ends: behind the last operation, or at the first operation at fault. -/
theorem evaluate_of_wellFormed (p : Program) (o : CheckOptions) (recording : Bool)
    (clean : p.WellFormed o.checkBindings) :
    (∀ n m op, (Run.mk p o recording).state? n = some m → p.operations[n]? = some op →
      m.Safe op ∧ ∃ m', m.step = .ok m') ∧
    ∃ m, p.evaluate o recording = .ok m ∧
      ((m.status = .haltedOk ∧ m.pc = p.length ∧ m.fault = none ∧
        ∃ last, (Run.mk p o recording).state? p.length = some last ∧
          m = { last with status := .haltedOk }) ∨
      (m.status = .haltedUb ∧ ∃ n last fault, n < p.length ∧
        (Run.mk p o recording).state? n = some last ∧ last.step = .ok m ∧
        m.fault = some fault ∧ fault.index = n ∧ m.pc = n)) := by
  let r : Run := ⟨p, o, recording⟩
  have well : r.program.WellFormed r.options.checkBindings := clean
  constructor
  · intro n m op found here
    have old := reached found
    have safe := ready well found here
    refine ⟨safe.safe old.valid, ?_⟩
    rcases Machine.execute_ready old.valid old.status op safe with
      ⟨after, -, executed⟩ | ⟨fault, executed⟩
    · exact ⟨_, step_of_execute found here executed⟩
    · exact ⟨_, step_of_execute found here executed⟩
  · have loaded : Machine.load p o.externalValue o.checkBindings recording =
        .ok (.start p o.externalValue recording) := by
      rw [Machine.load, show p.issues o.checkBindings = [] from clean]
    have first : r.state? 0 = some (.start p o.externalValue recording) := by
      rw [state?, loaded]
      rfl
    obtain ⟨m, ran, ends⟩ := runThrough_ends well first rfl
    refine ⟨m, ?_, ?_⟩
    · have ended : (Machine.start p o.externalValue recording).run = .ok m := by
        rw [Machine.run]
        exact (if_pos rfl).trans ran
      rw [Program.evaluate, loaded]
      show Except.mapError _ (Machine.run _) = _
      rw [ended]
      rfl
    · cases ends with
      | @done last found =>
        have old := reached found
        exact .inl ⟨rfl, old.pc, old.fault, last, found, rfl⟩
      | @fault n last op fault found here stepped =>
        have old := reached found
        exact .inr ⟨rfl, n, last, ⟨last.pc, op, fault⟩, (List.getElem?_eq_some_iff.mp here).1, found,
          stepped, rfl, old.pc, old.pc⟩

theorem evaluate_of_wellFormed_write : ∃ m,
    (ofActions [.declare "x" 0 true false, .borrow "x" .unique "m", .write "m" 1]).program.evaluate
      {} false = .ok m ∧ (m.status = .haltedOk ∨ m.status = .haltedUb) := by
  obtain ⟨-, m, ran, ended⟩ := evaluate_of_wellFormed
    (ofActions [.declare "x" 0 true false, .borrow "x" .unique "m", .write "m" 1]).program {} false
    rfl
  exact ⟨m, ran, ended.imp And.left And.left⟩

end Run

end PointerTrace
