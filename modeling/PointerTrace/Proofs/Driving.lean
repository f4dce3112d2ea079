import PointerTrace.Proofs.Verdict

/- A machine that is driven by hand. It may be stepped, run and reported on in any order; a call that is
   refused leaves it as it is. Whatever the calls were, the machine is at a stage of the run of its
   program (`Run.Stage`): it stands before an operation or behind the last one, it has been told that
   the program is over, or it has noted the fault of an operation. Every call leads from stage to stage
   (`Run.Stage.called`), and running on from any of them ends the same way
   (`Program.driven_consistent`). -/
namespace PointerTrace

namespace Machine

/-- What is asked of a machine that is driven by hand. -/
inductive Call where
  | step
  | run
  | report
  deriving DecidableEq, Repr

/-- The machine after a call. A refused call leaves the machine as it is, and a report only looks at
    it. -/
def called (m : Machine) : Call → Machine
  | .step => m.step.toOption.getD m
  | .run => m.run.toOption.getD m
  | .report => m

/-- The machine after some calls. -/
def driven (m : Machine) (calls : List Call) : Machine := calls.foldl called m

/-- The machine after a number of steps. -/
def stepped (m : Machine) : Nat → Except StepError Machine
  | 0 => .ok m
  | n + 1 => m.stepped n >>= step

theorem step_of_halted {m : Machine} (halted : m.status ≠ .running) :
    m.step = .error (.halted m.status) := if_neg halted

theorem run_of_halted {m : Machine} (halted : m.status ≠ .running) : m.run = .ok m := if_neg halted

theorem called_of_step {m m' : Machine} (h : m.step = .ok m') : m.called .step = m' := by
  simp [called, h, Except.toOption]

theorem called_of_refused {m : Machine} {e : StepError} (h : m.step = .error e) :
    m.called .step = m := by
  simp [called, h, Except.toOption]

theorem called_of_run {m m' : Machine} (h : m.run = .ok m') : m.called .run = m' := by
  simp [called, h, Except.toOption]

theorem verdict_of_running {m : Machine} (running : m.status = .running) :
    m.verdict = .error .running := by
  simp [verdict, running]

end Machine

namespace Run

/-- Where a machine may be that is driven by hand: before an operation of the run or behind the last
    one, halted behind the last one, or halted at the fault of an operation. -/
inductive Stage (r : Run) : Machine → Prop where
  | running {n : Nat} {m : Machine} (found : r.state? n = some m) : r.Stage m
  | done {last : Machine} (found : r.state? r.program.length = some last) :
      r.Stage { last with status := .haltedOk }
  | fault {n : Nat} {m : Machine} {op : Operation} {fault : AccessFault}
      (found : r.state? n = some m) (here : r.program.operations[n]? = some op)
      (faults : m.Faults op.action fault) : r.Stage (m.faulted op fault)

variable {r : Run} {n : Nat} {m : Machine}

/-- The states of a run are reached step by step. -/
theorem stepped_of_state? (h : r.state? n = some m) :
    (Machine.start r.program r.options.externalValue r.recording).stepped n = .ok m := by
  induction n generalizing m with
  | zero =>
    rw [(state?_zero h).2]
    rfl
  | succ n ih =>
    obtain ⟨before, found, next⟩ := Option.bind_eq_some_iff.mp h
    obtain ⟨stepped, -⟩ := Machine.next?_eq_some.mp next
    rw [Machine.stepped, ih found]
    exact stepped

/-- Behind the last operation there is nothing to step through. -/
theorem step_of_end (h : r.state? n = some m) (ended : r.program.operations[n]? = none) :
    m.step = .error .pastEnd := by
  have old := reached h
  rw [Machine.step, if_pos old.status, old.program, old.pc, ended]

namespace Stage

variable (clean : r.program.WellFormed r.options.checkBindings)

/-- A step from a state of the run leads to another stage. -/
theorem of_step {op : Operation} (h : r.state? n = some m)
    (here : r.program.operations[n]? = some op) : ∃ m', m.step = .ok m' ∧ r.Stage m' := by
  have old := reached h
  rcases (ready (wellFormed h) h here).cases old.valid with ⟨after, change⟩ | ⟨fault, faults⟩
  · have executed := change.execute old.valid old.status
    exact ⟨_, step_of_execute h here executed, .running (state?_of_change h here change)⟩
  · exact ⟨_, step_of_execute h here faults.execute, .fault h here faults⟩

/-- Running on from a stage is the evaluation of the program. -/
theorem evaluate (stage : r.Stage m) :
    r.program.evaluate r.options r.recording = m.run.mapError fun e => [e.issue] := by
  cases stage with
  | @running n _ found =>
    have old := reached found
    rw [evaluate_of_state? found, Machine.run, if_pos old.status, old.program, old.pc]
  | done found => exact evaluate_of_done found
  | fault found here faults => exact evaluate_of_faults found here faults

include clean

/-- Running on from any stage ends at one and the same stage, where the machine is halted. -/
theorem run_ends : ∃ final, r.Stage final ∧ final.status ≠ .running ∧
    ∀ m, r.Stage m → m.run = .ok final := by
  have ends : ∃ final, r.Stage final ∧ final.status ≠ .running ∧
      r.program.evaluate r.options r.recording = .ok final := by
    rcases done_or_faults clean with ⟨last, found⟩ | ⟨n, m, op, fault, found, here, faults⟩
    · exact ⟨_, .done found, nofun, evaluate_of_done found⟩
    · exact ⟨_, .fault found here faults, nofun, evaluate_of_faults found here faults⟩
  obtain ⟨final, stage, halted, evaluated⟩ := ends
  refine ⟨final, stage, halted, fun m here => ?_⟩
  rw [here.evaluate] at evaluated
  cases ran : m.run with
  | ok m' => simpa [ran, Except.mapError] using evaluated
  | error e =>
    rw [ran] at evaluated
    cases evaluated

/-- Every call leads from stage to stage. -/
theorem called (stage : r.Stage m) (call : Machine.Call) : r.Stage (m.called call) := by
  cases call with
  | report => exact stage
  | run =>
    obtain ⟨final, last, -, ran⟩ := run_ends clean
    rw [Machine.called_of_run (ran m stage)]
    exact last
  | step =>
    cases stage with
    | @running n _ found =>
      cases here : r.program.operations[n]? with
      | none =>
        rw [Machine.called_of_refused (step_of_end found here)]
        exact .running found
      | some op =>
        obtain ⟨m', stepped, next⟩ := of_step found here
        rw [Machine.called_of_step stepped]
        exact next
    | @done last found =>
      have halted : { last with status := Status.haltedOk }.status ≠ .running := nofun
      rw [Machine.called_of_refused (Machine.step_of_halted halted)]
      exact .done found
    | @fault n m op fault found here faults =>
      have halted : (m.faulted op fault).status ≠ .running := nofun
      rw [Machine.called_of_refused (Machine.step_of_halted halted)]
      exact .fault found here faults

theorem driven (stage : r.Stage m) (calls : List Machine.Call) : r.Stage (m.driven calls) := by
  induction calls generalizing m with
  | nil => exact stage
  | cons call calls ih => exact ih (stage.called clean call)

end Stage

end Run

namespace Machine

/-- What holds of a machine for a program wherever it is driven. A halted machine refuses to step and
    has a verdict; one that still runs has none, and steps unless it stands behind the last operation.
    A machine is halted with undefined behaviour when it has noted a fault, that of the operation at
    which it stands, and else only behind the last operation. -/
structure Consistent (p : Program) (m : Machine) : Prop where
  halted : m.status ≠ .running → m.step = .error (.halted m.status) ∧ m.called .step = m ∧
    m.run = .ok m ∧ m.called .run = m ∧ ∃ v, m.verdict = .ok v
  pastEnd : m.status = .running → m.pc = p.length → m.step = .error .pastEnd ∧ m.called .step = m
  steps : m.status = .running → m.pc ≠ p.length → ∃ m', m.step = .ok m'
  running : m.status = .running → m.verdict = .error .running
  report : m.called .report = m
  fault : m.status = .haltedUb ↔ m.fault.isSome = true
  index : ∀ fault, m.fault = some fault → m.pc = fault.index
  finished : m.status = .haltedOk → m.pc = p.length

end Machine

namespace Run.Stage

variable {r : Run} {m : Machine}

theorem consistent (stage : r.Stage m) : m.Consistent r.program := by
  have refuses : ∀ m : Machine, m.status ≠ .running →
      m.step = .error (.halted m.status) ∧ m.called .step = m ∧ m.run = .ok m ∧ m.called .run = m := by
    intro m halted
    have step := Machine.step_of_halted halted
    have run := Machine.run_of_halted halted
    exact ⟨step, Machine.called_of_refused step, run, Machine.called_of_run run⟩
  cases stage with
  | @running n m found =>
    have old := reached found
    refine ⟨fun halted => absurd old.status halted, fun _ all => ?_, fun _ more => ?_,
      Machine.verdict_of_running, rfl, ?_, ?_, ?_⟩
    · have ended : r.program.operations[n]? = none := by
        rw [List.getElem?_eq_none_iff, ← old.pc, all]
        exact Nat.le_refl _
      have refused := step_of_end found ended
      exact ⟨refused, Machine.called_of_refused refused⟩
    · have inside : n < r.program.operations.length := by
        have bound : n ≤ r.program.length := le_length found
        have apart : n ≠ r.program.length := old.pc ▸ more
        exact Nat.lt_of_le_of_ne bound apart
      obtain ⟨m', stepped, -⟩ := of_step found (List.getElem?_eq_getElem inside)
      exact ⟨m', stepped⟩
    · simp [old.status, old.fault]
    · simp [old.fault]
    · simp [old.status]
  | @done last found =>
    have old := reached found
    have halted := refuses { last with status := .haltedOk } nofun
    refine ⟨fun _ => ⟨halted.1, halted.2.1, halted.2.2.1, halted.2.2.2, _, rfl⟩, nofun, nofun, nofun,
      rfl, ?_, ?_, fun _ => old.pc⟩
    · simp [old.fault]
    · simp [old.fault]
  | @fault n m op fault found here faults =>
    have halted := refuses (m.faulted op fault) nofun
    refine ⟨fun _ => ⟨halted.1, halted.2.1, halted.2.2.1, halted.2.2.2, _, rfl⟩, nofun, nofun, nofun,
      rfl, by simp [Machine.faulted], ?_, nofun⟩
    intro noted same
    simp only [Machine.faulted, Option.some.injEq] at same
    rw [← same]
    rfl

/-- A stage is what some steps from the start lead to, but for the status at the end. -/
theorem stepped (stage : r.Stage m) : ∃ n reached,
    (Machine.start r.program r.options.externalValue r.recording).stepped n = .ok reached ∧
      m = { reached with status := m.status } := by
  cases stage with
  | @running n m found => exact ⟨n, m, stepped_of_state? found, rfl⟩
  | @done last found => exact ⟨r.program.length, last, stepped_of_state? found, rfl⟩
  | @fault n m op fault found here faults =>
    refine ⟨n + 1, m.faulted op fault, ?_, rfl⟩
    rw [Machine.stepped, stepped_of_state? found]
    exact step_of_execute found here faults.execute

end Run.Stage

namespace Program

/-- However the machine of a well-formed program is driven, it is where some number of steps from the
    start lead, but for the status at the end; running on ends where running from the start does; and
    what it refuses, and its status, are consistent with where it stands. -/
theorem driven_consistent (p : Program) (o : CheckOptions) (recording : Bool)
    (clean : p.WellFormed o.checkBindings) : ∃ start,
    Machine.load p o.externalValue o.checkBindings recording = .ok start ∧
    ∀ calls, (start.driven calls).Consistent p ∧
      (∃ n reached, start.stepped n = .ok reached ∧
        start.driven calls = { reached with status := (start.driven calls).status }) ∧
      ∃ final, start.run = .ok final ∧ (start.driven calls).run = .ok final := by
  let r : Run := ⟨p, o, recording⟩
  have well : r.program.WellFormed r.options.checkBindings := clean
  have loaded : Machine.load p o.externalValue o.checkBindings recording =
      .ok (.start p o.externalValue recording) := by
    rw [Machine.load, show p.issues o.checkBindings = [] from clean]
  have first : r.Stage (.start p o.externalValue recording) := .running (Run.state?_start well)
  refine ⟨_, loaded, fun calls => ?_⟩
  have stage := first.driven well calls
  obtain ⟨final, -, -, ran⟩ := Run.Stage.run_ends well
  exact ⟨stage.consistent, stage.stepped, final, ran _ first, ran _ stage⟩

/-- A variable that is read through a pointer after a write through its own name. -/
def staleRead : Program := (Run.ofActions [.declare "x" 0 true false, .borrow "x" .unique "m",
  .write "x" 1, .read "m" none]).program

theorem driven_consistent_staleRead : ∃ start, Machine.load staleRead 1 false false = .ok start ∧
    (start.driven [.step, .report, .step]).pc = 2 ∧
    (start.driven [.step, .report, .step, .run, .step]).status = .haltedUb ∧
    ∃ final, start.run = .ok final ∧
      (start.driven [.step, .report, .step, .run, .step]).run = .ok final ∧ final.pc = 3 := by
  obtain ⟨start, loaded, driven⟩ := driven_consistent staleRead {} false rfl
  cases loaded
  obtain ⟨-, -, final, ran, again⟩ := driven [.step, .report, .step, .run, .step]
  refine ⟨_, rfl, rfl, rfl, final, ran, again, ?_⟩
  cases ran
  rfl

/-- A machine that is stepped past the end of its program still runs. -/
example : ((Machine.start (Run.ofActions [.declare "x" 0 true false]).program 1 false).driven
    [.step, .step, .step]).status = .running := by
  decide

end Program

end PointerTrace
