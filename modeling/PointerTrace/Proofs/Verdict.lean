import PointerTrace.Proofs.Progress

/- The verdict of a check. The evaluation of a program goes on from every state of its run
   (`Run.evaluate_of_state?`), and the run of a well-formed program gets behind the last operation or
   comes to one at fault (`Run.done_or_faults`). A check follows the run without recording
   (`Program.run`): in the first case the program is found sound, in the second the operation at fault
   is found, and there is no third way (`Program.check_cases`). A report states what was found
   (`Program.report_eq`); it is missing exactly where the operation at fault has a number that is
   too long to be quoted (`Program.report_eq_unquotable`). -/
namespace PointerTrace

namespace Run

variable {r : Run}

/-- The evaluation goes on from every state of the run. -/
theorem evaluate_of_state? {n : Nat} {m : Machine} (h : r.state? n = some m) :
    r.program.evaluate r.options r.recording =
      (m.runThrough (r.program.operations.drop n)).mapError fun e => [e.issue] := by
  induction n generalizing m with
  | zero =>
    obtain ⟨clean, rfl⟩ := state?_zero h
    rw [Program.evaluate, Machine.load, show r.program.issues r.options.checkBindings = [] from clean]
    rfl
  | succ n ih =>
    -- what was left in the state before was its operation, which was carried out, and the rest
    obtain ⟨before, op, after, found, here, change, rfl⟩ := state?_succ h
    have old := reached found
    have running : (after.advance op).status = .running := change.running old.status
    obtain ⟨short, rfl⟩ := List.getElem?_eq_some_iff.mp here
    rw [ih found, List.drop_eq_getElem_cons short, Machine.runThrough,
      change.execute old.valid old.status]
    show Except.mapError _ (if (after.advance _).status = .running then _ else _) = _
    rw [if_pos running]

/-- The evaluation of a program whose run gets behind the last operation. -/
theorem evaluate_of_done {last : Machine} (h : r.state? r.program.length = some last) :
    r.program.evaluate r.options r.recording = .ok { last with status := .haltedOk } := by
  rw [evaluate_of_state? h, show r.program.operations.drop r.program.length = [] from List.drop_length]
  rfl

/-- The evaluation of a program whose run comes to an operation at fault. -/
theorem evaluate_of_faults {n : Nat} {m : Machine} {op : Operation} {fault : AccessFault}
    (h : r.state? n = some m) (here : r.program.operations[n]? = some op)
    (faults : m.Faults op.action fault) :
    r.program.evaluate r.options r.recording = .ok (m.faulted op fault) := by
  obtain ⟨short, rfl⟩ := List.getElem?_eq_some_iff.mp here
  rw [evaluate_of_state? h, List.drop_eq_getElem_cons short, Machine.runThrough, faults.execute]
  rfl

/-- The run of a well-formed program gets behind its last operation or comes to one at fault. -/
theorem done_or_faults (clean : r.program.WellFormed r.options.checkBindings) :
    (∃ last, r.state? r.program.length = some last) ∨
      ∃ n m op fault, r.state? n = some m ∧ r.program.operations[n]? = some op ∧
        m.Faults op.action fault := by
  obtain ⟨m, -, ends⟩ := evaluate_ends clean
  cases noted : m.fault with
  | some fault =>
    obtain ⟨last, op, found, here, faults, -⟩ := ends.faults noted
    exact .inr ⟨fault.index, last, op, fault.access, found, here, faults⟩
  | none =>
    cases ends with
    | @done last found => exact .inl ⟨last, found⟩
    | fault => cases noted

end Run

/-- A check that finds nothing is not reported on, for the same reason. -/
def CheckFailure.unreported : CheckFailure → ReportFailure
  | .malformed issues => .malformed issues
  | .unfinished status => .unfinished status

namespace Program

/-- The run that a check follows. -/
def run (p : Program) (o : CheckOptions) : Run := ⟨p, o, false⟩

variable {p : Program} {o : CheckOptions}

/-- A run that gets behind the last operation makes the program sound. -/
theorem check_of_done {last : Machine} (h : (p.run o).state? p.length = some last) :
    p.check o = .ok (.sound p.name p.length last.store.values last.reads) := by
  have old := Run.reached h
  rw [check, show p.evaluate o false = _ from Run.evaluate_of_done h]
  show Except.ok (Verdict.sound last.program.name last.pc last.store.values last.reads) = _
  rw [old.program, old.pc]
  rfl

/-- A run that comes to an operation at fault makes the check report it. -/
theorem check_of_faults {n : Nat} {m : Machine} {op : Operation} {fault : AccessFault}
    (h : (p.run o).state? n = some m) (here : p.operations[n]? = some op)
    (faults : m.Faults op.action fault) :
    p.check o = .ok (.violation ⟨p.name, n, op, fault⟩) := by
  have old := Run.reached h
  rw [check, show p.evaluate o false = _ from Run.evaluate_of_faults h here faults]
  show Except.ok (Verdict.violation ⟨m.program.name, m.pc, op, fault⟩) = _
  rw [old.program, old.pc]
  rfl

/-- The run of a well-formed program gets behind its last operation or comes to one at fault. -/
theorem check_cases (clean : p.WellFormed o.checkBindings) :
    (∃ last, (p.run o).state? p.length = some last) ∨
      ∃ n m op fault, (p.run o).state? n = some m ∧ p.operations[n]? = some op ∧
        m.Faults op.action fault :=
  Run.done_or_faults (r := p.run o) clean

theorem wellFormed_of_check {v : Verdict} (h : p.check o = .ok v) :
    p.WellFormed o.checkBindings := by
  cases found : p.issues o.checkBindings with
  | nil => exact found
  | cons issue issues =>
    rw [check, evaluate, Machine.load, found] at h
    cases h

/-- What a check finds sound has a run that gets behind its last operation. -/
theorem done_of_check {program : String} {steps : Nat} {values : List (String × Int)}
    {reads : List Observation} (h : p.check o = .ok (.sound program steps values reads)) :
    ∃ last, (p.run o).state? p.length = some last ∧ values = last.store.values ∧
      reads = last.reads := by
  rcases check_cases (wellFormed_of_check h) with ⟨last, done⟩ | ⟨n, m, op, fault, found, here, faults⟩
  · rw [check_of_done done] at h
    cases h
    exact ⟨last, done, rfl, rfl⟩
  · rw [check_of_faults found here faults] at h
    cases h

/-- What a check reports is the fault of the operation that its run came to. -/
theorem faults_of_check {v : Violation} (h : p.check o = .ok (.violation v)) :
    ∃ m, (p.run o).state? v.index = some m ∧ p.operations[v.index]? = some v.fault.operation ∧
      m.Faults v.fault.operation.action v.fault.access := by
  rcases check_cases (wellFormed_of_check h) with ⟨last, done⟩ | ⟨n, m, op, fault, found, here, faults⟩
  · rw [check_of_done done] at h
    cases h
  · rw [check_of_faults found here faults] at h
    cases h
    exact ⟨m, found, here, faults⟩

/-! ## Reports -/

/-- A report states what a check finds. -/
theorem report_eq (p : Program) (o : CheckOptions) :
    p.report o = (p.check o).mapError CheckFailure.unreported >>= Verdict.stated := by
  unfold report check
  cases p.evaluate o false with
  | error issues => rfl
  | ok m =>
    show m.verdict.mapError _ >>= _ = (m.verdict.mapError _).mapError _ >>= _
    cases m.verdict <;> rfl

theorem report_of_check {v : Verdict} (h : p.check o = .ok v) : p.report o = v.stated := by
  rw [report_eq, h]
  rfl

/-- What is reported was found, and it can be quoted. -/
theorem report_eq_ok {v : Verdict} :
    p.report o = .ok v ↔ p.check o = .ok v ∧ v.isQuotable = true := by
  rw [report_eq]
  cases p.check o with
  | error failure => cases failure <;> simp [Except.mapError, bind, Except.bind]
  | ok w =>
    show w.stated = .ok v ↔ _
    rw [Verdict.stated]
    split
    · next quotable =>
      simp only [Except.ok.injEq]
      exact ⟨fun same => ⟨same, same ▸ quotable⟩, And.left⟩
    · next unquotable =>
      refine iff_of_false nofun ?_
      rintro ⟨same, quotable⟩
      cases same
      exact unquotable quotable

/-- A violation is reported if its operation can be quoted. -/
theorem report_violation {v : Violation} : p.report o = .ok (.violation v) ↔
    p.check o = .ok (.violation v) ∧ v.fault.operation.action.isWritable = true :=
  report_eq_ok

/-- A report is missing, although there is a verdict, exactly where the number of the operation at
    fault is too long to be written. -/
theorem report_eq_unquotable : p.report o = .error .unquotable ↔
    ∃ v, p.check o = .ok (.violation v) ∧ v.fault.operation.action.isWritable = false := by
  rw [report_eq]
  cases p.check o with
  | error failure => cases failure <;> simp [Except.mapError, bind, Except.bind, CheckFailure.unreported]
  | ok w =>
    show w.stated = _ ↔ _
    cases w with
    | sound => simp [Verdict.stated, Verdict.isQuotable]
    | violation v =>
      cases writable : v.fault.operation.action.isWritable <;>
        simp [Verdict.stated, Verdict.isQuotable, writable]

/-- What is found sound is reported so. -/
theorem report_sound : (∃ v, p.report o = .ok v ∧ v.isSound = true) ↔
    ∃ v, p.check o = .ok v ∧ v.isSound = true := by
  constructor
  · rintro ⟨v, reported, sound⟩
    exact ⟨v, (report_eq_ok.mp reported).1, sound⟩
  · rintro ⟨v, checked, sound⟩
    refine ⟨v, report_eq_ok.mpr ⟨checked, ?_⟩, sound⟩
    cases v with
    | sound => rfl
    | violation => cases sound

end Program

end PointerTrace
