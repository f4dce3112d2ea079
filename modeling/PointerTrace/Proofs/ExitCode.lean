import PointerTrace.CommandLine.Run
import PointerTrace.Proofs.Extension
import PointerTrace.Proofs.Shape

/- The exit code of running the program in a file. Whether a run gets behind the last operation
   depends neither on the value that calls write nor on what is recorded, and the refusal of writing
   through immutable bindings is settled before the run starts (`Run.done_congr`). So checking and
   explaining a file come to the same code, whatever the format, the value and the style of the
   output (`exit_agrees`), unless the answer cannot be written: it holds a number of too many
   digits. One format shows such a number and another does not, so that what is sound for the one
   is broken off for the other (`not_forall_exit_agrees`). -/
namespace PointerTrace

/-! ## The end of a run -/

namespace Run

/-- The run gets behind the last operation. -/
def Done (r : Run) : Prop := ∃ last, r.state? r.program.length = some last

variable {r s : Run}

theorem done_within (clean : s.program.WellFormed s.options.checkBindings)
    (sameProgram : s.program = r.program)
    (sameValue : s.options.externalValue = r.options.externalValue) (done : r.Done) : s.Done := by
  obtain ⟨last, found⟩ := done
  obtain ⟨trail, found'⟩ := state?_within clean sameValue (fun _ _ => by rw [sameProgram]) found
  exact ⟨_, (congrArg (fun p : Program => s.state? p.length) sameProgram).trans found'⟩

/-- What calls write does not matter to how far a run gets. -/
theorem done_of_value {p : Program} (clean : p.WellFormed false) (x y : Int)
    (done : (p.run ⟨x, false⟩).Done) : (p.run ⟨y, false⟩).Done := by
  obtain ⟨last, found⟩ := done
  have together := (Program.Alike.refl p).inStep (x := x) (y := y) clean clean p.length
  rw [show (p.run ⟨x, false⟩).state? p.length = some last from found] at together
  cases other : (p.run ⟨y, false⟩).state? p.length with
  | some last' => exact ⟨last', other⟩
  | none =>
    rw [other] at together
    cases together

/-- Runs of one program get equally far. -/
theorem done_congr (sameProgram : s.program = r.program)
    (clean : r.program.WellFormed r.options.checkBindings)
    (clean' : s.program.WellFormed s.options.checkBindings) (done : r.Done) : s.Done := by
  have unchecked := clean.unchecked
  have here : (r.program.run ⟨r.options.externalValue, false⟩).Done :=
    done_within (r := r) (s := r.program.run ⟨r.options.externalValue, false⟩) unchecked rfl rfl done
  have there : (r.program.run ⟨s.options.externalValue, false⟩).Done :=
    done_of_value unchecked _ _ here
  exact done_within (r := r.program.run ⟨s.options.externalValue, false⟩) clean' sameProgram rfl
    there

/-- The evaluation of a well-formed program ends without a fault when its run gets behind the last
    operation, and with one otherwise. -/
theorem evaluate_cases (clean : r.program.WellFormed r.options.checkBindings) :
    ∃ m v, r.program.evaluate r.options r.recording = .ok m ∧ m.verdict = .ok v ∧
      ((r.Done ∧ m.status = .haltedOk ∧ v.isSound = true) ∨
        (¬ r.Done ∧ m.status = .haltedUb ∧ v.isSound = false)) := by
  rcases done_or_faults clean with ⟨last, found⟩ | ⟨n, m, op, fault, found, here, faults⟩
  · exact ⟨_, _, evaluate_of_done found, rfl, .inl ⟨⟨last, found⟩, rfl, rfl⟩⟩
  · have evaluated := evaluate_of_faults found here faults
    refine ⟨_, _, evaluated, rfl, .inr ⟨?_, rfl, rfl⟩⟩
    rintro ⟨last, done⟩
    rw [evaluate_of_done done, Except.ok.injEq] at evaluated
    cases congrArg Machine.status evaluated

end Run

/-- All evaluations of a well-formed program end in the same way, whatever calls write and whether
    memory is recorded or not. -/
theorem Program.ends_alike {p : Program} {checkBindings : Bool}
    (clean : p.WellFormed checkBindings) : ∃ sound : Bool, ∀ value recording, ∃ m v,
      p.evaluate ⟨value, checkBindings⟩ recording = .ok m ∧ m.verdict = .ok v ∧
        v.isSound = sound ∧ m.status = if sound then .haltedOk else .haltedUb := by
  have alike : ∀ value recording, (p.run ⟨0, checkBindings⟩).Done ↔
      Run.Done ⟨p, ⟨value, checkBindings⟩, recording⟩ := fun value recording =>
    ⟨Run.done_congr rfl clean clean, Run.done_congr rfl clean clean⟩
  have ends := fun (value : Int) (recording : Bool) =>
    Run.evaluate_cases (r := ⟨p, ⟨value, checkBindings⟩, recording⟩) clean
  by_cases done : (p.run ⟨0, checkBindings⟩).Done
  · refine ⟨true, fun value recording => ?_⟩
    obtain ⟨m, v, evaluated, verdict, ⟨-, status, sound⟩ | ⟨stuck, -⟩⟩ := ends value recording
    · exact ⟨m, v, evaluated, verdict, sound, status⟩
    · exact absurd ((alike value recording).mp done) stuck
  · refine ⟨false, fun value recording => ?_⟩
    obtain ⟨m, v, evaluated, verdict, ⟨through, -⟩ | ⟨-, status, sound⟩⟩ := ends value recording
    · exact absurd ((alike value recording).mpr through) done
    · exact ⟨m, v, evaluated, verdict, sound, status⟩

theorem Program.wellFormed_of_evaluate {p : Program} {o : CheckOptions} {recording : Bool}
    {m : Machine} (h : p.evaluate o recording = .ok m) : p.WellFormed o.checkBindings := by
  cases found : p.issues o.checkBindings with
  | nil => exact found
  | cons issue issues =>
    rw [evaluate, Machine.load, found] at h
    cases h

namespace CommandLine

open Files (Tree)

/-! ## Running the program in a file -/

/-- The file of the tasks that run the program in one. -/
def Task.file? : Task → Option String
  | .check file .. | .explain file _ => some file
  | .scenarios .. | .init .. => none

/-- Whether a task records memory. -/
def Task.records : Task → Bool
  | .explain .. => true
  | _ => false

/-- Whether what a task says of a program that was run can be written. -/
def Task.canShow (settings : Settings) : Task → Examined → Bool
  | .explain .., e => Report.canList e.final e.verdict
  | _, e => Report.canWrite settings.format e.verdict

theorem Task.override_checkBindings (task : Task) (settings : Settings) :
    (task.override settings).checkBindings = settings.checkBindings := by
  cases task <;> rfl

section Library

variable [Document.Yaml.Library] {t : Tree} {path : String} {settings : Settings} {recording : Bool}

/-- Checking and explaining differ in what is recorded and in what is shown. -/
theorem Task.run_of_file {task : Task} (concerns : task.file? = some path) (style : Report.Style)
    (t : Tree) (settings : Settings) : ∃ text : Examined → String, task.run style t settings =
      (·, t) <$> answerFor settings
        (fun e => if task.canShow settings e then some (text e) else none)
        (examine t settings task.records path) := by
  cases task with
  | check file format value =>
    cases concerns
    exact ⟨_, rfl⟩
  | explain file value =>
    cases concerns
    exact ⟨_, rfl⟩
  | scenarios => cases concerns
  | init => cases concerns

theorem examine_of_failure {failure : Files.ProgramFailure}
    (read : t.programAt path = .error failure) (settings : Settings) (recording : Bool) :
    examine t settings recording path = .error (.ofFailure path failure) := by
  rw [examine, read]
  rfl

theorem examine_of_issues {p : Program} (read : t.programAt path = .ok p)
    (faulty : ¬ p.WellFormed settings.options.checkBindings) (recording : Bool) :
    ∃ answer, examine t settings recording path = .error (.answered answer) ∧ answer.exit = 2 := by
  have refused : p.evaluate settings.options recording =
      .error (p.issues settings.options.checkBindings) := by
    rw [Program.evaluate, Machine.load]
    cases found : p.issues settings.options.checkBindings with
    | nil => exact absurd found faulty
    | cons issue issues => rfl
  refine ⟨⟨2, printed (Issue.listText (p.issues settings.options.checkBindings)), []⟩, ?_, rfl⟩
  rw [examine, read]
  show (Except.mapError _ (p.evaluate settings.options recording) >>= _) = _
  rw [refused]
  rfl

theorem examine_of_evaluate {p : Program} {m : Machine} {v : Verdict}
    (read : t.programAt path = .ok p) (evaluated : p.evaluate settings.options recording = .ok m)
    (verdict : m.verdict = .ok v) : examine t settings recording path = .ok ⟨p, m, v⟩ := by
  rw [examine, read]
  show (Except.mapError _ (p.evaluate settings.options recording) >>= _) = _
  rw [evaluated]
  show (Except.mapError _ m.verdict >>= _) = _
  rw [verdict]
  rfl

/-! ## The exit code -/

/-- What an exit code says of the program in a file. -/
structure ExitCode (t : Tree) (path : String) (checkBindings : Bool) (code : Nat) : Prop where
  /-- The file gives no program or one with name problems. -/
  malformed : code = 2 ↔ (∃ failure, t.programAt path = .error failure) ∨
    ∃ p, t.programAt path = .ok p ∧ ¬ p.WellFormed checkBindings
  /-- The run ends with a fault. -/
  violation : ∀ value recording, code = 1 ↔ ∃ p m, t.programAt path = .ok p ∧
    p.evaluate ⟨value, checkBindings⟩ recording = .ok m ∧ m.status = .haltedUb
  /-- The run ends without one. -/
  sound : ∀ value recording, code = 0 ↔ ∃ p m, t.programAt path = .ok p ∧
    p.evaluate ⟨value, checkBindings⟩ recording = .ok m ∧ m.status = .haltedOk

/-- A task on a file exits with the code, unless what it says of the program there holds a number
    that is too long to be written. -/
def Task.Exits (task : Task) (style : Report.Style) (t : Tree) (settings : Settings) (path : String)
    (code : Nat) : Prop :=
  (∃ answer, task.run style t settings = .ok (answer, t) ∧ answer.exit = code ∧
    ∀ e, examine t settings task.records path = .ok e → task.canShow settings e = true) ∨
  (task.run style t settings = .error (.unreadable .unwritable) ∧
    ∃ e, examine t settings task.records path = .ok e ∧ task.canShow settings e = false)

section Exits

variable {task : Task} (concerns : task.file? = some path) (style : Report.Style)
include concerns

theorem Task.exits_of_answered {answer : Answer}
    (examined : examine t settings task.records path = .error (.answered answer)) :
    task.Exits style t settings path answer.exit := by
  obtain ⟨text, same⟩ := task.run_of_file concerns style t settings
  rw [examined, answerFor] at same
  refine .inl ⟨answer, same, rfl, fun e found => ?_⟩
  rw [examined] at found
  cases found

theorem Task.exits_of_failure {failure : Files.ProgramFailure}
    (read : t.programAt path = .error failure)
    (loads : ∀ fault, failure ≠ .content (.unreadable fault)) :
    task.Exits style t settings path 2 := by
  have examined := examine_of_failure read settings task.records
  cases failure with
  | absent => exact task.exits_of_answered concerns style examined
  | file failure => exact task.exits_of_answered concerns style examined
  | content failure =>
    cases failure with
    | malformed issues => exact task.exits_of_answered concerns style examined
    | unreadable fault => exact absurd rfl (loads fault)

theorem Task.exits_of_issues {p : Program} (read : t.programAt path = .ok p)
    (faulty : ¬ p.WellFormed settings.options.checkBindings) :
    task.Exits style t settings path 2 := by
  obtain ⟨answer, examined, code⟩ := examine_of_issues read faulty task.records
  exact code ▸ task.exits_of_answered concerns style examined

theorem Task.exits_of_evaluate {p : Program} {m : Machine} {v : Verdict}
    (read : t.programAt path = .ok p)
    (evaluated : p.evaluate settings.options task.records = .ok m) (verdict : m.verdict = .ok v) :
    task.Exits style t settings path (exitOf v) := by
  obtain ⟨text, same⟩ := task.run_of_file concerns style t settings
  have examined := examine_of_evaluate read evaluated verdict
  rw [examined] at same
  cases can : task.canShow settings ⟨p, m, v⟩ with
  | true =>
    rw [answerFor, if_pos can] at same
    refine .inl ⟨_, same, rfl, fun e found => ?_⟩
    rw [examined, Except.ok.injEq] at found
    exact found ▸ can
  | false =>
    rw [answerFor, can] at same
    exact .inr ⟨same, _, examined, can⟩

end Exits

/-! ## What the code says -/

theorem exitCode_of_failure {failure : Files.ProgramFailure} {checkBindings : Bool}
    (read : t.programAt path = .error failure) : ExitCode t path checkBindings 2 := by
  refine ⟨?_, ?_, ?_⟩ <;> simp [read]

theorem exitCode_of_issues {p : Program} {checkBindings : Bool} (read : t.programAt path = .ok p)
    (faulty : ¬ p.WellFormed checkBindings) : ExitCode t path checkBindings 2 := by
  have never : ∀ value recording status, ¬ ∃ q m, t.programAt path = .ok q ∧
      q.evaluate ⟨value, checkBindings⟩ recording = .ok m ∧ m.status = status := by
    rintro value recording status ⟨q, m, same, evaluated, -⟩
    rw [read, Except.ok.injEq] at same
    subst same
    exact faulty (Program.wellFormed_of_evaluate evaluated)
  refine ⟨?_, ?_, ?_⟩
  · exact ⟨fun _ => .inr ⟨p, read, faulty⟩, fun _ => rfl⟩
  · exact fun value recording => ⟨nofun, fun run => absurd run (never value recording _)⟩
  · exact fun value recording => ⟨nofun, fun run => absurd run (never value recording _)⟩

theorem exitCode_of_ends {p : Program} {checkBindings sound : Bool}
    (read : t.programAt path = .ok p) (clean : p.WellFormed checkBindings)
    (ends : ∀ value recording, ∃ m, p.evaluate ⟨value, checkBindings⟩ recording = .ok m ∧
      m.status = if sound then .haltedOk else .haltedUb) :
    ExitCode t path checkBindings (if sound then 0 else 1) := by
  have only : ∀ value recording status, (∃ q m, t.programAt path = .ok q ∧
      q.evaluate ⟨value, checkBindings⟩ recording = .ok m ∧ m.status = status) ↔
      status = if sound then .haltedOk else .haltedUb := by
    intro value recording status
    obtain ⟨m, evaluated, halted⟩ := ends value recording
    constructor
    · rintro ⟨q, m', same, evaluated', rfl⟩
      rw [read, Except.ok.injEq] at same
      rw [← same, evaluated, Except.ok.injEq] at evaluated'
      exact evaluated' ▸ halted
    · exact fun same => ⟨p, m, read, evaluated, same ▸ halted⟩
  refine ⟨?_, fun value recording => ?_, fun value recording => ?_⟩
  · have fine : ¬ ((∃ failure, t.programAt path = .error failure) ∨
        ∃ q, t.programAt path = .ok q ∧ ¬ q.WellFormed checkBindings) := by
      rintro (⟨failure, failed⟩ | ⟨q, same, faulty⟩)
      · rw [read] at failed
        cases failed
      · rw [read, Except.ok.injEq] at same
        exact faulty (same ▸ clean)
    cases sound <;> simp [fine]
  · rw [only]
    cases sound <;> simp
  · rw [only]
    cases sound <;> simp

/-- Checking and explaining a file exit with one code, whatever library reads YAML, and whatever the
    style, the format and the other settings, as long as the check of bindings is the same: 2 when the
    file gives no program or one with name problems, 1 when the run ends with a fault, and 0 when it
    ends without one. What keeps a task from that is a number that it shows and that is too long to be
    written. -/
theorem exit_agrees (t : Tree) (path : String) (checkBindings : Bool)
    (loads : ∀ fault, t.programAt path ≠ .error (.content (.unreadable fault))) :
    ∃ code, ExitCode t path checkBindings code ∧
      ∀ (style : Report.Style) (settings : Settings) (task : Task), task.file? = some path →
        settings.checkBindings = checkBindings →
          task.Exits style t (task.override settings) path code := by
  cases read : t.programAt path with
  | error failure =>
    refine ⟨2, exitCode_of_failure read, ?_⟩
    intro style settings task concerns _
    exact task.exits_of_failure concerns style read fun fault same => loads fault (same ▸ read)
  | ok p =>
    by_cases clean : p.WellFormed checkBindings
    · obtain ⟨sound, ends⟩ := p.ends_alike clean
      refine ⟨if sound then 0 else 1, exitCode_of_ends read clean fun value recording => ?_, ?_⟩
      · obtain ⟨m, v, evaluated, -, -, status⟩ := ends value recording
        exact ⟨m, evaluated, status⟩
      · rintro style settings task concerns rfl
        obtain ⟨m, v, evaluated, verdict, rfl, -⟩ :=
          ends (task.override settings).externalValue task.records
        rw [← task.override_checkBindings settings] at evaluated
        exact task.exits_of_evaluate concerns style read evaluated verdict
    · refine ⟨2, exitCode_of_issues read clean, ?_⟩
      rintro style settings task concerns rfl
      rw [← task.override_checkBindings settings] at clean
      exact task.exits_of_issues concerns style read clean

end Library

/-- A directory with one file. -/
def holding (path text : String) : Tree := ⟨[], [([path], .file (text.toList.map Char.toNat))]⟩

/-- A file with a program of two lines: a variable is declared and passed to a call. -/
def passed : Tree := holding "t.bs" "let mut x = 0;\nf(x);\n"

/-- A value of calls with more digits than can be written. -/
def longValue : Settings := { format := .text, externalValue := .ofNat (Nat.pow 16 3600) }

theorem exit_agrees_passed : ∃ code, ExitCode passed "t.bs" false code ∧
    ∃ answer, Task.run ⟨false⟩ passed longValue (.check "t.bs" none none) = .ok (answer, passed) ∧
      answer.exit = code := by
  have loaded : (passed.programAt "t.bs").toOption.isSome = true := by decide +kernel
  obtain ⟨code, meant, exits⟩ := exit_agrees passed "t.bs" false fun fault same => by
    rw [same] at loaded
    cases loaded
  refine ⟨code, meant, ?_⟩
  rcases exits ⟨false⟩ longValue (.check "t.bs" none none) rfl rfl with
    ⟨answer, ran, exit, -⟩ | ⟨broken, -⟩
  · exact ⟨answer, ran, exit⟩
  · have answered : ((Task.check "t.bs" none none).run ⟨false⟩ passed
        ((Task.check "t.bs" none none).override longValue)).toOption.isSome = true := by
      decide +kernel
    rw [broken] at answered
    cases answered

/-- A number of too many digits makes the difference: the program above is found sound as one line
    of text, and explaining it gives no answer at all. -/
theorem not_forall_exit_agrees : ¬ ∀ (t : Tree) (path : String) (checkBindings : Bool),
    t.holds path = true →
    (∀ fault, t.programAt path ≠ .error (.content (.unreadable fault))) →
    ∃ code, ∀ (style : Report.Style) (settings : Settings) (task : Task), task.file? = some path →
      settings.checkBindings = checkBindings →
        ∃ answer, task.run style t (task.override settings) = .ok (answer, t) ∧
          answer.exit = code := by
  intro all
  have loaded : (passed.programAt "t.bs").toOption.isSome = true := by decide +kernel
  obtain ⟨code, exits⟩ := all passed "t.bs" false (by decide +kernel) fun fault same => by
    rw [same] at loaded
    cases loaded
  obtain ⟨answer, ran, -⟩ := exits ⟨false⟩ longValue (.explain "t.bs" none) rfl rfl
  have broken : ((Task.explain "t.bs" none).run ⟨false⟩ passed
      ((Task.explain "t.bs" none).override longValue)).toOption.isSome = false := by decide +kernel
  rw [ran] at broken
  cases broken

end CommandLine

end PointerTrace
