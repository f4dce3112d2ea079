import PointerTrace.CommandLine.Usage
import PointerTrace.Document.Yaml.Standard
import PointerTrace.Files.ProgramFile
import PointerTrace.Files.SettingsFile
import PointerTrace.Machine.Narration
import PointerTrace.Report.Listing
import PointerTrace.Scenario

/- Running the program: arguments and a tree of files give an exit code, what is printed, what is
   logged, and the tree afterwards. The exit code is 0 for a sound trace, 1 for a violation and 2
   for anything that keeps a trace from being checked. -/
namespace PointerTrace.CommandLine

open Files (Tree)

/-- What a run of the program leaves behind. -/
structure Outcome where
  exit : Nat
  out : String
  err : String
  files : Tree
  deriving DecidableEq, Repr

/-- What ends the program without an answer: a scalar without value, a number that cannot be written, a
    settings file without a path, a scenario that is malformed, a file that cannot be made, or a run
    that does not halt. -/
inductive Abort where
  | unreadable (fault : Document.ScalarFault)
  | pathless
  | malformed (issues : List Issue)
  | file (failure : Files.Failure)
  | unfinished (status : Status)
  deriving DecidableEq, Repr

/-- What is said about a run that has not halted. -/
def unfinishedMessage (status : Status) : String :=
  "cannot report on a trace that has not halted (" ++ status.name ++ ")"

/-- The wording of what ended the program. -/
def Abort.message : Abort → String
  | .unreadable fault => fault.message
  | .pathless => "expected str, bytes or os.PathLike object, not list"
  | .malformed issues => "\n".intercalate (issues.map Issue.text)
  | .file failure => failure.message
  | .unfinished status => unfinishedMessage status

/-- The answer of a command: its exit code, what it prints, and what is logged meanwhile. -/
structure Answer where
  exit : Nat
  out : String
  log : List LogLine
  deriving DecidableEq, Repr

/-- A printed text ends with a line feed. -/
def printed (s : String) : String := s ++ "\n"

/-- An answer that only says what went wrong. -/
def refusal (message : String) : Answer :=
  ⟨2, printed (Json.object [("error", .text message)]).compact, []⟩

/-- The exit code for a verdict. -/
def exitOf (r : Verdict) : Nat := if r.isSound then 0 else 1

/-- A program that was run to its end, and the verdict on it. -/
structure Examined where
  program : Program
  final : Machine
  verdict : Verdict
  deriving DecidableEq, Repr

/-- Why a trace file gives no verdict. -/
inductive Trouble where
  | answered (answer : Answer)
  | aborted (abort : Abort)
  deriving DecidableEq, Repr

/-- What a file that gives no program leads to. -/
def Trouble.ofFailure (path : String) : Files.ProgramFailure → Trouble
  | .absent => .answered (refusal ("File not found: " ++ path))
  | .file failure => .answered (refusal ("Cannot read " ++ path ++ ": " ++ failure.error.text))
  | .content (.malformed issues) => .answered ⟨2, printed (Issue.listText issues), []⟩
  | .content (.unreadable fault) => .aborted (.unreadable fault)

/-- Runs the program in a file. -/
def examine [Document.Yaml.Library] (t : Tree) (settings : Settings) (recording : Bool)
    (path : String) : Except Trouble Examined := do
  let p ← (t.programAt path).mapError (.ofFailure path)
  let m ← (p.evaluate settings.options recording).mapError fun issues =>
    .answered ⟨2, printed (Issue.listText issues), []⟩
  let verdict ← m.verdict.mapError fun status => .aborted (.unfinished status)
  return ⟨p, m, verdict⟩

/-- A text, unless it holds a number that is too long to be written. -/
def shown (text : Option String) : Except Abort String :=
  text.elim (.error (.unreadable .unwritable)) .ok

/-- The answer to running the program in a file, given what to print of it. -/
def answerFor (settings : Settings) (text : Examined → Option String) :
    Except Trouble Examined → Except Abort Answer
  | .ok e => do
    let text ← shown (text e)
    return ⟨exitOf e.verdict, printed text, e.program.narration settings.options⟩
  | .error (.answered answer) => .ok answer
  | .error (.aborted abort) => .error abort

/-- Checks a file. -/
def checkFile [Document.Yaml.Library] (s : Report.Style) (t : Tree) (settings : Settings)
    (path : String) : Except Abort Answer :=
  answerFor settings (fun e => Report.written? s settings.format (some e.program) e.verdict)
    (examine t settings false path)

/-- Explains a file. -/
def explainFile [Document.Yaml.Library] (s : Report.Style) (t : Tree) (settings : Settings)
    (path : String) : Except Abort Answer :=
  answerFor settings (fun e => Report.listing? s e.final e.verdict) (examine t settings true path)

/-- A scenario that was run: its program and the report on it. -/
def runScenario (settings : Settings) (s : Scenario) :
    Except Abort (Scenario × Program × Verdict) := do
  let p ← s.program.mapError fun
    | .malformed issues => .malformed issues
    | .unreadable fault => .unreadable fault
  let verdict ← (p.report settings.options).mapError fun
    | .malformed issues => .malformed issues
    | .unfinished status => .unfinished status
    | .unquotable => .unreadable .unwritable
  return (s, p, verdict)

/-- The verdict that was reached, in words. -/
def reached : Verdict → String
  | .sound .. => "sound"
  | .violation v => "violation " ++ v.rule.name

/-- The line of a scenario. -/
def scenarioLine (style : Report.Style) (s : Scenario) (r : Verdict) : String :=
  " " ++ (if s.expects r then style.green "✔" else style.red "✖") ++ "  " ++
    Report.padRight 40 (style.bold s.name) ++ " expected " ++ s.expectation ++ ", got " ++ reached r

/-- The text on scenarios that were run, if it can be written. -/
def scenarioText (style : Report.Style) (format : Format) (runs : List (Scenario × Verdict)) :
    Option String :=
  match format with
  | .json => Report.jsonList? (runs.map Prod.snd)
  | .sarif => some (Report.sarif (runs.map Prod.snd) Report.toolVersion)
  | _ => some <| Report.joinLines (runs.map (fun r => scenarioLine style r.1 r.2) ++
      ["", " " ++ Decimal.ofNat (runs.filter fun r => r.1.expects r.2).length ++ "/" ++
        Decimal.ofNat runs.length ++ " scenarios behaved as expected"])

/-- The scenarios with some names, all of them when none is given, or the first name that is not
    known. -/
def selected : List String → Except String (List Scenario)
  | [] => .ok Scenario.catalogue
  | names => names.mapM fun name => (Scenario.named? name).elim (.error name) .ok

/-- Runs scenarios of the catalogue. -/
def runScenarios (style : Report.Style) (settings : Settings) (names : List String) :
    Except Abort Answer :=
  match selected names with
  | .error name => .ok (refusal ("Unknown scenario: " ++ name))
  | .ok chosen => do
    let runs ← chosen.mapM (runScenario settings)
    let judged := runs.map fun (s, _, verdict) => (s, verdict)
    let text ← shown (scenarioText style settings.format judged)
    return ⟨if judged.all fun r => r.1.expects r.2 then 0 else 1, printed text,
      runs.flatMap fun (_, p, _) => p.narration settings.options⟩

/-- Writes a settings file with the defaults into a directory. -/
def writeDefaults [Document.Yaml.Library] (t : Tree) (directory : String) (force : Bool) :
    Except Abort (Answer × Tree) :=
  let path := Files.join directory (Files.settingsNames.head?.getD "")
  if t.holds path && !force then
    .ok (refusal (path ++ " already exists (use --force to overwrite)"), t)
  else do
    let t ← (t.makeDirectories directory).mapError .file
    let t ← (t.writeText path (Settings.write {})).mapError .file
    return (⟨0, printed (Json.object [("status", .text "created"), ("path", .text path)]).compact, []⟩,
      t)

/-- The settings that a task changes. -/
def Task.override (task : Task) (settings : Settings) : Settings :=
  match task with
  | .check _ format externalValue =>
    { settings with
      format := format.getD settings.format
      externalValue := externalValue.getD settings.externalValue }
  | .explain _ externalValue =>
    { settings with externalValue := externalValue.getD settings.externalValue }
  | .scenarios _ format => { settings with format := format.getD settings.format }
  | .init .. => settings

/-- Carries out a task. -/
def Task.run [Document.Yaml.Library] (style : Report.Style) (t : Tree) (settings : Settings) :
    Task → Except Abort (Answer × Tree)
  | .check file .. => (·, t) <$> checkFile style t settings file
  | .explain file _ => (·, t) <$> explainFile style t settings file
  | .scenarios names _ => (·, t) <$> runScenarios style settings names
  | .init directory force => writeDefaults t directory force

/-- The line that is logged about the settings. -/
def settingsLine (settings : Settings) : LogLine :=
  ⟨.main, "configuration: " ++ ((Json.object settings.toMembers).toValue.quoted?).getD ""⟩

/-- What a settings file leads to that is not reported as bad settings: a fault of a scalar that is
    none of its value. -/
def abortOf? : Files.SettingsFailure → Option Abort
  | .scalar fault => if fault.isOfValue then none else some (.unreadable fault)
  | _ => none

/-- The path of the settings file asked for, if it is not the nearest one. -/
def SettingsSource.path? : SettingsSource → Except Abort (Option String)
  | .nearest => .ok none
  | .file path => .ok (some path)
  | .pathless => .error .pathless

/-- Carries out a request. -/
def Request.run [Document.Yaml.Library] (style : Report.Style) (t : Tree) (r : Request) :
    Except Abort Outcome := do
  match t.settings (← r.config.path?) "." with
  | .error failure =>
    match abortOf? failure with
    | some abort => .error abort
    | none => .ok ⟨2, (refusal ("Bad configuration: " ++ failure.message)).out, "", t⟩
  | .ok settings => do
    let settings := r.task.override settings
    let (answer, files) ← r.task.run style t settings
    let log := if r.verbose || settings.logLevel = .debug then
      settingsLine settings :: answer.log else []
    return ⟨answer.exit, answer.out, String.join (log.map fun l => printed l.text), files⟩

/-- The paths that a request looks at besides those of settings files that it does not name. -/
def Request.paths (r : Request) : List String :=
  (match r.config with
    | .file path => [path]
    | .nearest | .pathless => []) ++
    match r.task with
    | .check file .. | .explain file _ => [file]
    | .scenarios .. => []
    | .init directory _ => [Files.join directory (Files.settingsNames.head?.getD "")]

/-- What is answered when there is nothing to carry out. -/
def Stop.outcome (t : Tree) : Stop → Outcome
  | .help verb => ⟨0, helpText verb, "", t⟩
  | .version => ⟨0, printed ("borrowstack " ++ Report.toolVersion), "", t⟩
  | .noCommand => ⟨2, helpText none, "", t⟩
  | .fault verb cause => ⟨2, "", complaint verb cause, t⟩

/-- Runs the program on arguments and a tree of files. -/
def run [Document.Yaml.Library] (style : Report.Style) (t : Tree) (arguments : List String) :
    Except Abort Outcome :=
  match Request.ofArguments arguments with
  | .ok request => request.run style t
  | .error stop => .ok (stop.outcome t)

end PointerTrace.CommandLine
