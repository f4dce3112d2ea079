import PointerTrace.CommandLine.Argument
import PointerTrace.Settings

/- Requests: what the arguments of the program ask for. Options of the program itself stand before
   the name of a command, those of the command after it. Options are taken from left to right: a
   request for help or for the version is answered at once, and so is the first argument at fault.
   Arguments that are left over are refused last. -/
namespace PointerTrace.CommandLine

/-- The names of the commands. -/
inductive Verb where
  | check
  | explain
  | scenarios
  | init
  deriving DecidableEq, Repr

/-- The written name of a command. -/
def Verb.name : Verb → String
  | .check => "check"
  | .explain => "explain"
  | .scenarios => "scenarios"
  | .init => "init"

/-- All commands. -/
def Verb.all : List Verb := [.check, .explain, .scenarios, .init]

/-- The command with a name. -/
def Verb.ofName? (name : String) : Option Verb := Verb.all.find? (·.name = name)

/-- The options that are known everywhere. -/
def helpNames : Names := [("-h", .help), ("--help", .help)]

/-- The options of the program itself. -/
def programNames : Names := helpNames ++
  [("--version", .version), ("-v", .verbose), ("--verbose", .verbose), ("--config", .config)]

/-- The options of a command. -/
def Verb.names : Verb → Names
  | .check => helpNames ++ [("--format", .format), ("--external-value", .externalValue)]
  | .explain => helpNames ++ [("--external-value", .externalValue)]
  | .scenarios => helpNames ++ [("--name", .names), ("--format", .format)]
  | .init => helpNames ++ [("--force", .force)]

/-- The operands of a command. -/
def Verb.operands : Verb → Operands
  | .check | .explain | .init => .one
  | .scenarios => .none

/-- The formats that a command offers. -/
def Verb.formats : Verb → List Format
  | .check => Format.all
  | .scenarios => [.pretty, .json, .sarif]
  | .explain | .init => []

/-- What a command is to do. -/
inductive Task where
  | check (file : String) (format : Option Format) (externalValue : Option Int)
  | explain (file : String) (externalValue : Option Int)
  | scenarios (names : List String) (format : Option Format)
  | init (directory : String) (force : Bool)
  deriving DecidableEq, Repr

/-- The settings file asked for: the nearest one, the one at a path, or one whose path was left out. -/
inductive SettingsSource where
  | nearest
  | file (path : String)
  | pathless
  deriving DecidableEq, Repr

/-- A task, whether it is to be narrated, and the settings file asked for. -/
structure Request where
  verbose : Bool
  config : SettingsSource
  task : Task
  deriving DecidableEq, Repr

/-- Why arguments are no request. -/
inductive UsageFault where
  | argument (fault : ArgumentFault)
  | unknownCommand (name : String)
  | unknownFormat (given : String)
  | notInteger (given : String)
  | fileMissing
  | unrecognized (arguments : List String)
  deriving DecidableEq, Repr

/-- Why there is nothing to carry out: help or the version is asked for, no command is named, or
    the arguments are at fault. -/
inductive Stop where
  | help (verb : Option Verb)
  | version
  | noCommand
  | fault (verb : Option Verb) (fault : UsageFault)
  deriving DecidableEq, Repr

/-- What the items of a command add up to. -/
structure Given where
  verbose : Bool := false
  config : SettingsSource := .nearest
  format : Option Format := none
  externalValue : Option Int := none
  names : List String := []
  force : Bool := false
  operand : Option String := none
  command : List String := []
  extras : List String := []
  deriving DecidableEq, Repr

namespace Given

/-- The format that a command offers under a name. -/
def readFormat (verb : Option Verb) (name : String) : Except Stop Format :=
  (((verb.map Verb.formats).getD []).find? (·.name = name)).elim
    (.error (.fault verb (.unknownFormat name))) .ok

/-- The number that a text gives. -/
def readNumber (verb : Option Verb) (text : String) : Except Stop Int :=
  (Decimal.readInt 10 text.toList).mapError fun _ => .fault verb (.notInteger text)

/-- Takes one option with its values; of the options with a value the last one counts, also when its
    value was left out. -/
def addOption (verb : Option Verb) (g : Given) (flag : Flag) (values : List String) :
    Except Stop Given :=
  match flag with
  | .help => .error (.help verb)
  | .version => .error .version
  | .verbose => .ok { g with verbose := true }
  | .config => .ok { g with config := values.head?.elim .pathless .file }
  | .format => do return { g with format := ← values.head?.mapM (readFormat verb) }
  | .externalValue => do return { g with externalValue := ← values.head?.mapM (readNumber verb) }
  | .names => .ok { g with names := values }
  | .force => .ok { g with force := true }

/-- Takes one item. -/
def add (verb : Option Verb) (g : Given) : Item → Except Stop Given
  | .option flag values => g.addOption verb flag values
  | .operand text => .ok { g with operand := some text }
  | .command texts => .ok { g with command := texts }
  | .extra text => .ok { g with extras := g.extras ++ [text] }
  | .fault fault => .error (.fault verb (.argument fault))

/-- Takes items in order. -/
def ofItems (verb : Option Verb) (l : List Item) : Except Stop Given := l.foldlM (add verb) {}

/-- The task of a command. -/
def task (g : Given) (verb : Verb) : Except Stop Task :=
  match verb, g.operand with
  | .check, some file => .ok (.check file g.format g.externalValue)
  | .explain, some file => .ok (.explain file g.externalValue)
  | .scenarios, _ => .ok (.scenarios g.names g.format)
  | .init, directory => .ok (.init (directory.getD ".") g.force)
  | .check, none | .explain, none => .error (.fault (some verb) .fileMissing)

/-- Refuses arguments that are left over. -/
def allUsed (extras : List String) : Except Stop Unit :=
  if extras.isEmpty then .ok () else .error (.fault none (.unrecognized extras))

end Given

/-- The request that arguments make. -/
def Request.ofArguments (arguments : List String) : Except Stop Request := do
  let program ← Given.ofItems none (items programNames .rest arguments)
  match program.command with
  | [] =>
    Given.allUsed program.extras
    throw .noCommand
  | name :: arguments =>
    match Verb.ofName? name with
    | none => throw (.fault none (.unknownCommand name))
    | some verb =>
      let given ← Given.ofItems (some verb) (items verb.names verb.operands arguments)
      let task ← given.task verb
      Given.allUsed (program.extras ++ given.extras)
      return ⟨program.verbose, program.config, task⟩

end PointerTrace.CommandLine
