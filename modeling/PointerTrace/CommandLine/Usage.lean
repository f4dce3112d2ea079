import PointerTrace.CommandLine.Request
import PointerTrace.Text.Quoted

/- Texts on how the program is used, and what is said when it is used wrongly. -/
namespace PointerTrace.CommandLine

/-- The arguments of a command in short. -/
def Verb.arguments : Verb → String
  | .check => "[-h] [--format \x7bpretty,text,json,markdown,sarif\x7d] [--external-value N] file"
  | .explain => "[-h] [--external-value N] file"
  | .scenarios => "[-h] [--name NAME [NAME ...]] [--format \x7bpretty,json,sarif\x7d]"
  | .init => "[-h] [--force] [directory]"

/-- What a command does. -/
def Verb.purpose : Verb → String
  | .check => "Check a trace file (trace text, or .yml/.yaml/.json records)"
  | .explain => "Show the borrow stacks after every instruction"
  | .scenarios => "Run the built-in scenario catalogue"
  | .init => "Create a .borrowstackrc.yml with default settings"

/-- How the program, or one of its commands, is called. -/
def synopsis : Option Verb → String
  | some verb => "usage: borrowstack " ++ verb.name ++ " " ++ verb.arguments ++ "\n"
  | none => "usage: borrowstack [-h] [--version] [-v] [--config FILE] command ...\n"

/-- The help on the program or on one of its commands. -/
def helpText : Option Verb → String
  | some verb => synopsis (some verb) ++ "\n" ++ verb.purpose ++ "\n"
  | none => synopsis none ++ "\nborrow-stack aliasing checker for pointer traces\n\ncommands:\n" ++
      String.join (Verb.all.map fun verb => "  " ++ verb.name ++ ": " ++ verb.purpose ++ "\n")

/-- The wording of a fault of the arguments. -/
def UsageFault.message : UsageFault → String
  | .argument (.ambiguous given) => "ambiguous option: " ++ given
  | .argument (.valueMissing given) => "argument " ++ given ++ ": expected a value"
  | .argument (.valueUnwanted given) => "argument " ++ given ++ ": takes no value"
  | .unknownCommand name => "unknown command: " ++ Text.quoted name
  | .unknownFormat given => "argument --format: invalid choice: " ++ Text.quoted given
  | .notInteger given => "argument --external-value: invalid integer: " ++ Text.quoted given
  | .fileMissing => "the following arguments are required: file"
  | .unrecognized extras => "unrecognized arguments: " ++ " ".intercalate extras

/-- What is said when arguments are at fault. -/
def complaint (verb : Option Verb) (fault : UsageFault) : String :=
  synopsis verb ++ "borrowstack: error: " ++ fault.message ++ "\n"

end PointerTrace.CommandLine
