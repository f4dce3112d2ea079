import PointerTrace.Report.Sarif
import PointerTrace.Report.Style
import PointerTrace.Settings
import PointerTrace.Text.Blank

/- A verdict as text: for a terminal, as one line, as a table, as a JSON document or in the
   interchange format. There is no text where a number in it has too many digits to be written
   (`written?`, `jsonList?`). -/
namespace PointerTrace.Report

/-- Advice on how to avoid breaking a rule. -/
def hint : Rule → String
  | .untaggedAccess => "the pointer went through an integer cast, which erased its " ++
      "provenance; keep it a pointer instead of round-tripping through usize"
  | .tagNotFound => "an access through another pointer invalidated this one; use it " ++
      "before the conflicting access or re-derive it afterwards"
  | .disabled => "another unique borrow of the same location is still live; only one " ++
      "mutable path may be used at a time"
  | .readOnlyViolation => "the pointer was derived from a shared reference; derive it " ++
      "from a mutable reference or wrap the value in a Cell"

/-- A name with its value. -/
def assignment (p : String × Int) : String := p.1 ++ " = " ++ Decimal.ofInt p.2

/-- A sound program for a terminal. -/
def prettySound (s : Style) (title : String) (finalValues : List (String × Int))
    (reads : List Observation) : String :=
  joinLines (
    ["\n " ++ s.green "✔" ++ "  " ++ s.bold title] ++
    reads.map (fun r => "   " ++ s.dim ("[" ++ Decimal.ofNat r.index ++ "]") ++ " read " ++
      r.source ++ " -> " ++ Decimal.ofInt r.value) ++
    (if finalValues.isEmpty then [] else
      ["   " ++ s.dim "final:" ++ " " ++ ", ".intercalate (finalValues.map assignment)]) ++
    ["\n   " ++ s.green "No aliasing violations." ++ "\n"])

/-- The place of a violation, or the index of its operation. -/
def placeLabel (v : Violation) : String :=
  match v.location with
  | some l => "L" ++ Decimal.ofNat l.line ++ ":" ++ Decimal.ofNat l.column ++ "  "
  | none => "#" ++ Decimal.ofNat v.index ++ "  "

/-- A violation for a terminal, with the line of text that it is in when that is known. -/
def prettyViolation (s : Style) (title : String) (line : Option String) (v : Violation) : String :=
  joinLines (
    ["\n " ++ s.red "✖" ++ "  " ++ s.bold title,
      "   " ++ s.red "✖" ++ "  " ++ s.dim (placeLabel v) ++ s.red v.rule.name ++ ": " ++ v.message,
      "      " ++ s.dim "│" ++ " " ++ (line.map Text.trim).getD v.operation] ++
    (if v.stack.isEmpty then [] else
      ["      " ++ s.dim "stack:" ++ " " ++ s.cyan (" ".intercalate v.stack)]) ++
    ["      " ++ s.yellow "⚡" ++ "  " ++ s.dim "Fix:" ++ " " ++ hint v.rule,
      "\n   " ++ s.red ("undefined behavior at instruction " ++ Decimal.ofNat v.index) ++ "\n"])

/-- A verdict for a terminal. The program gives the title and the line of text at fault. -/
def pretty (s : Style) (program : Option Program) (r : Verdict) : String :=
  let title := (program.map Program.name).getD r.program
  match r with
  | .sound _ _ finalValues reads => prettySound s title finalValues reads
  | .violation v => prettyViolation s title (program.bind (·.lineOf v.index)) v

/-- A verdict in one line. -/
def oneLine : Verdict → String
  | .sound program steps _ _ => program ++ ": sound (" ++ Decimal.ofNat steps ++ " operations)"
  | .violation v => v.program ++ ": violation " ++ v.rule.name ++ " on '" ++ v.allocation ++
      "' at instruction " ++ Decimal.ofNat v.index ++ ": " ++ v.message

/-- A text in code marks. -/
def code (s : String) : String := "\x60" ++ s ++ "\x60"

/-- A cell of a table; the bars in it are escaped. -/
def escapeBars (s : String) : String :=
  String.ofList (s.toList.flatMap fun c => if c = '|' then ['\\', '|'] else [c])

/-- A verdict as a table. -/
def markdown : Verdict → String
  | .sound program _ finalValues _ => joinLines (
      ["## borrowstack: ✅ SOUND — " ++ code program, "", "| Allocation | Final value |",
        "|------------|-------------|"] ++
      finalValues.map fun p => "| " ++ code p.1 ++ " | " ++ Decimal.ofInt p.2 ++ " |")
  | .violation v => joinLines (
      ["## borrowstack: ❌ VIOLATION — " ++ code v.program, "",
        "| Instruction | Allocation | Rule | Message |",
        "|-------------|------------|------|---------|",
        "| " ++ Decimal.ofNat v.index ++ " | " ++ code v.allocation ++ " | " ++ v.rule.name ++
          " | " ++ escapeBars v.message ++ " |"] ++
      if v.stack.isEmpty then [] else
        ["", "> Borrow stack at the fault: " ++ code (" ".intercalate v.stack)])

/-- A verdict in a format. -/
def verdict (s : Style) (format : Format) (program : Option Program) (r : Verdict) : String :=
  match format with
  | .pretty => pretty s program r
  | .text => oneLine r
  | .json => r.toJson.indented
  | .markdown => markdown r
  | .sarif => sarif [r] toolVersion

/-- The numbers of memory that a verdict shows in a format. -/
def numbersShown (format : Format) : Verdict → List Int
  | .violation _ => []
  | .sound _ _ finalValues reads =>
    match format with
    | .pretty | .json => finalValues.map Prod.snd ++ reads.map Observation.value
    | .markdown => finalValues.map Prod.snd
    | .text | .sarif => []

/-- Whether a verdict can be written in a format: no number in it is too long. -/
def canWrite (format : Format) (r : Verdict) : Bool :=
  r.isQuotable && (numbersShown format r).all Decimal.isWritable

/-- A verdict in a format, if it can be written. -/
def written? (s : Style) (format : Format) (program : Option Program) (r : Verdict) : Option String :=
  if canWrite format r then some (verdict s format program r) else none

/-- Verdicts as a JSON list. -/
def jsonList (l : List Verdict) : String := (Json.array (l.map Verdict.toJson)).indented

/-- Verdicts as a JSON list, if all of them can be written. -/
def jsonList? (l : List Verdict) : Option String :=
  if l.all (canWrite .json) then some (jsonList l) else none

end PointerTrace.Report
