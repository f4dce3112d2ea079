import PointerTrace.Machine.Verdict

/- Verdicts in the static-analysis interchange format: one run, with one result for each violation in
   the order of the verdicts, and the rules that were broken, each once, in the order of their first
   violation. -/
namespace PointerTrace.Report

/-- The version of the tool. -/
def toolVersion : String := "0.1.0"

/-- The identifier of a rule. -/
def ruleId : Rule → String
  | .untaggedAccess => "BS001"
  | .tagNotFound => "BS002"
  | .disabled => "BS003"
  | .readOnlyViolation => "BS004"

/-- The title of a rule. -/
def ruleTitle : Rule → String
  | .untaggedAccess => "Access Through Untagged Pointer"
  | .tagNotFound => "Access Through Invalidated Borrow"
  | .disabled => "Conflicting Unique Borrow"
  | .readOnlyViolation => "Write Through Shared Read-Only Borrow"

/-- A rule as listed by the tool. -/
def ruleObject (r : Rule) : Json :=
  .object [("id", .text (ruleId r)), ("name", .text r.name),
    ("shortDescription", .object [("text", .text (ruleTitle r))]),
    ("defaultConfiguration", .object [("level", .text "error")])]

/-- The address of the text that a violation is in: its file, or the program's name, with forward
    slashes. -/
def address (v : Violation) : String :=
  let file := (v.location.map Location.file).getD v.program
  String.ofList (file.toList.map fun c => if c = '\\' then '/' else c)

/-- The place of a violation in its text, the first one when it is not known. -/
def region (v : Violation) : Json :=
  let (line, column) := match v.location with
    | some l => (max 1 l.line, max 1 l.column)
    | none => (1, 1)
  .object [("startLine", .ofNat line), ("startColumn", .ofNat column)]

/-- A violation as a result. -/
def resultObject (v : Violation) : Json :=
  .object [("ruleId", .text (ruleId v.rule)), ("level", .text "error"),
    ("message", .object [("text", .text v.message)]),
    ("locations", .array [.object [("physicalLocation", .object [
      ("artifactLocation", .object [("uri", .text (address v))]), ("region", region v)])]]),
    ("properties", .object [("instructionIndex", .ofNat v.index), ("allocation", .text v.allocation),
      ("tag", .text v.tag), ("borrowStack", .texts v.stack)])]

/-- The violation of a verdict, if any. -/
def violation? : Verdict → Option Violation
  | .violation v => some v
  | .sound .. => none

/-- The violations among verdicts, in order. -/
def violations (l : List Verdict) : List Violation := l.filterMap violation?

/-- The rules that are broken, each once, in the order of their first violation. -/
def brokenRules (l : List Verdict) : List Rule := ((violations l).map Violation.rule).eraseDups

/-- Verdicts as one interchange document. -/
def sarifDocument (l : List Verdict) (version : String) : Json :=
  let results := (violations l).map resultObject
  .object [
    ("$schema", .text ("https://raw.githubusercontent.com/oasis-tcs/sarif-spec/main/sarif-2.1/" ++
      "schema/sarif-schema-2.1.0.json")),
    ("version", .text "2.1.0"),
    ("runs", .array [.object [
      ("tool", .object [("driver", .object [("name", .text "borrowstack"),
        ("version", .text version), ("rules", .array ((brokenRules l).map ruleObject))])]),
      ("results", .array results),
      ("invocations", .array [.object [("executionSuccessful", .bool true),
        ("properties", .object [("tracesChecked", .ofNat l.length),
          ("violations", .ofNat results.length)])]])]])]

/-- Verdicts in the interchange format. -/
def sarif (l : List Verdict) (version : String) : String := (sarifDocument l version).indented

end PointerTrace.Report
