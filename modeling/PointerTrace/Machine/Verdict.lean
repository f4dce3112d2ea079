import PointerTrace.Document.Json
import PointerTrace.Machine.Basic

/- The verdict on a run that has halted: the program is sound, with the final values and what was
   read, or it holds undefined behaviour, with the fault. There is no third verdict; but a verdict that
   quotes a number of too many digits cannot be stated (`Verdict.isQuotable`). -/
namespace PointerTrace

/-- Undefined behaviour in a program. -/
structure Violation where
  program : String
  fault : Fault
  deriving DecidableEq, Repr

namespace Violation

/-- The index of the operation at fault. -/
def index (v : Violation) : Nat := v.fault.index

/-- The allocation that was accessed. -/
def allocation (v : Violation) : String := v.fault.access.allocation

/-- The rule that is broken. -/
def rule (v : Violation) : Rule := v.fault.access.rule

/-- What is wrong. -/
def message (v : Violation) : String := v.fault.access.message

/-- The label of the tag that was used. -/
def tag (v : Violation) : String := tagLabel v.fault.access.tag

/-- The operation as a statement. -/
def operation (v : Violation) : String := v.fault.operation.text

/-- The borrow stack at the fault. -/
def stack (v : Violation) : List String := v.fault.access.stack

/-- The place of the operation. -/
def location (v : Violation) : Option Location := v.fault.operation.location

end Violation

/-- The outcome of checking a program. -/
inductive Verdict where
  | sound (program : String) (steps : Nat) (finalValues : List (String × Int))
      (reads : List Observation)
  | violation (v : Violation)
  deriving DecidableEq, Repr

namespace Verdict

/-- Whether no rule was broken. -/
def isSound : Verdict → Bool
  | .sound .. => true
  | .violation _ => false

/-- The name of the program. -/
def program : Verdict → String
  | .sound program .. => program
  | .violation v => v.program

/-- Whether the verdict can be stated: a violation quotes its operation, whose number must be short
    enough to be written. -/
def isQuotable : Verdict → Bool
  | .sound .. => true
  | .violation v => v.fault.operation.action.isWritable

/-- The verdict in one line. -/
def summary : Verdict → String
  | .sound _ steps _ _ =>
    "✅ SOUND: " ++ Decimal.ofNat steps ++ " operation(s), no aliasing violations"
  | .violation v => "❌ UNDEFINED BEHAVIOR: " ++ v.rule.name ++ " on '" ++ v.allocation ++
      "' at instruction " ++ Decimal.ofNat v.index

end Verdict

/-- A read as a document. -/
def Observation.toJson (o : Observation) : Json :=
  .object [("instruction_index", .ofNat o.index), ("source", .text o.source),
    ("allocation", .text o.allocation), ("value", .int o.value)]

/-- Undefined behaviour as a document. -/
def Violation.toJson (v : Violation) : Json :=
  .object ([("program", .text v.program), ("verified", .bool false), ("result", .text "violation"),
    ("instruction_index", .ofNat v.index), ("allocation_name", .text v.allocation),
    ("rule", .text v.rule.name), ("message", .text v.message), ("tag", .text v.tag),
    ("operation", .text v.operation), ("borrow_stack", .texts v.stack)] ++
    (v.location.map fun l => ("location", l.toJson)).toList)

/-- A verdict as a document. -/
def Verdict.toJson : Verdict → Json
  | .sound program steps finalValues reads =>
    .object [("program", .text program), ("verified", .bool true), ("result", .text "sound"),
      ("steps", .ofNat steps), ("final_values", .object (finalValues.map fun p => (p.1, .int p.2))),
      ("reads", .array (reads.map Observation.toJson))]
  | .violation v => v.toJson

/-- The verdict on a machine, or its status when it still runs. The operation at fault is not quoted
    yet. -/
def Machine.verdict (m : Machine) : Except Status Verdict :=
  match m.status, m.fault with
  | .haltedOk, _ => .ok (.sound m.program.name m.pc m.store.values m.reads)
  | .haltedUb, some fault => .ok (.violation ⟨m.program.name, fault⟩)
  | status, _ => .error status

end PointerTrace
