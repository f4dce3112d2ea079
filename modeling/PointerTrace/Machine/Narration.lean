import PointerTrace.Machine.Check

/- The narration of a run: what is logged, line by line, while a program is run. Each operation is
   announced; then follow the frames that it pushes, pops or disables, or the fault; the end of the
   run is announced too. -/
namespace PointerTrace

/-- Who logs a line. -/
inductive Logger where
  | main
  | interpreter
  | memory
  | permissions
  deriving DecidableEq, Repr

/-- The name of a logger. -/
def Logger.name : Logger → String
  | .main => "borrowstack"
  | .interpreter => "borrowstack.interpreter"
  | .memory => "borrowstack.memory"
  | .permissions => "borrowstack.permissions"

/-- A logged line; everything that is logged is meant for debugging. -/
structure LogLine where
  logger : Logger
  message : String
  deriving DecidableEq, Repr

/-- A logged line as written: its level, its logger and its message. -/
def LogLine.text (l : LogLine) : String := "DEBUG " ++ l.logger.name ++ ": " ++ l.message

namespace Machine

/-- The line for a pushed frame. -/
def pushLine (f : Frame) (allocation : String) : LogLine :=
  ⟨.memory, "push " ++ f.text ++ " onto '" ++ allocation ++ "' (parent " ++
    tagLabel f.parent ++ ")"⟩

/-- The lines for what a grant pops and disables. -/
def grantLines (g : Grant) (allocation : String) : List LogLine :=
  let tags := fun (l : List Tag) => ", ".intercalate (l.map Tag.text)
  (if g.popped.isEmpty then [] else
    [⟨.permissions, "popped " ++ tags g.popped ++ " from '" ++ allocation ++ "'"⟩]) ++
  (if g.disabled.isEmpty then [] else
    [⟨.permissions, "disabled " ++ tags g.disabled ++ " on '" ++ allocation ++ "'"⟩])

/-- The name of the allocation at a place. -/
def allocationName (m : Machine) (id : AllocationId) : String :=
  ((m.store.get? id).map Allocation.name).getD ""

/-- The lines for the effect of an operation. -/
def effectLines (m : Machine) : Effect → List LogLine
  | .declare name _ _ interiorMutable =>
    [pushLine ⟨⟨m.store.nextTag⟩, .ofRoot interiorMutable, none⟩ name]
  | .derive target parent permission _ =>
    [pushLine ⟨⟨m.store.nextTag⟩, permission, some parent⟩ (m.allocationName target)]
  | .bind .. => []
  | .read target grant _ | .write target grant _ => grantLines grant (m.allocationName target)
  | .refuse fault => [⟨.interpreter, "[" ++ Decimal.ofNat m.pc ++ "] " ++ fault.rule.name ++ ": " ++
      fault.message⟩]

/-- The lines for one operation. -/
def operationLines (m : Machine) (op : Operation) : List LogLine :=
  ⟨.interpreter, "[" ++ Decimal.ofNat m.pc ++ "] " ++ op.text⟩ ::
    match m.effect op.action with
    | .ok effect => m.effectLines effect
    | .error _ => []

/-- The line for the end of a run. -/
def endLine (m : Machine) : LogLine :=
  ⟨.interpreter, "'" ++ m.program.name ++ "' halted: " ++ m.status.name ++ " after " ++
    Decimal.ofNat m.pc ++ " step(s)"⟩

/-- The lines for running operations to the end. -/
def linesThrough (m : Machine) : List Operation → List LogLine
  | [] => [{ m with status := .haltedOk }.endLine]
  | op :: rest => m.operationLines op ++
    match m.execute op with
    | .ok after => if after.status = .running then after.linesThrough rest else [after.endLine]
    | .error _ => []

end Machine

/-- The lines that are logged while a program is run; none when it is malformed. -/
def Program.narration (p : Program) (o : CheckOptions) : List LogLine :=
  match Machine.load p o.externalValue o.checkBindings false with
  | .ok m => m.linesThrough p.operations
  | .error _ => []

end PointerTrace
