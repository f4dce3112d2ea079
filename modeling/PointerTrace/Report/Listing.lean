import PointerTrace.Report.Verdict

/- The listing of a recorded run: every operation with the borrow stacks after it, then the
   verdict. -/
namespace PointerTrace.Report

/-- The line of an operation. -/
def operationLine (s : Style) (index : Nat) (operation : String) : String :=
  s.dim (padLeft 4 (Decimal.ofNat index) ++ " │") ++ " " ++ operation

/-- The line of one allocation after an operation. -/
def stackLine (s : Style) (name : String) (value : Int) (stack : List String) : String :=
  "     " ++ s.dim "│" ++ "   " ++ assignment (name, value) ++ "  " ++ s.cyan (" ".intercalate stack)

/-- The lines of an operation and the allocations after it. -/
def entryLines (s : Style) (e : TrailEntry) : List String :=
  operationLine s e.index e.operation.text ::
    e.borrowStacks.map fun p => stackLine s p.1 ((e.values.lookup p.1).getD 0) p.2

/-- The lines of a verdict. -/
def verdictLines (s : Style) : Verdict → List String
  | .sound .. => ["", s.green "✔ sound"]
  | .violation v => [operationLine s v.index v.operation,
      "     " ++ s.dim "│" ++ "   " ++ s.red ("✖ " ++ v.rule.name) ++ ": " ++ v.message]

/-- Whether an operation and the allocations after it can be written. -/
def canWriteEntry (e : TrailEntry) : Bool :=
  e.operation.action.isWritable && e.values.all fun p => Decimal.isWritable p.2

/-- Whether the listing of a run can be written: no number in it is too long. -/
def canList (m : Machine) (r : Verdict) : Bool := r.isQuotable && m.trail.all canWriteEntry

/-- The listing of a run. -/
def listing (s : Style) (m : Machine) (r : Verdict) : String :=
  joinLines ([s.bold ("Trace " ++ m.program.name), ""] ++ m.trail.flatMap (entryLines s) ++
    verdictLines s r)

/-- The listing of a run, if it can be written. -/
def listing? (s : Style) (m : Machine) (r : Verdict) : Option String :=
  if canList m r then some (listing s m r) else none

end PointerTrace.Report
