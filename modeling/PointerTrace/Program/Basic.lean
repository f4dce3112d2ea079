import PointerTrace.Program.Operation
import PointerTrace.Text.Lines

/- Programs: operations in order, a name, the text they were read from if any, and the number of
   temporary names handed out. A temporary is `%` and a number; no name of the trace language
   starts with `%`. -/
namespace PointerTrace

/-- A trace to be checked. -/
structure Program where
  operations : List Operation
  name : String
  source : Option String
  temporaries : Nat
  deriving DecidableEq, Repr

namespace Program

/-- A program without operations. -/
def empty (name : String) : Program := ⟨[], name, none, 0⟩

/-- The number of operations. -/
def length (p : Program) : Nat := p.operations.length

/-- What the operations do, without their places. -/
def actions (p : Program) : List Action := p.operations.map Operation.action

/-- The temporary with a number. -/
def temporary (n : Nat) : String := "%" ++ Decimal.ofNat n

/-- Hands out the next temporary. -/
def fresh (p : Program) : String × Program :=
  (temporary (p.temporaries + 1), { p with temporaries := p.temporaries + 1 })

/-- Appends an operation without place. -/
def add (p : Program) (a : Action) : Program :=
  { p with operations := p.operations ++ [⟨a, none⟩] }

/-- The given name, or the next temporary when none or an empty one is given. -/
def resultName (p : Program) (given : Option String) : String × Program :=
  match nonempty given with
  | some name => (name, p)
  | none => p.fresh

/-- Appends a declaration. -/
def declare (p : Program) (name : String) (value : Int) (isMutable interiorMutable : Bool) :
    Program := p.add (.declare name value isMutable interiorMutable)

/-- Appends a borrow of a variable and returns the name of the new pointer. -/
def borrow (p : Program) (target : String) (kind : BorrowKind) (result : Option String) :
    String × Program :=
  let (name, p) := p.resultName result
  (name, p.add (.borrow target kind name))

/-- Appends a reborrow of a pointer and returns the name of the new pointer. -/
def reborrow (p : Program) (source : String) (kind : BorrowKind) (result : Option String) :
    String × Program :=
  let (name, p) := p.resultName result
  (name, p.add (.reborrow source kind name))

/-- Appends a cast to an integer and returns the name of the result. -/
def toInteger (p : Program) (source : String) (result : Option String) : String × Program :=
  let (name, p) := p.resultName result
  (name, p.add (.toInteger source name))

/-- Appends an operation and returns its index. -/
def addIndexed (p : Program) (a : Action) : Nat × Program := (p.length, p.add a)

/-- Appends a read and returns its index. -/
def read (p : Program) (source : String) (binding : Option String) : Nat × Program :=
  p.addIndexed (.read source binding)

/-- Appends a write and returns its index. -/
def write (p : Program) (source : String) (value : Int) : Nat × Program :=
  p.addIndexed (.write source value)

/-- Appends an external call and returns its index. -/
def call (p : Program) (source function : String) : Nat × Program :=
  p.addIndexed (.call source function)

/-- The displayed line of the text that the operation at an index came from. -/
def lineOf (p : Program) (index : Int) : Option String := do
  let source ← p.source
  let op ← if 0 ≤ index then p.operations[index.toNat]? else none
  let place ← op.location
  if 1 ≤ place.line then (Text.lines source)[place.line - 1]? else none

end Program

end PointerTrace
