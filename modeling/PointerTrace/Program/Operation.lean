import PointerTrace.Decimal.Integer
import PointerTrace.Memory.Permission

/- The operations of a trace. Each pointer-producing operation names its result, and later ones
   refer to a pointer by that name; the bare name of an allocation stands for the variable itself.
   The written form of an operation is a statement of the trace language. -/
namespace PointerTrace

/-- A place in a trace text; lines and columns count from one. -/
structure Location where
  line : Nat
  column : Nat
  file : String
  deriving DecidableEq, Repr

/-- A place as file, line and column. -/
def Location.text (l : Location) : String :=
  l.file ++ ":" ++ Decimal.ofNat l.line ++ ":" ++ Decimal.ofNat l.column

/-- What an operation does. -/
inductive Action where
  | declare (name : String) (value : Int) (isMutable interiorMutable : Bool)
  | borrow (target : String) (kind : BorrowKind) (result : String)
  | reborrow (source : String) (kind : BorrowKind) (result : String)
  | toInteger (source result : String)
  | read (source : String) (binding : Option String)
  | write (source : String) (value : Int)
  | call (source function : String)
  deriving DecidableEq, Repr

/-- An operation, with the place of its statement when it was read from a text. -/
structure Operation where
  action : Action
  location : Option Location
  deriving DecidableEq, Repr

/-- Leaves out an empty name. -/
def nonempty (name : Option String) : Option String := name.filter (· ≠ "")

namespace Action

/-- The pointer that an operation uses, if any. -/
def operand? : Action → Option String
  | .declare .. | .borrow .. => none
  | .reborrow source .. | .toInteger source _ | .read source _ | .write source _
  | .call source _ => some source

/-- The name that an operation binds, if any. -/
def result? : Action → Option String
  | .declare name .. => some name
  | .borrow _ _ result | .reborrow _ _ result | .toInteger _ result => some result
  | .read .. | .write .. | .call .. => none

/-- The mark of a borrow expression. -/
def borrowMark : BorrowKind → String
  | .shared => "&"
  | .unique => "&mut "

/-- The target of a pointer cast. -/
def castMark : BorrowKind → String
  | .shared => "*const"
  | .unique => "*mut"

/-- An operation as a statement. -/
def text : Action → String
  | .declare name value isMutable interiorMutable =>
    "let " ++ (if isMutable then "mut " else "") ++ name ++
      (if interiorMutable then ": Cell" else "") ++ " = " ++ Decimal.ofInt value
  | .borrow target kind result => "let " ++ result ++ " = " ++ borrowMark kind ++ target
  | .reborrow source kind result => "let " ++ result ++ " = " ++ source ++ " as " ++ castMark kind
  | .toInteger source result => "let " ++ result ++ " = " ++ source ++ " as usize"
  | .read source binding =>
    match nonempty binding with
    | some name => "let " ++ name ++ " = *" ++ source
    | none => "*" ++ source
  | .write source value => "*" ++ source ++ " = " ++ Decimal.ofInt value
  | .call source function => function ++ "(" ++ source ++ ")"

/-- Whether the number in an operation, if any, is short enough to be written. -/
def isWritable : Action → Bool
  | .declare _ value _ _ | .write _ value => Decimal.isWritable value
  | _ => true

end Action

/-- An operation as a statement. -/
def Operation.text (op : Operation) : String := op.action.text

end PointerTrace
