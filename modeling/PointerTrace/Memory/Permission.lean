/- What a frame of a borrow stack grants, how a new frame's permission follows from its parent's,
   and the two ways of accessing memory. -/
namespace PointerTrace

/-- What the holder of a frame may do: `unique` is the only live writer, `sharedReadWrite` may be
    written beside others, `sharedReadOnly` may only be read, and `disabled` was unique and lost
    that to a read through an ancestor. -/
inductive Permission where
  | unique
  | sharedReadWrite
  | sharedReadOnly
  | disabled
  deriving DecidableEq, Repr

/-- The name of a permission. -/
def Permission.name : Permission → String
  | .unique => "Unique"
  | .sharedReadWrite => "SharedReadWrite"
  | .sharedReadOnly => "SharedReadOnly"
  | .disabled => "Disabled"

/-- The two kinds of borrow. -/
inductive BorrowKind where
  | shared
  | unique
  deriving DecidableEq, Repr

/-- The name of a kind of borrow. -/
def BorrowKind.name : BorrowKind → String
  | .shared => "shared"
  | .unique => "unique"

/-- The two ways of accessing memory. -/
inductive Access where
  | read
  | write
  deriving DecidableEq, Repr

/-- The name of a way of accessing memory. -/
def Access.name : Access → String
  | .read => "read"
  | .write => "write"

/-- The permission of a frame derived from a frame with this permission. A unique borrow cannot win
    back what a read-only parent gave up; a shared one may be written only where the target is
    interior-mutable. -/
def Permission.derive (parent : Permission) (kind : BorrowKind) (interiorMutable : Bool) :
    Permission :=
  match kind, parent with
  | .unique, .sharedReadOnly => .sharedReadOnly
  | .unique, _ => .unique
  | .shared, _ => if interiorMutable then .sharedReadWrite else .sharedReadOnly

/-- The permission of the frame that a declaration pushes. -/
def Permission.ofRoot (interiorMutable : Bool) : Permission :=
  if interiorMutable then .sharedReadWrite else .unique

end PointerTrace
