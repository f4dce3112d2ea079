import PointerTrace.Decimal.Integer
import PointerTrace.Memory.Permission

/- One allocation: its value, its borrow stack and its lineage. The stack is listed from the bottom,
   where the frame of the declaration stands, to the top. The lineage keeps the parent of every tag
   that was ever pushed, also after its frame is gone, so that derivation can be decided at any
   later time; the walk along it is bounded by the number of its entries. -/
namespace PointerTrace

/-- The serial number that identifies a frame. -/
structure Tag where
  serial : Int
  deriving DecidableEq, Repr

/-- A tag in angle brackets. -/
def Tag.text (t : Tag) : String := "<" ++ Decimal.ofInt t.serial ++ ">"

/-- The label of a pointer's tag, which is absent once provenance is erased. -/
def tagLabel : Option Tag → String
  | some t => t.text
  | none => "<untagged>"

/-- Whether the label of a pointer's tag can be written. -/
def canLabel (t : Option Tag) : Bool := t.all fun t => Decimal.isWritable t.serial

/-- A frame of a borrow stack. -/
structure Frame where
  tag : Tag
  permission : Permission
  parent : Option Tag
  deriving DecidableEq, Repr

/-- A frame as its permission and tag. -/
def Frame.text (f : Frame) : String := f.permission.name ++ f.tag.text

/-- The place of an allocation in its store. -/
abbrev AllocationId := Int

/-- A pointer value. Its tag is absent once its provenance is erased. -/
structure Pointer where
  target : AllocationId
  tag : Option Tag
  deriving DecidableEq, Repr

/-- A pointer as its target and tag. -/
def Pointer.text (p : Pointer) : String := "&alloc" ++ Decimal.ofInt p.target ++ tagLabel p.tag

/-- A named piece of memory. -/
structure Allocation where
  id : AllocationId
  name : String
  value : Int
  isMutable : Bool
  interiorMutable : Bool
  stack : List Frame
  lineage : List (Tag × Option Tag)
  deriving DecidableEq, Repr

/-- The depth of the topmost frame with a tag. -/
def depthOf : List Frame → Tag → Option Nat
  | [], _ => none
  | f :: above, t =>
    match depthOf above t with
    | some depth => some (depth + 1)
    | none => if f.tag = t then some 0 else none

/-- Sets the parent of a tag: in its place when the tag is there, at the end otherwise. -/
def recordParent : List (Tag × Option Tag) → Tag → Option Tag → List (Tag × Option Tag)
  | [], t, parent => [(t, parent)]
  | (u, p) :: rest, t, parent =>
    if u = t then (u, parent) :: rest else (u, p) :: recordParent rest t parent

namespace Allocation

/-- The depth of the topmost frame with a tag. -/
def find (a : Allocation) (t : Tag) : Option Nat := depthOf a.stack t

/-- The parent that the lineage records for a tag. -/
def parentOf (a : Allocation) (t : Tag) : Option Tag := (a.lineage.lookup t).join

/-- Whether the ancestor is met within a number of parent links. -/
def derivesWithin (a : Allocation) (ancestor : Tag) : Nat → Tag → Bool
  | 0, _ => false
  | links + 1, t =>
    match a.parentOf t with
    | none => false
    | some p => if p = ancestor then true else derivesWithin a ancestor links p

/-- Whether a tag was derived, in one or more links, from an ancestor. A chain of parents without
    repetition is no longer than the lineage. -/
def derives (a : Allocation) (t ancestor : Tag) : Bool :=
  a.derivesWithin ancestor a.lineage.length t

/-- The allocation with one more frame on its stack. -/
def push (a : Allocation) (f : Frame) : Allocation :=
  { a with stack := a.stack ++ [f], lineage := recordParent a.lineage f.tag f.parent }

/-- The pointer that the allocation's own name stands for: it carries the tag of the bottom
    frame. -/
def rootPointer (a : Allocation) : Pointer := ⟨a.id, a.stack.head?.map Frame.tag⟩

/-- The frames of the stack, each written out. -/
def stackText (a : Allocation) : List String := a.stack.map Frame.text

end Allocation

end PointerTrace
