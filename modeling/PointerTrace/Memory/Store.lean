import PointerTrace.Memory.Allocation

/- The store of one evaluation: its allocations in the order of their declaration, and the next tag
   to be issued. An allocation's id is its place. A request that names nothing, or declares a name
   again, is refused and leaves the store as it was. Here a refusal is a reason; what is raised for it
   quotes the id (`StoreError.raised`). -/
namespace PointerTrace

/-- The allocations of an evaluation and the supply of tags. -/
structure Store where
  allocations : List Allocation
  nextTag : Int
  deriving DecidableEq, Repr

/-- Why the store refuses a request. -/
inductive StoreError where
  | unknownId (id : AllocationId)
  | unknownName (name : String)
  | nameTaken (name : String) (count : Nat)
  deriving DecidableEq, Repr

/-- What is raised when a request fails. -/
inductive Store.Raised where
  /-- The request is refused, with the reason quoted. -/
  | refused (error : StoreError)
  /-- An id or a tag that was to be quoted has too many digits to be written. -/
  | unwritable
  /-- What is given for an id is no number. -/
  | incomparable
  deriving DecidableEq, Repr

/-- What is raised for a refusal. An unknown id is quoted, so it has to be short enough to be
    written. -/
def StoreError.raised : StoreError → Store.Raised
  | .unknownId id => if Decimal.isWritable id then .refused (.unknownId id) else .unwritable
  | .unknownName name => .refused (.unknownName name)
  | .nameTaken name count => .refused (.nameTaken name count)

namespace Store

/-- A store without allocations whose first tag has the given number. -/
def empty (start : Int) : Store := ⟨[], start⟩

/-- Issues a tag. -/
def takeTag (s : Store) : Tag × Store := (⟨s.nextTag⟩, { s with nextTag := s.nextTag + 1 })

/-- The allocation at a place. -/
def get? (s : Store) (id : AllocationId) : Option Allocation :=
  if 0 ≤ id then s.allocations[id.toNat]? else none

/-- The allocation at a place, or the refusal, which is raised as `StoreError.raised` says. -/
def get (s : Store) (id : AllocationId) : Except StoreError Allocation :=
  match s.get? id with
  | some a => .ok a
  | none => .error (.unknownId id)

/-- The allocation with a name. -/
def named? (s : Store) (name : String) : Option Allocation :=
  s.allocations.find? (·.name = name)

/-- Whether a name is declared. -/
def has (s : Store) (name : String) : Bool := (s.named? name).isSome

/-- The place of the allocation with a name. -/
def lookup (s : Store) (name : String) : Except StoreError AllocationId :=
  match s.named? name with
  | some a => .ok a.id
  | none => .error (.unknownName name)

/-- Changes the allocation at a place and no other. -/
def modify (s : Store) (id : AllocationId) (f : Allocation → Allocation) : Store :=
  { s with allocations := s.allocations.modify id.toNat f }

/-- Declares an allocation; its stack holds one frame with the next tag. -/
def declare (s : Store) (name : String) (value : Int) (isMutable interiorMutable : Bool) :
    Except StoreError (AllocationId × Store) :=
  if s.has name then .error (.nameTaken name s.allocations.length)
  else
    let id : AllocationId := s.allocations.length
    let (tag, s) := s.takeTag
    let bare : Allocation := ⟨id, name, value, isMutable, interiorMutable, [], []⟩
    let a := bare.push ⟨tag, .ofRoot interiorMutable, none⟩
    .ok (id, { s with allocations := s.allocations ++ [a] })

/-- Pushes a frame on the stack of an allocation. -/
def push (s : Store) (id : AllocationId) (f : Frame) : Except StoreError Store := do
  let _ ← s.get id
  return s.modify id (·.push f)

/-- The pointer that an allocation's own name stands for. -/
def rootPointer (s : Store) (id : AllocationId) : Except StoreError Pointer :=
  Allocation.rootPointer <$> s.get id

/-- The value of an allocation. -/
def read (s : Store) (id : AllocationId) : Except StoreError Int := Allocation.value <$> s.get id

/-- Sets the value of an allocation. -/
def write (s : Store) (id : AllocationId) (value : Int) : Except StoreError Store := do
  let _ ← s.get id
  return s.modify id ({ · with value })

/-- The declared names in order. -/
def names (s : Store) : List String := s.allocations.map Allocation.name

/-- The value of every allocation. -/
def values (s : Store) : List (String × Int) := s.allocations.map fun a => (a.name, a.value)

/-- The stack of every allocation, written out. -/
def borrowStacks (s : Store) : List (String × List String) :=
  s.allocations.map fun a => (a.name, a.stackText)

/-- Every tag that was ever pushed, allocation by allocation. -/
def allTags (s : Store) : List Tag := s.allocations.flatMap fun a => a.lineage.map Prod.fst

end Store

end PointerTrace
