import PointerTrace.Memory.Allocation

/- The rules of access. An access is first judged: it is either at fault, with a cause, or granted,
   with the tags that it invalidates. Only a grant changes the allocation: a write pops frames, a
   read disables them. Deriving a new pointer accesses no memory, so only the parent's own frame is
   judged for it. -/
namespace PointerTrace

/-- The rules that an access can break. -/
inductive Rule where
  | untaggedAccess
  | tagNotFound
  | disabled
  | readOnlyViolation
  deriving DecidableEq, Repr

/-- The name of a rule. -/
def Rule.name : Rule → String
  | .untaggedAccess => "UntaggedAccess"
  | .tagNotFound => "TagNotFound"
  | .disabled => "Disabled"
  | .readOnlyViolation => "ReadOnlyViolation"

/-- Why an access or a derivation is at fault. -/
inductive FaultCause where
  | untagged
  | gone (tag : Tag)
  | parentGone (tag : Tag)
  | parentDisabled (tag : Tag)
  | conflict (tag holder : Tag)
  | disabled (tag : Tag)
  | readOnly (tag : Tag)
  deriving DecidableEq, Repr

/-- The rule that a cause breaks. -/
def FaultCause.rule : FaultCause → Rule
  | .untagged => .untaggedAccess
  | .gone _ | .parentGone _ => .tagNotFound
  | .parentDisabled _ | .conflict _ _ | .disabled _ => .disabled
  | .readOnly _ => .readOnlyViolation

/-- The tag of the pointer at fault. -/
def FaultCause.tag : FaultCause → Option Tag
  | .untagged => none
  | .gone t | .parentGone t | .parentDisabled t | .conflict t _ | .disabled t | .readOnly t => some t

/-- An access at fault, with the allocation's stack at that time. -/
structure AccessFault where
  cause : FaultCause
  allocation : String
  access : Access
  stack : List String
  deriving DecidableEq, Repr

/-- The rule that is broken. -/
def AccessFault.rule (f : AccessFault) : Rule := f.cause.rule

/-- The tag of the pointer at fault. -/
def AccessFault.tag (f : AccessFault) : Option Tag := f.cause.tag

/-- The wording of a fault. -/
def AccessFault.message (f : AccessFault) : String :=
  let named := "'" ++ f.allocation ++ "'"
  match f.cause with
  | .untagged => "no item granting " ++ f.access.name ++
      " access for tag <untagged> in the borrow stack of " ++ named
  | .gone t => "no item granting " ++ f.access.name ++ " access for tag " ++ t.text ++
      " in the borrow stack of " ++ named ++ "; it was invalidated by an earlier access"
  | .parentGone t => "no item for tag " ++ t.text ++ " in the borrow stack of " ++ named ++
      "; it was invalidated by an earlier access"
  | .parentDisabled t => "tag " ++ t.text ++ " on " ++ named ++ " is disabled"
  | .conflict t holder => f.access.name ++ " through " ++ t.text ++
      " conflicts with live unique borrow " ++ holder.text ++ " of " ++ named
  | .disabled t => "tag " ++ t.text ++ " on " ++ named ++
      " was disabled by a read through its parent"
  | .readOnly t => "write through " ++ t.text ++ " on " ++ named ++
      ", which only grants SharedReadOnly"

/-- A granted access: the depth of the frame that grants it, and the tags that it pops and
    disables. -/
structure Grant where
  depth : Nat
  popped : List Tag
  disabled : List Tag
  deriving DecidableEq, Repr

namespace Allocation

/-- A fault of an access to this allocation in its present state. -/
def faultOf (a : Allocation) (access : Access) (cause : FaultCause) : AccessFault :=
  ⟨cause, a.name, access, a.stackText⟩

/-- Judges the parent of a new pointer: its frame must be on the stack and not disabled. A parent
    without tag is not judged, its children stay without one. -/
def parentFault? (a : Allocation) (parent : Option Tag) (access : Access) : Option AccessFault :=
  match parent with
  | none => none
  | some t =>
    match a.find t with
    | none => some (a.faultOf access (.parentGone t))
    | some depth =>
      if (a.stack[depth]?.map Frame.permission) = some .disabled then
        some (a.faultOf access (.parentDisabled t))
      else none

/-- A live unique frame that was not derived from the accessing tag. -/
def isForeignUnique (a : Allocation) (t : Tag) (f : Frame) : Bool :=
  f.permission = .unique && !a.derives f.tag t

/-- Whether a write through a tag pops a frame above the tag's own. -/
def popsOnWrite (a : Allocation) (t : Tag) (f : Frame) : Bool :=
  a.derives f.tag t || f.permission = .sharedReadOnly

/-- Whether a read through a tag disables a frame above the tag's own. -/
def disablesOnRead (a : Allocation) (t : Tag) (f : Frame) : Bool :=
  a.derives f.tag t && f.permission = .unique

/-- What an access through a frame invalidates among the frames above it. -/
def grantAt (a : Allocation) (t : Tag) (access : Access) (depth : Nat) (above : List Frame) :
    Grant :=
  match access with
  | .write => ⟨depth, (above.filter (a.popsOnWrite t)).map Frame.tag, []⟩
  | .read => ⟨depth, [], (above.filter (a.disablesOnRead t)).map Frame.tag⟩

/-- Judges an access through the frame at a depth: no foreign live unique frame may stand above it,
    the frame itself must not be disabled, and a read-only frame grants no write unless the
    allocation is interior-mutable. -/
def judgeAt (a : Allocation) (t : Tag) (access : Access) (depth : Nat) (frame : Frame)
    (above : List Frame) : Except AccessFault Grant :=
  match above.find? (a.isForeignUnique t) with
  | some holder => .error (a.faultOf access (.conflict t holder.tag))
  | none =>
    if frame.permission = .disabled then .error (a.faultOf access (.disabled t))
    else if access = .write && frame.permission = .sharedReadOnly && !a.interiorMutable then
      .error (a.faultOf access (.readOnly t))
    else .ok (a.grantAt t access depth above)

/-- Judges an access through a pointer's tag. -/
def judge (a : Allocation) (tag : Option Tag) (access : Access) : Except AccessFault Grant :=
  match tag with
  | none => .error (a.faultOf access .untagged)
  | some t =>
    match a.find t with
    | none => .error (a.faultOf access (.gone t))
    | some depth =>
      match a.stack.drop depth with
      | [] => .error (a.faultOf access (.gone t))
      | frame :: above => a.judgeAt t access depth frame above

/-- Takes a frame's authority when its tag is disabled. -/
def disableFrame (tags : List Tag) (f : Frame) : Frame :=
  if f.tag ∈ tags then { f with permission := .disabled } else f

/-- Carries out a grant: frames with a popped tag go, frames with a disabled tag lose their
    authority. -/
def apply (a : Allocation) (g : Grant) : Allocation :=
  { a with stack := (a.stack.filter (·.tag ∉ g.popped)).map (disableFrame g.disabled) }

end Allocation

end PointerTrace
