import PointerTrace.Program.Basic
import PointerTrace.Program.Issue

/- Resolution of names. A single pass over the operations knows which names are bound so far, and
   by what; it reports, in order, borrows of what is no allocation, uses of unbound names, names
   bound twice and, on request, writing through immutable bindings. A name that is bound twice keeps
   its first meaning. -/
namespace PointerTrace

/-- What the names bound so far stand for. -/
structure Scope where
  allocations : List (String × Bool)
  pointers : List String

namespace Scope

/-- No name is bound. -/
def empty : Scope := ⟨[], []⟩

/-- Whether a name stands for an allocation. -/
def hasAllocation (s : Scope) (name : String) : Bool := (s.allocations.lookup name).isSome

/-- Whether a name is bound. -/
def binds (s : Scope) (name : String) : Bool := s.pointers.contains name || s.hasAllocation name

/-- Whether a name stands for an allocation that may not be written. -/
def isImmutable (s : Scope) (name : String) : Bool := s.allocations.lookup name = some false

/-- The scope after an operation; the flag of an allocation says whether it may be written. -/
def after (s : Scope) (a : Action) : Scope :=
  match a.result? with
  | none => s
  | some name =>
    if s.binds name then s
    else match a with
      | .declare _ _ isMutable interiorMutable =>
        { s with allocations := (name, isMutable || interiorMutable) :: s.allocations }
      | _ => { s with pointers := name :: s.pointers }

/-- The problem of the target of a borrow. -/
def targetIssue? (s : Scope) (checkBindings : Bool) (index : Nat) : Action → Option IssueCause
  | .borrow target kind _ =>
    if !s.hasAllocation target then some (.unknownAllocation target (some index))
    else if checkBindings && kind = .unique && s.isImmutable target then
      some (.immutableBinding target .borrow index)
    else none
  | _ => none

/-- What an operation does to the variable that its operand names, when it writes. -/
def operandUse? : Action → Option BindingUse
  | .write .. => some .assign
  | .call .. => some .pass
  | _ => none

/-- The problem of the operand of an operation. -/
def operandIssue? (s : Scope) (checkBindings : Bool) (index : Nat) (a : Action) :
    Option IssueCause :=
  match a.operand? with
  | none => none
  | some name =>
    if !s.binds name then some (.unknownPointer name index)
    else match operandUse? a with
      | some use => if checkBindings && s.isImmutable name then
          some (.immutableBinding name use index) else none
      | none => none

/-- The problem of the name that an operation binds. -/
def resultIssue? (s : Scope) (index : Nat) (a : Action) : Option IssueCause :=
  match a.result? with
  | some name => if s.binds name then some (.duplicateName name index) else none
  | none => none

/-- The problems of one operation. -/
def issues (s : Scope) (checkBindings : Bool) (index : Nat) (op : Operation) : List Issue :=
  ((s.targetIssue? checkBindings index op.action).toList ++
    (s.operandIssue? checkBindings index op.action).toList ++
    (s.resultIssue? index op.action).toList).map fun cause => ⟨cause, op.location⟩

/-- The problems of operations that start at an index, in order. -/
def issuesFrom (checkBindings : Bool) : Scope → Nat → List Operation → List Issue
  | _, _, [] => []
  | s, index, op :: rest =>
    s.issues checkBindings index op ++ issuesFrom checkBindings (s.after op.action) (index + 1) rest

end Scope

/-- The name problems of a program, in order. -/
def Program.issues (p : Program) (checkBindings : Bool) : List Issue :=
  Scope.issuesFrom checkBindings .empty 0 p.operations

/-- A program without name problems. -/
def Program.WellFormed (p : Program) (checkBindings : Bool) : Prop := p.issues checkBindings = []

end PointerTrace
