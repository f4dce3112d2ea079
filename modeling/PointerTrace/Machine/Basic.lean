import PointerTrace.Memory.Access
import PointerTrace.Memory.Store
import PointerTrace.Program.Names

/- The machine that runs a program, one operation a step. A step first decides the effect of the
   operation and then carries it out; an effect that is a fault halts the machine and changes
   nothing else. A run ends at the first fault or after the last operation. -/
namespace PointerTrace

/-- Whether a machine still runs, or how it ended. -/
inductive Status where
  | running
  | haltedOk
  | haltedUb
  deriving DecidableEq, Repr

/-- The name of a status. -/
def Status.name : Status → String
  | .running => "RUNNING"
  | .haltedOk => "HALTED_OK"
  | .haltedUb => "HALTED_UB"

/-- The fault that halted a machine. -/
structure Fault where
  index : Nat
  operation : Operation
  access : AccessFault
  deriving DecidableEq, Repr

/-- The value that a read saw. -/
structure Observation where
  index : Nat
  source : String
  allocation : String
  value : Int
  deriving DecidableEq, Repr

/-- What memory looked like after an operation. -/
structure TrailEntry where
  index : Nat
  operation : Operation
  borrowStacks : List (String × List String)
  values : List (String × Int)
  deriving DecidableEq, Repr

/-- A program under evaluation. -/
structure Machine where
  program : Program
  externalValue : Int
  recording : Bool
  store : Store
  pointers : List (String × Pointer)
  pc : Nat
  status : Status
  fault : Option Fault
  reads : List Observation
  trail : List TrailEntry
  deriving DecidableEq, Repr

/-- Why a machine cannot step. -/
inductive StepError where
  | halted (status : Status)
  | pastEnd
  | store (error : StoreError)
  deriving DecidableEq, Repr

/-- What an operation will do. -/
inductive Effect where
  | declare (name : String) (value : Int) (isMutable interiorMutable : Bool)
  | derive (target : AllocationId) (parent : Tag) (permission : Permission) (result : String)
  | bind (result : String) (pointer : Pointer)
  | read (target : AllocationId) (grant : Grant) (source : String)
  | write (target : AllocationId) (grant : Grant) (value : Int)
  | refuse (fault : AccessFault)
  deriving DecidableEq, Repr

namespace Machine

/-- A machine before its first step. -/
def start (p : Program) (externalValue : Int) (recording : Bool) : Machine :=
  ⟨p, externalValue, recording, .empty 0, [], 0, .running, none, [], []⟩

/-- A machine for a program that has no name problems, else the problems. -/
def load (p : Program) (externalValue : Int) (checkBindings recording : Bool) :
    Except (List Issue) Machine :=
  match p.issues checkBindings with
  | [] => .ok (start p externalValue recording)
  | issues => .error issues

/-- The pointer that a name stands for: an earlier result, or the variable of that name. -/
def resolve (m : Machine) (name : String) : Except StoreError Pointer :=
  match m.pointers.lookup name with
  | some p => .ok p
  | none => m.store.lookup name >>= m.store.rootPointer

/-- The effect of deriving a pointer from a parent. -/
def deriveEffect (m : Machine) (parent : Pointer) (kind : BorrowKind) (result : String) :
    Except StoreError Effect := do
  let a ← m.store.get parent.target
  match a.parentFault? parent.tag .read with
  | some fault => return .refuse fault
  | none =>
    match parent.tag with
    | none => return .bind result ⟨parent.target, none⟩
    | some t =>
      match (a.find t).bind fun depth => a.stack[depth]? with
      | none => return .refuse (a.faultOf .read (.parentGone t))
      | some frame =>
        return .derive a.id t (frame.permission.derive kind a.interiorMutable) result

/-- The effect of reading through a pointer. -/
def readEffect (m : Machine) (source : String) (p : Pointer) : Except StoreError Effect := do
  let a ← m.store.get p.target
  match a.judge p.tag .read with
  | .ok grant => return .read p.target grant source
  | .error fault => return .refuse fault

/-- The effect of writing through a pointer. -/
def writeEffect (m : Machine) (p : Pointer) (value : Int) : Except StoreError Effect := do
  let a ← m.store.get p.target
  match a.judge p.tag .write with
  | .ok grant => return .write p.target grant value
  | .error fault => return .refuse fault

/-- The effect of an operation in the present state. -/
def effect (m : Machine) : Action → Except StoreError Effect
  | .declare name value isMutable interiorMutable =>
    .ok (.declare name value isMutable interiorMutable)
  | .borrow target kind result => do
    let parent ← m.store.lookup target >>= m.store.rootPointer
    m.deriveEffect parent kind result
  | .reborrow source kind result => do m.deriveEffect (← m.resolve source) kind result
  | .toInteger source result => do
    let p ← m.resolve source
    return .bind result ⟨p.target, none⟩
  | .read source _ => do m.readEffect source (← m.resolve source)
  | .write source value => do m.writeEffect (← m.resolve source) value
  | .call source _ => do m.writeEffect (← m.resolve source) m.externalValue

/-- The machine with one more pointer name. -/
def bind (m : Machine) (name : String) (p : Pointer) : Machine :=
  { m with pointers := m.pointers ++ [(name, p)] }

/-- The value seen by a read through an allocation. -/
def observation (m : Machine) (id : AllocationId) (source : String) :
    Except StoreError Observation := do
  let a ← m.store.get id
  return ⟨m.pc, source, a.name, a.value⟩

/-- Carries out the effect of the operation at hand. A fault is noted and nothing else changes. -/
def perform (m : Machine) (op : Operation) : Effect → Except StoreError Machine
  | .declare name value isMutable interiorMutable => do
    let (_, store) ← m.store.declare name value isMutable interiorMutable
    return { m with store }
  | .derive target parent permission result => do
    let (tag, store) := m.store.takeTag
    let store ← store.push target ⟨tag, permission, some parent⟩
    return { m with store }.bind result ⟨target, some tag⟩
  | .bind result p => return m.bind result p
  | .read target grant source => do
    let seen ← m.observation target source
    return { m with store := m.store.modify target (·.apply grant), reads := m.reads ++ [seen] }
  | .write target grant value => do
    let store ← (m.store.modify target (·.apply grant)).write target value
    return { m with store }
  | .refuse fault => return { m with status := .haltedUb, fault := some ⟨m.pc, op, fault⟩ }

/-- The machine after an operation that was carried out: the program counter moves on, and memory
    is recorded on request. -/
def advance (m : Machine) (op : Operation) : Machine :=
  let trail := if m.recording then
    m.trail ++ [⟨m.pc, op, m.store.borrowStacks, m.store.values⟩] else m.trail
  { m with pc := m.pc + 1, trail }

/-- Executes one operation. -/
def execute (m : Machine) (op : Operation) : Except StoreError Machine := do
  let after ← m.effect op.action >>= m.perform op
  return if after.status = .running then after.advance op else after

/-- Executes the operation at the program counter. -/
def step (m : Machine) : Except StepError Machine :=
  if m.status = .running then
    match m.program.operations[m.pc]? with
    | some op => (m.execute op).mapError .store
    | none => .error .pastEnd
  else .error (.halted m.status)

/-- Executes operations until one is at fault. -/
def runThrough (m : Machine) : List Operation → Except StoreError Machine
  | [] => .ok { m with status := .haltedOk }
  | op :: rest => do
    let after ← m.execute op
    if after.status = .running then after.runThrough rest else return after

/-- Runs a machine until it halts; a halted one stays as it is. -/
def run (m : Machine) : Except StoreError Machine :=
  if m.status = .running then m.runThrough (m.program.operations.drop m.pc) else .ok m

end Machine

end PointerTrace
