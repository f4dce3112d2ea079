import PointerTrace.Document.Value
import PointerTrace.Program.Basic
import PointerTrace.Program.ReadFailure
import PointerTrace.Text.LowerCase

/- Records: operations as mappings, with the operation's name under `op` and its parts under names of
   their own. Reading takes any document value; names may be given as values of any kind and are
   taken as text, while values and flags must be of the right kind. The first record at fault is
   reported. -/
namespace PointerTrace

namespace Action

/-- An operation as a record. -/
def toRecord : Action → List (String × Json)
  | .declare name value isMutable interiorMutable =>
    [("op", .text "declare"), ("name", .text name), ("value", .int value),
      ("mutable", .bool isMutable), ("interior_mutable", .bool interiorMutable)]
  | .borrow target kind result => [("op", .text "borrow"), ("target", .text target),
      ("kind", .text kind.name), ("result", .text result)]
  | .reborrow source kind result => [("op", .text "reborrow"), ("source", .text source),
      ("kind", .text kind.name), ("result", .text result)]
  | .toInteger source result =>
    [("op", .text "to_int"), ("source", .text source), ("result", .text result)]
  | .read source binding => [("op", .text "read"), ("source", .text source)] ++
      ((nonempty binding).map fun name => ("binding", Json.text name)).toList
  | .write source value =>
    [("op", .text "write"), ("source", .text source), ("value", .int value)]
  | .call source function =>
    [("op", .text "call"), ("source", .text source), ("function", .text function)]

end Action

/-- The records of a program. -/
def Program.toRecords (p : Program) : List Json := p.actions.map fun a => .object a.toRecord

/-- A program as one document: its name and its records. -/
def Program.toDocument (p : Program) : List (String × Json) :=
  [("name", .text p.name), ("ops", .array p.toRecords)]

namespace Record

open Document (Value)

/-- The pairs of a record. -/
abbrev Fields := List (Value × Value)

/-- What is wrong with one record, its place left open. -/
inductive Fault where
  | missing (field : String)
  | unfit (fault : FieldFault)
  | kind (given : String)
  deriving DecidableEq, Repr

/-- A value as text. -/
def textOf (v : Value) : Except Fault String := v.plain?.elim (.error (.unfit .unwritable)) .ok

/-- A value as it is quoted in a message about it. -/
def refused {α : Type} (v : Value) (message : String → FieldFault) : Except Fault α :=
  .error (.unfit (v.quoted?.elim .unwritable message))

/-- A field that must be there, as text. -/
def required (fields : Fields) (name : String) : Except Fault String :=
  (Value.field? fields name).elim (.error (.missing name)) textOf

/-- A whole number; a truth value is none. -/
def integer (name : String) : Value → Except Fault Int
  | .int n => .ok n
  | v => refused v (.notInteger name)

/-- A truth value. -/
def truth (name : String) : Value → Except Fault Bool
  | .bool b => .ok b
  | v => refused v (.notTruthValue name)

/-- A flag, off when it is left out. -/
def flag (fields : Fields) (name : String) : Except Fault Bool :=
  truth name ((Value.field? fields name).getD (.bool false))

/-- The kinds of borrow by the words that name them. -/
def kindWords : List (String × BorrowKind) :=
  [("shared", .shared), ("const", .shared), ("unique", .unique), ("mut", .unique)]

/-- The kind of a borrow, shared when it is left out. Capitals make no difference. -/
def kindOf (fields : Fields) : Except Fault BorrowKind := do
  let word := Text.lower (← textOf ((Value.field? fields "kind").getD (.text "shared")))
  match kindWords.lookup word with
  | some kind => return kind
  | none => throw (.kind word)

/-- A field that may be left out or null, as text. -/
def optional (fields : Fields) (name : String) : Except Fault (Option String) :=
  match Value.field? fields name with
  | none | some .null => .ok none
  | some v => (textOf v).map some

/-- The operation of a record whose operation has a name in small letters; nothing when there is no
    operation of that name. -/
def action? (operation : String) (fields : Fields) : Option (Except Fault Action) :=
  match operation with
  | "declare" => some do
    let name ← required fields "name"
    let value ← integer "value" ((Value.field? fields "value").getD (.int 0))
    let isMutable ← flag fields "mutable"
    let interiorMutable ← flag fields "interior_mutable"
    return .declare name value isMutable interiorMutable
  | "borrow" => some do
    let target ← required fields "target"
    let kind ← kindOf fields
    return .borrow target kind (← required fields "result")
  | "reborrow" => some do
    let source ← required fields "source"
    let kind ← kindOf fields
    return .reborrow source kind (← required fields "result")
  | "to_int" => some do
    let source ← required fields "source"
    return .toInteger source (← required fields "result")
  | "read" => some do
    let source ← required fields "source"
    return .read source (← optional fields "binding")
  | "write" => some do
    let source ← required fields "source"
    match Value.field? fields "value" with
    | some v => return .write source (← integer "value" v)
    | none => throw (.missing "value")
  | "call" => some do
    let source ← required fields "source"
    return .call source (← textOf ((Value.field? fields "function").getD (.text "opaque")))
  | _ => none

/-- The fault of a record at an index. -/
def Fault.toSyntax (index : Nat) (operation : String) : Fault → SyntaxFault
  | .missing field => .fieldMissing index operation field
  | .unfit fault => .fieldFault index operation fault
  | .kind given => .unknownKind index given

/-- Reads the pairs of the record at an index. The name of its operation must be writable before
    anything is said about it. -/
def readFields (index : Nat) (fields : Fields) : Except ReadFailure Action :=
  match Value.field? fields "op" with
  | none => .error (.ofSyntax (.notRecord index) none)
  | some v =>
    match v.plain? with
    | none => .error (.unreadable .unwritable)
    | some word =>
      let operation := Text.lower word
      match action? operation fields with
      | some a => a.mapError fun fault => .ofSyntax (fault.toSyntax index operation) none
      | none => .error (.ofSyntax (.unknownOperation index operation) none)

/-- Reads the record at an index. -/
def read (index : Nat) (record : Value) : Except ReadFailure Action :=
  match record.opened with
  | .mapping fields => readFields index fields
  | _ => .error (.ofSyntax (.notRecord index) none)

/-- Reads records that start at an index. -/
def readFrom (index : Nat) : List Value → Except ReadFailure (List Action)
  | [] => .ok []
  | record :: rest => do
    let a ← read index record
    return a :: (← readFrom (index + 1) rest)

end Record

/-- The program of a list of records. -/
def Program.ofRecords (records : List Document.Value) (name : String) :
    Except ReadFailure Program :=
  (Record.readFrom 0 records).map fun actions =>
    ⟨actions.map fun a => ⟨a, none⟩, name, none, 0⟩

/-- The program of a value that must be a list of records. -/
def Program.ofList (records : Option Document.Value) (name : String) : Except ReadFailure Program :=
  match records.map Document.Value.opened with
  | some (.list l) => ofRecords l name
  | _ => .error (.ofSyntax .notRecords none)

/-- The program of a document: a list of records, or a mapping with such a list under `ops`, and
    possibly a name of its own. -/
def Program.ofDocument (document : Document.Value) (name : String) : Except ReadFailure Program :=
  match document.opened with
  | .mapping fields =>
    match (Document.Value.field? fields "name").map Document.Value.plain? with
    | some none => .error (.unreadable .unwritable)
    | some (some name) => ofList (Document.Value.field? fields "ops") name
    | none => ofList (Document.Value.field? fields "ops") name
  | _ => ofList (some document) name

end PointerTrace
