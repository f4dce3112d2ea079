import PointerTrace.Decimal.Integer
import PointerTrace.Document.Json
import PointerTrace.Program.Operation
import PointerTrace.Text.Quoted

/- Problems of a trace that are found before anything is run: names that do not resolve, and text
   or records that cannot be read. Each has a cause, from which its kind, its wording and its
   details follow, and may have a place. -/
namespace PointerTrace

/-- What is done to an immutable binding that only a mutable one allows. -/
inductive BindingUse where
  | borrow
  | assign
  | pass
  deriving DecidableEq, Repr

/-- The wording of a use. -/
def BindingUse.text : BindingUse → String
  | .borrow => "borrow as mutable"
  | .assign => "assign to"
  | .pass => "pass as mutable"

/-- What is wrong with a value in a record. It may hold a number that is too long to be quoted. -/
inductive FieldFault where
  | notInteger (field given : String)
  | notTruthValue (field given : String)
  | unwritable
  deriving DecidableEq, Repr

/-- The wording of a fault of a field. -/
def FieldFault.text : FieldFault → String
  | .notInteger field given => "'" ++ field ++ "' must be an integer, got " ++ given
  | .notTruthValue field given => "'" ++ field ++ "' must be true or false, got " ++ given
  | .unwritable => Decimal.unwritableMessage

/-- Why a text, or a list of records, is no program. -/
inductive SyntaxFault where
  /- of the characters of a trace text -/
  | unexpectedCharacter (c : String)
  | notUtf8 (reason : String) (offset : Nat)
  /- of the tokens of a trace text -/
  | expected (what : String) (got : Option String)
  | expectedEnd (got : String)
  | unexpectedStart (got : String)
  | unknownConstructor (type constructor : String)
  | pointerKindMissing
  | castTarget (type : String)
  /- of a document of records -/
  | malformedDocument
  | notRecords
  | notRecord (index : Nat)
  | unknownOperation (index : Nat) (operation : String)
  | unknownKind (index : Nat) (kind : String)
  | fieldMissing (index : Nat) (operation field : String)
  | fieldFault (index : Nat) (operation : String) (fault : FieldFault)
  deriving DecidableEq, Repr

/-- The wording of a syntax fault. -/
def SyntaxFault.message : SyntaxFault → String
  | .unexpectedCharacter c => "Unexpected character '" ++ c ++ "'"
  | .notUtf8 reason offset =>
    "Trace file is not valid UTF-8: " ++ reason ++ " at byte " ++ Decimal.ofNat offset
  | .expected what (some got) => "Expected " ++ what ++ ", got " ++ Text.quoted got
  | .expected what none => "Expected " ++ what
  | .expectedEnd got => "Expected end of statement, got " ++ Text.quoted got
  | .unexpectedStart got => "Unexpected " ++ Text.quoted got ++ " at start of statement"
  | .unknownConstructor type constructor =>
    "Unknown constructor '" ++ type ++ "::" ++ constructor ++ "'"
  | .pointerKindMissing => "Expected 'const' or 'mut' after '*'"
  | .castTarget type => "Unsupported cast target '" ++ type ++ "'"
  | .malformedDocument => "Malformed record document: <yaml>"
  | .notRecords =>
    "Record document must be a list of operations or a mapping with an 'ops' list"
  | .notRecord i => "Record " ++ Decimal.ofNat i ++ " is not a mapping with an 'op' key"
  | .unknownOperation i operation =>
    "Record " ++ Decimal.ofNat i ++ " has unknown op '" ++ operation ++ "'"
  | .unknownKind i kind =>
    "Record " ++ Decimal.ofNat i ++ " has unknown borrow kind '" ++ kind ++ "'"
  | .fieldMissing i operation field => "Record " ++ Decimal.ofNat i ++ " (" ++ operation ++
      ") is missing field " ++ Text.quoted field
  | .fieldFault i operation fault => "Record " ++ Decimal.ofNat i ++ " (" ++ operation ++
      ") has a bad value: " ++ fault.text

/-- Why a trace is refused. The index is that of the operation at fault. -/
inductive IssueCause where
  | unknownAllocation (name : String) (index : Option Nat)
  | unknownPointer (name : String) (index : Nat)
  | duplicateName (name : String) (index : Nat)
  | immutableBinding (name : String) (use : BindingUse) (index : Nat)
  | syntaxFault (fault : SyntaxFault)
  deriving DecidableEq, Repr

/-- A problem of a trace. -/
structure Issue where
  cause : IssueCause
  location : Option Location
  deriving DecidableEq, Repr

namespace IssueCause

/-- The name of the kind of a problem. -/
def kind : IssueCause → String
  | .unknownAllocation .. => "invalid_allocation"
  | .unknownPointer .. => "unknown_pointer"
  | .duplicateName .. => "duplicate_name"
  | .immutableBinding .. => "immutable_binding"
  | .syntaxFault _ => "syntax_error"

/-- The wording of a problem. -/
def message : IssueCause → String
  | .unknownAllocation name _ => "Unknown allocation '" ++ name ++ "'"
  | .unknownPointer name _ =>
    "'" ++ name ++ "' is neither an earlier pointer result nor a declared allocation"
  | .duplicateName name _ => "Name '" ++ name ++ "' is already bound"
  | .immutableBinding name use _ =>
    "Cannot " ++ use.text ++ " immutable binding '" ++ name ++ "'"
  | .syntaxFault fault => fault.message

/-- The details of a problem. -/
def details : IssueCause → List (String × Json)
  | .unknownAllocation name index => ("allocation", .text name) ::
      (index.map fun i => ("instruction_index", Json.ofNat i)).toList
  | .unknownPointer name i => [("operand", .text name), ("instruction_index", .ofNat i)]
  | .duplicateName name i => [("name", .text name), ("instruction_index", .ofNat i)]
  | .immutableBinding name use i =>
    [("allocation", .text name), ("action", .text use.text), ("instruction_index", .ofNat i)]
  | .syntaxFault _ => []

end IssueCause

/-- A place as a document. -/
def Location.toJson (l : Location) : Json :=
  .object [("file", .text l.file), ("line", .ofNat l.line), ("column", .ofNat l.column)]

/-- A problem of the text at a place. -/
def Issue.ofSyntax (fault : SyntaxFault) (location : Option Location) : Issue :=
  ⟨.syntaxFault fault, location⟩

/-- A problem as a document; an absent place and absent details are left out. -/
def Issue.toJson (i : Issue) : Json :=
  .object ([("kind", .text i.cause.kind), ("message", .text i.cause.message)] ++
    (i.location.map fun l => ("location", l.toJson)).toList ++
    (if i.cause.details.isEmpty then [] else [("details", .object i.cause.details)]))

/-- Problems as a list over several lines. -/
def Issue.listText (l : List Issue) : String := (Json.array (l.map Issue.toJson)).indented

/-- A problem as one line: its kind, its place, and what is wrong. -/
def Issue.text (i : Issue) : String :=
  "[" ++ i.cause.kind ++ "]" ++ (i.location.elim "" fun l => " at " ++ l.text) ++ ": " ++
    i.cause.message

end PointerTrace
