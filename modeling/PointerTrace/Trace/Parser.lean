import PointerTrace.Program.ReadFailure
import PointerTrace.Trace.Statement
import PointerTrace.Trace.Token

/- Reading a trace text into a program. The tokens are split into segments at semicolons, line ends
   and the end of the text; each segment is empty or one statement. A segment is read from left to
   right, and the first token that does not fit is reported; the token that ends the segment is
   what is reported as found when the segment is too short. -/
namespace PointerTrace

namespace Trace

/-- The tokens of one statement and the token that ends it. -/
structure Segment where
  tokens : List Token
  stop : Token
  deriving DecidableEq, Repr

/-- Splits tokens into segments; the last one is ended by the end of the text. -/
def segments (finish : Token) : List Token → List Segment
  | [] => [⟨[], finish⟩]
  | t :: rest =>
    if t.symbol.endsStatement then ⟨[], t⟩ :: segments finish rest
    else match segments finish rest with
      | s :: more => { s with tokens := t :: s.tokens } :: more
      | [] => [⟨[t], finish⟩]

/-- The failure at the next token, the ending one when there is none left. -/
def failAt (stop : Token) (tokens : List Token) (fault : Symbol → SyntaxFault) : ReadFailure :=
  let t := tokens.head?.getD stop
  .ofSyntax (fault t.symbol) (some t.location)

/-- What was found where something else was expected. -/
def expected (what : String) (found : Symbol) : SyntaxFault :=
  .expected what (if found.text = "" then none else some found.text)

/-- Reads one given token. -/
def readSymbol (stop : Token) (symbol : Symbol) (what : String) (tokens : List Token) :
    Except ReadFailure (Unit × List Token) :=
  match tokens with
  | t :: rest =>
    if t.symbol = symbol then .ok ((), rest) else .error (failAt stop tokens (expected what))
  | [] => .error (failAt stop [] (expected what))

/-- Reads a name and its place. -/
def readName (stop : Token) (what : String) (tokens : List Token) :
    Except ReadFailure ((String × Location) × List Token) :=
  match tokens with
  | ⟨.name name, place⟩ :: rest => .ok ((name, place), rest)
  | _ => .error (failAt stop tokens (expected what))

/-- Reads a number without sign. -/
def readNumber (stop : Token) (tokens : List Token) :
    Except ReadFailure (Nat × List Token) :=
  match tokens with
  | ⟨.number digits, _⟩ :: rest =>
    match Decimal.literal digits.toList with
    | .ok n => .ok (n, rest)
    | .error count => .error (.unreadable (.tooManyDigits count))
  | _ => .error (failAt stop tokens (expected "integer literal"))

/-- Reads a number that may have a minus sign. -/
def readInt (stop : Token) (tokens : List Token) :
    Except ReadFailure (Int × List Token) :=
  match tokens with
  | ⟨.minus, _⟩ :: rest => do
    let (n, rest) ← readNumber stop rest
    return (-n, rest)
  | _ => do
    let (n, rest) ← readNumber stop tokens
    return (n, rest)

/-- The integer types that a pointer may be cast to. -/
def integerTypes : List String :=
  ["usize", "isize", "u8", "u16", "u32", "u64", "u128", "i8", "i16", "i32", "i64", "i128"]

/-- The types of interior-mutable variables. -/
def cellTypes : List String := ["Cell", "UnsafeCell", "RefCell"]

/-- Leaves out the name of the type that a pointer points to. -/
def skipPointee : List Token → List Token
  | ⟨.name _, _⟩ :: rest => rest
  | tokens => tokens

/-- Reads the target of a cast. -/
def readCast (stop : Token) (tokens : List Token) :
    Except ReadFailure (Cast × List Token) :=
  match tokens with
  | ⟨.star, _⟩ :: ⟨.constWord, _⟩ :: rest => .ok (.pointer .shared, skipPointee rest)
  | ⟨.star, _⟩ :: ⟨.mutWord, _⟩ :: rest => .ok (.pointer .unique, skipPointee rest)
  | ⟨.star, _⟩ :: rest => .error (failAt stop rest fun _ => .pointerKindMissing)
  | _ => do
    let ((type, place), rest) ← readName stop "cast target type" tokens
    if type ∈ integerTypes then return (.integer, rest)
    else throw (.ofSyntax (.castTarget type) (some place))

/-- Reads casts as long as there are any, at most as many as there are tokens. -/
def readCasts (stop : Token) : Nat → List Token → Except ReadFailure (List Cast × List Token)
  | links + 1, ⟨.asWord, _⟩ :: rest => do
    let (cast, rest) ← readCast stop rest
    let (casts, rest) ← readCasts stop links rest
    return (cast :: casts, rest)
  | _, tokens => .ok ([], tokens)

/-- Reads what a pointer expression starts with. -/
def readPrimary (stop : Token) (tokens : List Token) :
    Except ReadFailure (Primary × List Token) :=
  match tokens with
  | ⟨.ampersand, _⟩ :: ⟨.mutWord, _⟩ :: rest => do
    let ((target, _), rest) ← readName stop "variable name" rest
    return (.borrow .unique target, rest)
  | ⟨.ampersand, _⟩ :: rest => do
    let ((target, _), rest) ← readName stop "variable name" rest
    return (.borrow .shared target, rest)
  | _ => do
    let ((name, _), rest) ← readName stop "pointer or variable name" tokens
    return (.name name, rest)

/-- Reads a pointer expression. -/
def readPointer (stop : Token) (tokens : List Token) :
    Except ReadFailure (PointerExpr × List Token) := do
  let (primary, rest) ← readPrimary stop tokens
  let (casts, rest) ← readCasts stop rest.length rest
  return (⟨primary, casts⟩, rest)

/-- Reads the constructor call of an interior-mutable variable. -/
def readCell (stop : Token) (type : String) (place : Location) (tokens : List Token) :
    Except ReadFailure (Initializer × List Token) := do
  if type ∉ cellTypes then throw (.ofSyntax (.unknownConstructor type "new") (some place))
  let (_, rest) ← readSymbol stop .doubleColon "'::'" tokens
  let ((constructor, place), rest) ← readName stop "'new'" rest
  if constructor ≠ "new" then
    throw (.ofSyntax (.unknownConstructor type constructor) (some place))
  let (_, rest) ← readSymbol stop .leftParen "'('" rest
  let (n, rest) ← readInt stop rest
  let (_, rest) ← readSymbol stop .rightParen "')'" rest
  return (.cell n, rest)

/-- Reads what a name is bound to. -/
def readInitializer (stop : Token) (tokens : List Token) :
    Except ReadFailure (Initializer × List Token) :=
  match tokens with
  | ⟨.number _, _⟩ :: _ | ⟨.minus, _⟩ :: _ => do
    let (n, rest) ← readInt stop tokens
    return (.value n, rest)
  | ⟨.name type, place⟩ :: ⟨.doubleColon, colons⟩ :: rest =>
    readCell stop type place (⟨.doubleColon, colons⟩ :: rest)
  | ⟨.star, _⟩ :: rest => do
    let ((source, _), rest) ← readName stop "pointer name" rest
    return (.deref source, rest)
  | _ => do
    let (e, rest) ← readPointer stop tokens
    return (.pointer e, rest)

/-- Reads a type annotation, if there is one, and says whether it names an interior-mutable type. -/
def readAnnotation (stop : Token) (tokens : List Token) :
    Except ReadFailure (Bool × List Token) :=
  match tokens with
  | ⟨.colon, _⟩ :: rest => do
    let ((type, _), rest) ← readName stop "type name" rest
    return (type ∈ cellTypes, rest)
  | _ => .ok (false, tokens)

/-- Reads a binding after its first word. -/
def readBinding (stop : Token) (isMutable : Bool) (tokens : List Token) :
    Except ReadFailure (Statement × List Token) := do
  let ((name, _), rest) ← readName stop "binding name" tokens
  let (isCell, rest) ← readAnnotation stop rest
  let (_, rest) ← readSymbol stop .assign "'='" rest
  let (init, rest) ← readInitializer stop rest
  return (.binding isMutable name isCell init, rest)

/-- Reads a statement. -/
def readStatement (stop : Token) (tokens : List Token) :
    Except ReadFailure (Statement × List Token) :=
  match tokens with
  | ⟨.letWord, _⟩ :: ⟨.mutWord, _⟩ :: rest => readBinding stop true rest
  | ⟨.letWord, _⟩ :: rest => readBinding stop false rest
  | ⟨.star, _⟩ :: rest => do
    let ((source, _), rest) ← readName stop "pointer name" rest
    match rest with
    | ⟨.assign, _⟩ :: rest => do
      let (n, rest) ← readInt stop rest
      return (.deref source (some n), rest)
    | _ => return (.deref source none, rest)
  | ⟨.name name, _⟩ :: ⟨.assign, _⟩ :: rest => do
    let (n, rest) ← readInt stop rest
    return (.assign name n, rest)
  | ⟨.name function, _⟩ :: ⟨.leftParen, _⟩ :: rest => do
    let (argument, rest) ← readPointer stop rest
    let (_, rest) ← readSymbol stop .rightParen "')'" rest
    return (.call function argument, rest)
  | _ => .error (failAt stop tokens fun found => .unexpectedStart found.text)

/-- Reads a segment: nothing, or one statement with the place of its first token. -/
def readSegment (s : Segment) : Except ReadFailure (Option (Location × Statement)) :=
  match s.tokens with
  | [] => .ok none
  | first :: _ => do
    let (statement, rest) ← readStatement s.stop s.tokens
    if rest = [] then return some (first.location, statement)
    else throw (failAt s.stop rest fun found => .expectedEnd found.text)

/-- Appends the operations of a statement to a program, each with the statement's place. -/
def addStatement (p : Program) (s : Location × Statement) : Program :=
  let (actions, temporaries) := s.2.actions p.temporaries
  { p with
    operations := p.operations ++ actions.map fun a => ⟨a, some s.1⟩
    temporaries }

/-- The statements of tokens. -/
def readStatements (ts : Tokens) : Except ReadFailure (List (Location × Statement)) := do
  let read ← (segments ts.finish ts.body).mapM readSegment
  return read.filterMap id

end Trace

/-- Reads a trace text; without a name of its own the program is named after its file. -/
def Program.parse (source file : String) (name : Option String) : Except ReadFailure Program := do
  let tokens ← (Trace.tokenize source file).mapError fun issue => .malformed [issue]
  let statements ← Trace.readStatements tokens
  return statements.foldl Trace.addStatement
    ⟨[], (nonempty name).getD file, some source, 0⟩

end PointerTrace
