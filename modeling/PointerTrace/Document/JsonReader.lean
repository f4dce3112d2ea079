import PointerTrace.Decimal.Binary64
import PointerTrace.Document.Json
import PointerTrace.Document.ScalarFault

/- Reading JSON. A text is refused with what was expected and where; places count code points from
   the start of the text. Besides standard JSON, the three names of numbers that are not finite are
   read. The last of several members with one name counts. -/
namespace PointerTrace.Json

/-- What is wrong at a place of a JSON text. -/
inductive SyntaxError where
  | expectedValue
  | expectedName
  | expectedColon
  | expectedComma
  | unterminatedText
  | controlCharacter
  | invalidEscape
  | invalidUnicodeEscape
  | extraData
  | byteOrderMark
  deriving DecidableEq, Repr

/-- The wording of an error. -/
def SyntaxError.text : SyntaxError → String
  | .expectedValue => "Expecting value"
  | .expectedName => "Expecting property name enclosed in double quotes"
  | .expectedColon => "Expecting ':' delimiter"
  | .expectedComma => "Expecting ',' delimiter"
  | .unterminatedText => "Unterminated string starting at"
  | .controlCharacter => "Invalid control character at"
  | .invalidEscape => "Invalid \\escape"
  | .invalidUnicodeEscape => "Invalid \\uXXXX escape"
  | .extraData => "Extra data"
  | .byteOrderMark => "Unexpected UTF-8 BOM (decode using utf-8-sig)"

/-- Why a JSON text cannot be read: an error at an index, a number with too many digits, or arrays and
    objects that are nested too deeply. -/
inductive Fault where
  | malformed (error : SyntaxError) (index : Nat)
  | tooManyDigits (count : Nat)
  | tooDeep (nesting : Document.Nesting)
  deriving DecidableEq, Repr

/-- The wording of an error with its place in a text, given as line, column and index. -/
def errorMessage (text : List Char) (error : SyntaxError) (index : Nat) : String :=
  let before := text.take index
  let line := before.count '\n' + 1
  let column := (before.reverse.takeWhile (· ≠ '\n')).length + 1
  error.text ++ ": line " ++ Decimal.ofNat line ++ " column " ++ Decimal.ofNat column ++
    " (char " ++ Decimal.ofNat index ++ ")"

/-- The rest of a JSON text and its index. -/
structure Rest where
  chars : List Char
  index : Nat
  deriving DecidableEq, Repr

namespace Rest

/-- The rest after a number of characters. -/
def skip (r : Rest) (n : Nat) : Rest := ⟨r.chars.drop n, r.index + n⟩

/-- White space of JSON. -/
def isSpace (c : Char) : Bool := c = ' ' || c = '\t' || c = '\n' || c = '\r'

/-- The rest after white space. -/
def skipSpace (r : Rest) : Rest := r.skip (r.chars.takeWhile isSpace).length

/-- Refuses the text at this place. -/
def fail {α : Type} (r : Rest) (e : SyntaxError) : Except Fault α := .error (.malformed e r.index)

end Rest

/-- The value of a hexadecimal digit. -/
def hexDigit? (c : Char) : Option Nat :=
  if c.isDigit then some (c.toNat - 48)
  else if 'a' ≤ c && c ≤ 'f' then some (c.toNat - 87)
  else if 'A' ≤ c && c ≤ 'F' then some (c.toNat - 55)
  else none

/-- The value of the four hexadecimal digits of an escape. One more character must follow them. -/
def hexUnit? (cs : List Char) : Option Nat :=
  if 4 < cs.length then (cs.take 4).foldl (fun n? c => do
    let n ← n?
    let d ← hexDigit? c
    return 16 * n + d) (some 0)
  else none

/-- The character that a letter escapes. -/
def escaped? (c : Char) : Option Char :=
  match c with
  | '"' | '\\' | '/' => some c
  | 'b' => some (Char.ofNat 8)
  | 'f' => some (Char.ofNat 12)
  | 'n' => some '\n'
  | 'r' => some '\r'
  | 't' => some '\t'
  | _ => none

/-- Reads an escape of one or two UTF-16 units, after its backslash and letter, into a code point. Half
    of a pair may stand alone. -/
def readUnits (r : Rest) : Except Fault (Nat × Rest) :=
  match hexUnit? r.chars with
  | none => .error (.malformed .invalidUnicodeEscape (r.index - 1))
  | some high =>
    let after := r.skip 4
    if 0xD800 ≤ high && high < 0xDC00 then
      match after.chars with
      | '\\' :: 'u' :: more =>
        match hexUnit? more with
        | some low => if 0xDC00 ≤ low && low < 0xE000 then
            .ok (0x10000 + (high - 0xD800) * 0x400 + (low - 0xDC00), after.skip 6)
          else .ok (high, after)
        | none => if 4 < more.length then
            .error (.malformed .invalidUnicodeEscape (after.index + 1))
          else .ok (high, after)
      | _ => .ok (high, after)
    else .ok (high, after)

/-- Reads the code points of a text whose opening quote is at an index. -/
def readPoints (opening : Nat) : Nat → Rest → Except Fault (List Nat × Rest)
  | 0, _ => .error (.malformed .unterminatedText opening)
  | more + 1, r =>
    match r.chars with
    | [] => .error (.malformed .unterminatedText opening)
    | '"' :: _ => .ok ([], r.skip 1)
    | '\\' :: 'u' :: _ => do
      let (n, r) ← readUnits (r.skip 2)
      (fun (l, r) => (n :: l, r)) <$> readPoints opening more r
    | ['\\'] => .error (.malformed .unterminatedText opening)
    | '\\' :: c :: _ =>
      match escaped? c with
      | some c => (fun (l, r) => (c.toNat :: l, r)) <$> readPoints opening more (r.skip 2)
      | none => r.fail .invalidEscape
    | c :: _ =>
      if c.toNat < 32 then r.fail .controlCharacter
      else (fun (l, r) => (c.toNat :: l, r)) <$> readPoints opening more (r.skip 1)

/-- Reads a text from its opening quote on. -/
def readText (r : Rest) : Except Fault (String × Rest) :=
  (fun (l, r) => (Text.ofPoints l, r)) <$> readPoints r.index r.chars.length (r.skip 1)

/-- The digits of a fraction after its point, if there are any. -/
def fractionDigits (cs : List Char) : List Char :=
  match cs with
  | '.' :: rest => rest.takeWhile Char.isDigit
  | _ => []

/-- The exponent of a number: its value and its length, zero when there is none. -/
def exponent (cs : List Char) : Int × Nat :=
  match cs with
  | c :: rest =>
    if c = 'e' || c = 'E' then
      let (negative, marks, ds) := match rest with
        | '-' :: more => (true, 2, more.takeWhile Char.isDigit)
        | '+' :: more => (false, 2, more.takeWhile Char.isDigit)
        | _ => (false, 1, rest.takeWhile Char.isDigit)
      let n : Int := Decimal.value ds
      if ds = [] then (0, 0) else (if negative then -n else n, marks + ds.length)
    else (0, 0)
  | [] => (0, 0)

/-- Reads a number: whole when it has neither fraction nor exponent. -/
def readNumber (r : Rest) : Except Fault (Json × Rest) :=
  let negative := r.chars.head? = some '-'
  let start := if negative then r.skip 1 else r
  let whole := match start.chars with
    | '0' :: _ => ['0']
    | cs => cs.takeWhile Char.isDigit
  if whole = [] then r.fail .expectedValue
  else
    let after := start.skip whole.length
    let part := fractionDigits after.chars
    let pointed := if part = [] then after else after.skip (part.length + 1)
    let (power, length) := exponent pointed.chars
    if part = [] && length = 0 then
      match Decimal.literal whole with
      | .ok n => .ok (.int (if negative then -n else n), after)
      | .error count => .error (.tooManyDigits count)
    else
      let x := Decimal.fraction whole part power
      .ok (.float (if negative then -x else x), pointed.skip length)

/-- The words of JSON and what they stand for. -/
def words : List (String × Json) :=
  [("null", .null), ("true", .bool true), ("false", .bool false), ("NaN", .float (0.0 / 0.0)),
    ("Infinity", .float (1.0 / 0.0)), ("-Infinity", .float (-1.0 / 0.0))]

/-- The word that stands at a place. -/
def wordAt? (r : Rest) : Option (String × Json) :=
  words.find? fun p => p.1.toList.isPrefixOf r.chars

/-- How many arrays and objects may be inside each other. The number stands for the depth at which the
    interpreter's recursion limit is met by a reader that is called from the outermost level; one that is
    called from deeper down meets it sooner. -/
def deepest : Nat := 990

mutual

/-- Reads a value inside a number of arrays and objects. -/
def readValue (level : Nat) : Nat → Rest → Except Fault (Json × Rest)
  | 0, r => r.fail .expectedValue
  | more + 1, r =>
    match r.chars with
    | '"' :: _ => (fun (s, r) => (.text s, r)) <$> readText r
    | '[' :: _ =>
      if deepest ≤ level then .error (.tooDeep .arrays) else
      let r := (r.skip 1).skipSpace
      if r.chars.head? = some ']' then .ok (.array [], r.skip 1)
      else (fun (items, r) => (.array items, r)) <$> readItems (level + 1) more r
    | c :: _ =>
      if c.toNat = 0x7B then
        if deepest ≤ level then .error (.tooDeep .objects) else
        let r := (r.skip 1).skipSpace
        if (r.chars.head?.map Char.toNat) = some 0x7D then .ok (.object [], r.skip 1)
        else (fun (members, r) => (.object members, r)) <$> readMembers (level + 1) more [] r
      else match wordAt? r with
        | some (word, j) => .ok (j, r.skip word.length)
        | none => readNumber r
    | [] => r.fail .expectedValue

/-- Reads the items of an array, at least one, and its end. -/
def readItems (level : Nat) : Nat → Rest → Except Fault (List Json × Rest)
  | 0, r => r.fail .expectedValue
  | more + 1, r => do
    let (item, r) ← readValue level more r
    let r := r.skipSpace
    match r.chars with
    | ']' :: _ => return ([item], r.skip 1)
    | ',' :: _ =>
      let (items, r) ← readItems level more (r.skip 1).skipSpace
      return (item :: items, r)
    | _ => r.fail .expectedComma

/-- Reads the members of an object, at least one, and its end. -/
def readMembers (level : Nat) :
    Nat → List (String × Json) → Rest → Except Fault (List (String × Json) × Rest)
  | 0, _, r => r.fail .expectedName
  | more + 1, members, r => do
    if r.chars.head? ≠ some '"' then r.fail .expectedName
    let (name, r) ← readText r
    let r := r.skipSpace
    if r.chars.head? ≠ some ':' then r.fail .expectedColon
    let (j, r) ← readValue level more (r.skip 1).skipSpace
    let members := putMember members name j
    let r := r.skipSpace
    match r.chars with
    | ',' :: _ => readMembers level more members (r.skip 1).skipSpace
    | c :: _ => if c.toNat = 0x7D then return (members, r.skip 1) else r.fail .expectedComma
    | [] => r.fail .expectedComma

end

/-- Reads a JSON text. -/
def read (text : List Char) : Except Fault Json := do
  let start : Rest := ⟨text, 0⟩
  if start.chars.head? = some (Char.ofNat 0xFEFF) then start.fail .byteOrderMark
  let (j, r) ← readValue 0 (2 * start.chars.length + 2) start.skipSpace
  let r := r.skipSpace
  if r.chars.isEmpty then return j else r.fail .extraData

end PointerTrace.Json
