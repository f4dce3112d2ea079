import PointerTrace.Decimal.Shortest
import PointerTrace.Document.Value

/- JSON documents and how they are written: on one line, or with one item per line and two spaces
   of indentation a level. Written text is ASCII; any other character is escaped by its UTF-16
   units. -/
namespace PointerTrace

/-- A JSON document. An object keeps its members in order. -/
inductive Json where
  | null
  | bool (b : Bool)
  | int (n : Int)
  | float (x : Float)
  | text (s : String)
  | array (items : List Json)
  | object (members : List (String × Json))
  deriving Inhabited

namespace Json

/-- A count as a document. -/
def ofNat (n : Nat) : Json := .int n

/-- A text, or null when there is none. -/
def ofText? : Option String → Json
  | some s => .text s
  | none => .null

/-- A list of texts as a document. -/
def texts (l : List String) : Json := .array (l.map .text)

/-- An escape by one UTF-16 unit. -/
def unitEscape (n : Nat) : List Char := '\\' :: 'u' :: Text.hexDigits 4 n

/-- The letters that stand for characters in a JSON text. -/
def escapeLetters : List (Nat × Char) :=
  [(8, 'b'), (9, 't'), (10, 'n'), (12, 'f'), (13, 'r'), (34, '"'), (92, '\\')]

/-- A code point inside a JSON text. -/
def escaped (n : Nat) : List Char :=
  match escapeLetters.lookup n with
  | some letter => ['\\', letter]
  | none =>
    if 32 ≤ n && n < 127 then [Char.ofNat n]
    else if n < 0x10000 then unitEscape n
    else unitEscape (0xD800 + (n - 0x10000) / 0x400) ++ unitEscape (0xDC00 + (n - 0x10000) % 0x400)

/-- A text in JSON quotes. -/
def quotedText (s : String) : String :=
  String.ofList ('"' :: (Text.points s).flatMap escaped ++ ['"'])

/-- A floating-point number in JSON; what is not finite has a name. -/
def floatText (x : Float) : String :=
  match Decimal.ofFloat x with
  | "nan" => "NaN"
  | "inf" => "Infinity"
  | "-inf" => "-Infinity"
  | s => s

mutual

/-- A document on one line. -/
def compact : Json → String
  | .null => "null"
  | .bool b => if b then "true" else "false"
  | .int n => Decimal.ofInt n
  | .float x => floatText x
  | .text s => quotedText s
  | .array items => "[" ++ ", ".intercalate (compactItems items) ++ "]"
  | .object members => "\x7b" ++ ", ".intercalate (compactMembers members) ++ "\x7d"

/-- The items of an array, each on one line. -/
def compactItems : List Json → List String
  | [] => []
  | j :: rest => compact j :: compactItems rest

/-- The members of an object, each on one line. -/
def compactMembers : List (String × Json) → List String
  | [] => []
  | (k, j) :: rest => (quotedText k ++ ": " ++ compact j) :: compactMembers rest

end

/-- The start of a line at a level of indentation. -/
def lineStart (level : Nat) : String := "\n" ++ String.ofList (List.replicate (2 * level) ' ')

/-- Brackets around written items, each on its own line; nothing stands between the brackets when
    there is no item. -/
def bracketed (left right : String) (level : Nat) (items : List String) : String :=
  if items.isEmpty then left ++ right
  else left ++ lineStart (level + 1) ++ ("," ++ lineStart (level + 1)).intercalate items ++
    lineStart level ++ right

mutual

/-- A document over several lines, starting at a level of indentation. -/
def indentedAt (level : Nat) : Json → String
  | .array items => bracketed "[" "]" level (indentedItems (level + 1) items)
  | .object members => bracketed "\x7b" "\x7d" level (indentedMembers (level + 1) members)
  | .null => "null"
  | .bool b => if b then "true" else "false"
  | .int n => Decimal.ofInt n
  | .float x => floatText x
  | .text s => quotedText s

/-- The items of an array at a level of indentation. -/
def indentedItems (level : Nat) : List Json → List String
  | [] => []
  | j :: rest => indentedAt level j :: indentedItems level rest

/-- The members of an object at a level of indentation. -/
def indentedMembers (level : Nat) : List (String × Json) → List String
  | [] => []
  | (k, j) :: rest => (quotedText k ++ ": " ++ indentedAt level j) :: indentedMembers level rest

end

/-- A document over several lines. -/
def indented (j : Json) : String := indentedAt 0 j

mutual

/-- Whether every whole number in a document is short enough to be written. -/
def isWritable : Json → Bool
  | .int n => Decimal.isWritable n
  | .array items => areWritable items
  | .object members => haveWritable members
  | .null | .bool _ | .float _ | .text _ => true

/-- Whether all items of an array can be written. -/
def areWritable : List Json → Bool
  | [] => true
  | j :: rest => isWritable j && areWritable rest

/-- Whether all members of an object can be written. -/
def haveWritable : List (String × Json) → Bool
  | [] => true
  | (_, j) :: rest => isWritable j && haveWritable rest

end

/-- The member of an object with a name. -/
def field? (j : Json) (name : String) : Option Json :=
  match j with
  | .object members => members.lookup name
  | _ => none

/-- Sets a member of an object: in its place when the name is there, at the end otherwise. -/
def putMember : List (String × Json) → String → Json → List (String × Json)
  | [], name, j => [(name, j)]
  | (k, old) :: rest, name, j =>
    if k = name then (k, j) :: rest else (k, old) :: putMember rest name j

mutual

/-- A JSON document as a document value. -/
def toValue : Json → Document.Value
  | .null => .null
  | .bool b => .bool b
  | .int n => .int n
  | .float x => .float x
  | .text s => .text s
  | .array items => .list (valuesOf items)
  | .object members => .mapping (pairsOf members)

/-- The items of an array as document values. -/
def valuesOf : List Json → List Document.Value
  | [] => []
  | j :: rest => toValue j :: valuesOf rest

/-- The members of an object as pairs of document values. -/
def pairsOf : List (String × Json) → List (Document.Value × Document.Value)
  | [] => []
  | (k, j) :: rest => (.text k, toValue j) :: pairsOf rest

end

end Json

end PointerTrace
