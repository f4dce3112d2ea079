import PointerTrace.Decimal.Binary64
import PointerTrace.Document.Calendar
import PointerTrace.Document.SetOrder
import PointerTrace.Text.Quoted

/- Values of a document: what record lists and settings files are read into, before anything is
   known about their shape. A mapping keeps its pairs in the order of the first use of each key. A
   list or a mapping may hold itself; it is then written `recursive` with a number, and `enclosing` with
   the same number in the places where it stands again inside itself. -/
namespace PointerTrace.Document

/-- A value of a document. -/
inductive Value where
  | null
  | bool (b : Bool)
  | int (n : Int)
  | float (x : Float)
  | ownNaN (number : Nat)
  | text (s : String)
  | bytes (l : List Nat)
  | date (d : Date)
  | moment (m : Moment)
  | list (items : List Value)
  | mapping (pairs : List (Value × Value))
  | set (members : List Value)
  | pair (first second : Value)
  | recursive (number : Nat) (v : Value)
  | enclosing (number : Nat) (isMapping : Bool)
  deriving Inhabited

namespace Value

/-- What stands for a list or a mapping inside itself. -/
def ellipsis (isMapping : Bool) : String := if isMapping then "\x7b...\x7d" else "[...]"

/-- Whether a value is a mapping. -/
def isMapping : Value → Bool
  | .mapping _ => true
  | .recursive _ (.mapping _) => true
  | _ => false

mutual

/-- A value as messages quote it, inside lists and mappings of some numbers. A number that cannot be
    written gives nothing. -/
def quotedInside (around : List Nat) : Value → Option String
  | .null => some "None"
  | .bool b => some (if b then "True" else "False")
  | .int n => if Decimal.isWritable n then some (Decimal.ofInt n) else none
  | .float x => some (Decimal.ofFloat x)
  | .ownNaN _ => some (Decimal.ofFloat (0.0 / 0.0))
  | .text s => some (Text.quoted s)
  | .bytes l => some (Text.quotedBytes l)
  | .date d => some d.call
  | .moment m => some m.call
  | .list items => (quotedItems around items).map fun l => "[" ++ ", ".intercalate l ++ "]"
  | .mapping pairs =>
    (quotedPairs around pairs).map fun l => "\x7b" ++ ", ".intercalate l ++ "\x7d"
  | .set [] => some "set()"
  | .set (m :: members) => do
    let first ← quotedInside around m
    let rest ← quotedItems around members
    return "\x7b" ++ ", ".intercalate (first :: rest) ++ "\x7d"
  | .pair a b => do
    return "(" ++ (← quotedInside around a) ++ ", " ++ (← quotedInside around b) ++ ")"
  | .recursive number v =>
    if around.contains number then some (ellipsis v.isMapping)
    else quotedInside (number :: around) v
  | .enclosing _ isMapping => some (ellipsis isMapping)

/-- The items of a list, each quoted. -/
def quotedItems (around : List Nat) : List Value → Option (List String)
  | [] => some []
  | v :: rest => do return (← quotedInside around v) :: (← quotedItems around rest)

/-- The pairs of a mapping, each with a colon between key and value. -/
def quotedPairs (around : List Nat) : List (Value × Value) → Option (List String)
  | [] => some []
  | (k, v) :: rest => do
    let pair := (← quotedInside around k) ++ ": " ++ (← quotedInside around v)
    return pair :: (← quotedPairs around rest)

end

/-- A value as messages quote it; nothing when it holds a number that cannot be written. The nesting of a
    value is taken to stay below the interpreter's recursion limit, beyond which it has no text either. -/
def quoted? (v : Value) : Option String := quotedInside [] v

/-- A value as plain text: a text is itself, days and moments are written out, and any other value
    is written as messages quote it. -/
def plain? : Value → Option String
  | .text s => some s
  | .date d => some d.text
  | .moment m => some m.text
  | v => v.quoted?

mutual

/-- A value with another one in the places where a number stands inside itself. -/
def replace (number : Nat) (whole : Value) : Value → Value
  | .enclosing n isMapping => if n = number then whole else .enclosing n isMapping
  | .list items => .list (replaceItems number whole items)
  | .mapping pairs => .mapping (replacePairs number whole pairs)
  | .pair a b => .pair (replace number whole a) (replace number whole b)
  | .recursive n v =>
    if n = number then .recursive n v else .recursive n (replace number whole v)
  | v => v

/-- Replaces in all items of a list. -/
def replaceItems (number : Nat) (whole : Value) : List Value → List Value
  | [] => []
  | v :: rest => replace number whole v :: replaceItems number whole rest

/-- Replaces in all values of a mapping. -/
def replacePairs (number : Nat) (whole : Value) : List (Value × Value) → List (Value × Value)
  | [] => []
  | (k, v) :: rest => (k, replace number whole v) :: replacePairs number whole rest

end

/-- A value one level deep as it is: where it stands inside itself, all of it is put. -/
def opened : Value → Value
  | .recursive number v => replace number (.recursive number v) v
  | v => v

mutual

/-- Whether a value has places where a list or a mapping stands inside itself. -/
def hasEnclosing : Value → Bool
  | .enclosing .. => true
  | .list items => itemsHaveEnclosing items
  | .mapping pairs => pairsHaveEnclosing pairs
  | .pair a b => hasEnclosing a || hasEnclosing b
  | .recursive _ v => hasEnclosing v
  | _ => false

/-- Whether an item of a list has such places. -/
def itemsHaveEnclosing : List Value → Bool
  | [] => false
  | v :: rest => hasEnclosing v || itemsHaveEnclosing rest

/-- Whether a value of a mapping has such places. -/
def pairsHaveEnclosing : List (Value × Value) → Bool
  | [] => false
  | (_, v) :: rest => hasEnclosing v || pairsHaveEnclosing rest

end

/-- A list or a mapping with its number, when it may stand inside itself: when it does, or when it stands
    in one that does. -/
def anchored (number : Nat) (v : Value) : Value :=
  if v.hasEnclosing then .recursive number v else v

/-- The number that a truth value counts as. -/
def truthNumber (b : Bool) : Int := if b then 1 else 0

/-- Whether two values are one key. Numbers are compared by value, truth values among them counting
    as one and zero; moments with an offset are compared in universal time. An undefined number is the
    same only as itself. Lists, mappings and sets are no keys. -/
def sameKey : Value → Value → Bool
  | .null, .null => true
  | .text a, .text b => a = b
  | .bytes a, .bytes b => a = b
  | .date a, .date b => a = b
  | .moment a, .moment b => a.sameInstant b
  | .bool a, .bool b => a = b
  | .bool a, .int n => truthNumber a = n
  | .int n, .bool a => truthNumber a = n
  | .int a, .int b => a = b
  | .float x, .float y => x == y || (x.isNaN && y.isNaN)
  | .ownNaN a, .ownNaN b => a = b
  | .float x, .int n => Decimal.equalsInt x n
  | .int n, .float x => Decimal.equalsInt x n
  | .float x, .bool a => Decimal.equalsInt x (truthNumber a)
  | .bool a, .float x => Decimal.equalsInt x (truthNumber a)
  | _, _ => false

/-- Sets the value of a key: in its place when the key is there, at the end otherwise. -/
def put (pairs : List (Value × Value)) (key value : Value) : List (Value × Value) :=
  match pairs with
  | [] => [(key, value)]
  | (k, v) :: rest => if sameKey k key then (k, value) :: rest else (k, v) :: put rest key value

/-- Adds a member to the members of a set, unless it is one of them. -/
def insert (members : List Value) (v : Value) : List Value :=
  if members.any (sameKey · v) then members else members ++ [v]

/-- The value of a text key among pairs. -/
def field? (pairs : List (Value × Value)) (name : String) : Option Value :=
  (pairs.find? fun p => sameKey p.1 (.text name)).map Prod.snd

/-- The word that decides where a number is listed in a set. -/
def setWord? : Value → Option Nat
  | .bool b => some (SetOrder.ofInt (truthNumber b))
  | .int n => some (SetOrder.ofInt n)
  | .float x => SetOrder.ofFloat? x
  | _ => none

/-- The set of some members. Numbers are listed by their words; a set of other members is listed as
    written. -/
def ofMembers (members : List Value) : Value :=
  match members.mapM fun m => m.setWord?.map fun word => (word, m) with
  | some words => .set (SetOrder.arrange words)
  | none => .set members

/-- Whether a document counts as holding nothing: null, false, zero, and empty text, bytes, lists,
    mappings and sets. -/
def isVacant : Value → Bool
  | .null => true
  | .bool b => !b
  | .int n => n = 0
  | .float x => x == 0.0
  | .text s => s = ""
  | .bytes l => l.isEmpty
  | .list items => items.isEmpty
  | .mapping pairs => pairs.isEmpty
  | .set members => members.isEmpty
  | _ => false

end Value

end PointerTrace.Document
