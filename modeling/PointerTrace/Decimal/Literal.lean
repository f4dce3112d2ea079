import PointerTrace.Decimal.Integer
import PointerTrace.Text.Blank
import PointerTrace.Text.CodePointSet

/- Reading whole numbers as people type them: blanks around, a sign, digits of any script with
   single underscores between them and, in bases other than ten, the mark of the base in front. -/
namespace PointerTrace.Decimal

/-- The zeros of the scripts that have ten digits in a row, above ASCII. -/
def digitZeros : List Nat := [
  0x660, 0x6F0, 0x7C0, 0x966, 0x9E6, 0xA66, 0xAE6, 0xB66, 0xBE6, 0xC66, 0xCE6, 0xD66, 0xDE6,
  0xE50, 0xED0, 0xF20, 0x1040, 0x1090, 0x17E0, 0x1810, 0x1946, 0x19D0, 0x1A80, 0x1A90, 0x1B50,
  0x1BB0, 0x1C40, 0x1C50, 0xA620, 0xA8D0, 0xA900, 0xA9D0, 0xA9F0, 0xAA50, 0xABF0, 0xFF10,
  0x104A0, 0x10D30, 0x11066, 0x110F0, 0x11136, 0x111D0, 0x112F0, 0x11450, 0x114D0, 0x11650,
  0x116C0, 0x11730, 0x118E0, 0x11950, 0x11C50, 0x11D50, 0x11DA0, 0x16A60, 0x16AC0, 0x16B50,
  0x1D7CE, 0x1D7D8, 0x1D7E2, 0x1D7EC, 0x1D7F6, 0x1E140, 0x1E2F0, 0x1E950, 0x1FBF0]

/-- The value of a digit of any script or, above nine, of an ASCII letter. -/
def digitOf? (c : Char) : Option Nat :=
  if c.isDigit then some (c.toNat - 48)
  else if 'a' ≤ c && c ≤ 'z' then some (c.toNat - 87)
  else if 'A' ≤ c && c ≤ 'Z' then some (c.toNat - 55)
  else (digitZeros.find? fun first => first ≤ c.toNat && c.toNat ≤ first + 9).map (c.toNat - ·)

/-- The values of digits in a base, where a single underscore may stand between two digits. -/
def digitValues (base : Nat) : List Char → Option (List Nat)
  | [] => none
  | [c] => (digitOf? c).bind fun d => if d < base then some [d] else none
  | c :: '_' :: rest => do
    let d ← digitOf? c
    let ds ← digitValues base rest
    if d < base then some (d :: ds) else none
  | c :: rest => do
    let d ← digitOf? c
    let ds ← digitValues base rest
    if d < base then some (d :: ds) else none

/-- Leaves out the mark of a base in front of its digits, with one underscore after it. -/
def dropBaseMark (base : Nat) (cs : List Char) : List Char :=
  let mark := match base with
    | 2 => ['b', 'B']
    | 8 => ['o', 'O']
    | 16 => ['x', 'X']
    | _ => []
  match cs with
  | '0' :: m :: '_' :: rest => if m ∈ mark then rest else cs
  | '0' :: m :: rest => if m ∈ mark then rest else cs
  | _ => cs

/-- Why a text is no whole number. -/
inductive LiteralFault where
  | notInteger
  | tooManyDigits (count : Nat)
  deriving DecidableEq, Repr

/-- Whether the base is a power of two, so that the number of digits is not limited. -/
def isBinaryBase (base : Nat) : Bool := base = 2 || base = 8 || base = 16

/-- Reads the digits of a number without sign. -/
def readMagnitude (base : Nat) (cs : List Char) : Except LiteralFault Nat :=
  match digitValues base (dropBaseMark base cs) with
  | none => .error .notInteger
  | some ds =>
    if !isBinaryBase base && literalLimit < ds.length then .error (.tooManyDigits ds.length)
    else .ok (ds.foldl (fun n d => base * n + d) 0)

/-- White space that may stand around a number: any but the information separators. -/
def isPadding (c : Char) : Bool := Text.isBlank c && !(28 ≤ c.toNat && c.toNat ≤ 31)

/-- Cuts padding off both ends of a number. -/
def trimPadding (cs : List Char) : List Char :=
  ((cs.dropWhile isPadding).reverse.dropWhile isPadding).reverse

/-- Reads a whole number in a base. -/
def readInt (base : Nat) (cs : List Char) : Except LiteralFault Int :=
  match trimPadding cs with
  | '-' :: rest => (fun n : Nat => -(n : Int)) <$> readMagnitude base rest
  | '+' :: rest => Int.ofNat <$> readMagnitude base rest
  | rest => Int.ofNat <$> readMagnitude base rest

end PointerTrace.Decimal
