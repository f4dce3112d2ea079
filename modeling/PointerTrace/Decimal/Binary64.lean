import PointerTrace.Decimal.Literal
import PointerTrace.Decimal.Shortest

/- Doubles and decimal numbers: reading a decimal fraction as a double, reading a double as people type
   it, and comparing a double with a whole number exactly. -/
namespace PointerTrace.Decimal

/-- The double nearest to digits · 10^exponent. Exponents far outside the range of doubles give
    infinity or zero without being computed. -/
def toFloat (digits : List Char) (exponent : Int) : Float :=
  let m := value digits
  let first := exponent + (Decimal.digits m).length
  if m = 0 || first < -400 then 0.0
  else if 400 < first then 1.0 / 0.0
  else Float.ofScientific m (exponent < 0) exponent.natAbs

/-- The double of a decimal given as the digits before the point, those after it, and a power of
    ten. -/
def fraction (whole part : List Char) (power : Int) : Float :=
  toFloat (whole ++ part) (power - part.length)

/-- A digit of any script as an ASCII digit; other characters stay. -/
def asciiDigit (c : Char) : Char :=
  match digitOf? c with
  | some d => if d < 10 then digitChar d else c
  | none => c

/-- Splits off a sign; the flag says that it is a minus sign. -/
def splitSign : List Char → Bool × List Char
  | '-' :: rest => (true, rest)
  | '+' :: rest => (false, rest)
  | rest => (false, rest)

/-- The power of ten that a text after the digits of a number gives: none at all, or digits after a
    small e, possibly with a sign. -/
def power? : List Char → Option Int
  | [] => some 0
  | 'e' :: rest =>
    let (negative, ds) := splitSign rest
    if ds ≠ [] && ds.all Char.isDigit then
      some (if negative then -(value ds : Int) else value ds)
    else none
  | _ => none

/-- Reads a double without sign, in small letters and ASCII digits: digits with at most one point
    among them and possibly a power of ten, infinity, or the undefined number. -/
def readMagnitude? (cs : List Char) : Option Float :=
  if cs = "inf".toList || cs = "infinity".toList then some (1.0 / 0.0)
  else if cs = "nan".toList then some (0.0 / 0.0)
  else
    let whole := cs.takeWhile Char.isDigit
    let (part, rest) := match cs.drop whole.length with
      | '.' :: rest => (rest.takeWhile Char.isDigit, rest.dropWhile Char.isDigit)
      | rest => ([], rest)
    if whole = [] && part = [] then none else (power? rest).map (fraction whole part)

/-- Reads a double in small letters, with padding around it and a sign. -/
def readFloat? (cs : List Char) : Option Float :=
  let (negative, rest) := splitSign ((trimPadding cs).map asciiDigit)
  (readMagnitude? rest).map fun x => if negative then -x else x

/-- Whether a double is exactly a whole number. -/
def equalsInt (x : Float) (n : Int) : Bool :=
  match Parts.ofFloat x with
  | .finite negative m q =>
    let signed : Int := if negative then -(m : Int) else m
    if 0 ≤ q then signed * (Nat.pow 2 q.toNat : Int) = n else signed = n * (Nat.pow 2 (-q).toNat : Int)
  | _ => false

end PointerTrace.Decimal
