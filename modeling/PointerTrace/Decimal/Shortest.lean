import PointerTrace.Decimal.Integer

/- The shortest decimal of a double. A finite double is m · 2^q; the reals that round to it form an
   interval whose ends belong to it exactly when m is even. On the grid of decimals with n
   significant digits the two neighbours of the double are tried, for n = 1, 2, … 17, in exact
   arithmetic; the first grid with a neighbour inside the interval gives the digits, and of two
   such neighbours the nearer one is taken, on a tie the even one. -/
namespace PointerTrace.Decimal

/-- A positive real as numerator over denominator. -/
structure Ratio where
  num : Nat
  den : Nat

/-- m · 2^q. -/
def Ratio.dyadic (m : Nat) (q : Int) : Ratio :=
  if 0 ≤ q then ⟨m * Nat.pow 2 q.toNat, 1⟩ else ⟨m, Nat.pow 2 (-q).toNat⟩

/-- d · 10^k. -/
def Ratio.decimal (d : Nat) (k : Int) : Ratio :=
  if 0 ≤ k then ⟨d * Nat.pow 10 k.toNat, 1⟩ else ⟨d, Nat.pow 10 (-k).toNat⟩

/-- Order of ratios, by cross-multiplication. -/
def Ratio.lt (a b : Ratio) : Bool := a.num * b.den < b.num * a.den

/-- Order of ratios with equality. -/
def Ratio.le (a b : Ratio) : Bool := a.num * b.den ≤ b.num * a.den

/-- The distance of two ratios. -/
def Ratio.distance (a b : Ratio) : Ratio :=
  ⟨(a.num * b.den - b.num * a.den) + (b.num * a.den - a.num * b.den), a.den * b.den⟩

/-- The reals that round to a double. -/
structure Rounding where
  low : Ratio
  high : Ratio
  closed : Bool

/-- Whether a real rounds to the double. -/
def Rounding.holds (r : Rounding) (x : Ratio) : Bool :=
  if r.closed then r.low.le x && x.le r.high else r.low.lt x && x.lt r.high

/-- The rounding interval of m · 2^q. Below a power of two the gap to the next smaller double is
    half as wide, except at the smallest exponent. -/
def Rounding.of (m : Nat) (q : Int) : Rounding :=
  let narrow := m = Nat.pow 2 52 && q ≠ -1074
  ⟨if narrow then .dyadic (4 * m - 1) (q - 2) else .dyadic (2 * m - 1) (q - 1),
    .dyadic (2 * m + 1) (q - 1), m % 2 = 0⟩

/-- The largest k with 10^k ≤ x, found by counting digits and one comparison. -/
def Ratio.magnitude (x : Ratio) : Int :=
  let guess : Int := (digits x.num).length - (digits x.den).length
  if (Ratio.decimal 1 guess).le x then guess else guess - 1

/-- A decimal: its digits as a number, and the power of ten of its last digit. -/
structure Scaled where
  digits : Nat
  exponent : Int
  deriving DecidableEq, Repr

/-- The neighbour of x among the multiples of 10^k that rounds back to the double, the nearer one
    when both do. -/
def onGrid? (r : Rounding) (x : Ratio) (k : Int) : Option Scaled :=
  let unit := Ratio.decimal 1 k
  let below := (x.num * unit.den) / (x.den * unit.num)
  let fits := fun d => 0 < d && r.holds (.decimal d k)
  match fits below, fits (below + 1) with
  | true, true =>
    let down := x.distance (.decimal below k)
    let up := x.distance (.decimal (below + 1) k)
    if down.lt up || (down.le up && below % 2 = 0) then some ⟨below, k⟩ else some ⟨below + 1, k⟩
  | true, false => some ⟨below, k⟩
  | false, true => some ⟨below + 1, k⟩
  | false, false => none

/-- The first hit among the grids from n digits on, with `left` grids to try. -/
def search (r : Rounding) (x : Ratio) (top : Int) : Nat → Nat → Scaled
  | _, 0 => ⟨0, 0⟩
  | n, left + 1 => (onGrid? r x (top - n)).getD (search r x top (n + 1) left)

/-- The shortest decimal that rounds to m · 2^q. -/
def shortest (m : Nat) (q : Int) : Scaled :=
  let x := Ratio.dyadic m q
  search (.of m q) x x.magnitude 0 18

/-- A double taken apart. -/
inductive Parts where
  | nan
  | infinite (negative : Bool)
  | finite (negative : Bool) (m : Nat) (q : Int)

/-- Takes a double apart by its bits. -/
def Parts.ofFloat (x : Float) : Parts :=
  let bits := x.toBits.toNat
  let negative := bits / Nat.pow 2 63 = 1
  let exponent : Nat := bits / Nat.pow 2 52 % 2048
  let fraction : Nat := bits % Nat.pow 2 52
  if exponent = 2047 then if fraction = 0 then .infinite negative else .nan
  else if exponent = 0 then .finite negative fraction (-1074)
  else .finite negative (Nat.pow 2 52 + fraction) ((exponent : Int) - 1075)

/-- How digits are laid out: positionally while the power of ten of the first digit lies in a
    range, otherwise with an exponent of at least two digits. -/
structure Layout where
  lowest : Int
  highest : Int

/-- Floating-point values in messages: positional from 10^-4 up to 10^15. -/
def messageLayout : Layout := ⟨-4, 15⟩

/-- Writes a nonzero decimal. -/
def Layout.write (l : Layout) (s : Scaled) : String :=
  let ds := Decimal.digits s.digits
  let first : Int := s.exponent + ds.length - 1
  if l.lowest ≤ first && first ≤ l.highest then
    if first < 0 then
      "0." ++ String.ofList (List.replicate (-first - 1).toNat '0') ++ String.ofList ds
    else if 0 ≤ s.exponent then
      String.ofList (ds ++ List.replicate s.exponent.toNat '0') ++ ".0"
    else
      let whole := (first + 1).toNat
      String.ofList (ds.take whole) ++ "." ++ String.ofList (ds.drop whole)
  else
    let mantissa := match ds with
      | [d] => String.ofList [d]
      | d :: rest => String.ofList (d :: '.' :: rest)
      | [] => ""
    let power := Decimal.digits first.natAbs
    mantissa ++ "e" ++ (if first < 0 then "-" else "+") ++
      String.ofList (List.replicate (2 - power.length) '0' ++ power)

/-- Drops the zeros at the end of a decimal's digits, at most `left` of them. -/
def Scaled.trim (s : Scaled) : Nat → Scaled
  | 0 => s
  | left + 1 => if s.digits ≠ 0 && s.digits % 10 = 0 then
      Scaled.trim ⟨s.digits / 10, s.exponent + 1⟩ left else s

/-- A double as messages write it. -/
def ofFloat (x : Float) : String :=
  match Parts.ofFloat x with
  | .nan => "nan"
  | .infinite negative => if negative then "-inf" else "inf"
  | .finite negative m q =>
    (if negative then "-" else "") ++
      if m = 0 then "0.0" else messageLayout.write ((shortest m q).trim 20)

end PointerTrace.Decimal
