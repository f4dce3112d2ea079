import PointerTrace.Decimal.Integer
import PointerTrace.Text.CodePoint
import PointerTrace.Text.Printable

/- Text as messages quote it. The quote is single, unless the text holds a single quote and no
   double one. The quote and the backslash are escaped by a backslash, the tab, the line feed and
   the carriage return have letters, and any other code point that is not printable is written by
   its number in two, four or eight small hexadecimal digits. -/
namespace PointerTrace.Text

/-- The hexadecimal digit of a number below sixteen, in small letters. -/
def hexChar (d : Nat) : Char := if d < 10 then Char.ofNat (48 + d) else Char.ofNat (87 + d)

/-- The last `width` hexadecimal digits of a number. -/
def hexDigits : Nat → Nat → List Char
  | 0, _ => []
  | width + 1, n => hexDigits width (n / 16) ++ [hexChar (n % 16)]

/-- A code point by its number. -/
def numbered (n : Nat) : List Char :=
  if n < 0x100 then '\\' :: 'x' :: hexDigits 2 n
  else if n < 0x10000 then '\\' :: 'u' :: hexDigits 4 n
  else '\\' :: 'U' :: hexDigits 8 n

/-- A character inside quotes. -/
def quotedChar (quote c : Char) : List Char :=
  if c = quote || c = '\\' then ['\\', c]
  else if c = '\t' then ['\\', 't']
  else if c = '\n' then ['\\', 'n']
  else if c = '\r' then ['\\', 'r']
  else if isPrintable c then [c]
  else numbered c.toNat

/-- A code point inside quotes; half of a surrogate pair is not printable. -/
def quotedPoint (quote : Char) (n : Nat) : List Char :=
  if isHalf n then numbered n else quotedChar quote (Char.ofNat n)

/-- The quote that a text is put in. -/
def quoteFor (cs : List Char) : Char :=
  if cs.contains '\'' && !cs.contains '"' then '"' else '\''

/-- A byte inside quotes; only ASCII is printable. -/
def quotedByte (quote : Char) (b : Nat) : List Char :=
  if b < 127 then quotedChar quote (Char.ofNat b) else '\\' :: 'x' :: hexDigits 2 b

/-- Bytes in quotes, with a letter in front. -/
def quotedBytes (l : List Nat) : String :=
  let quote := quoteFor (l.map Char.ofNat)
  String.ofList ('b' :: quote :: l.flatMap (quotedByte quote) ++ [quote])

/-- A text in quotes. -/
def quoted (s : String) : String :=
  let quote := quoteFor s.toList
  String.ofList (quote :: (points s).flatMap (quotedPoint quote) ++ [quote])

end PointerTrace.Text
