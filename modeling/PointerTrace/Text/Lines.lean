/- Lines of a text. Two ways of ending a line are kept apart: a displayed line ends at any of the
   line boundaries of Unicode, and a stored text has each carriage return, alone or before a line
   feed, replaced by one line feed when it is read. -/
namespace PointerTrace.Text

/-- A character that ends a displayed line. -/
def endsLine (c : Char) : Bool :=
  let n := c.toNat
  (10 ≤ n && n ≤ 13) || (28 ≤ n && n ≤ 30) || n = 0x85 || n = 0x2028 || n = 0x2029

/-- Splits into lines without their ends, the characters of the open line being given in
    reverse. A carriage return with a line feed is one end, and an end at the very end of the
    text opens no further line. -/
def linesFrom : List Char → List Char → List (List Char)
  | [], [] => []
  | line, [] => [line.reverse]
  | line, '\r' :: '\n' :: rest => line.reverse :: linesFrom [] rest
  | line, c :: rest => if endsLine c then line.reverse :: linesFrom [] rest
    else linesFrom (c :: line) rest

/-- The displayed lines of a text. -/
def lines (s : String) : List String := (linesFrom [] s.toList).map String.ofList

/-- Replaces each carriage return, alone or before a line feed, by a line feed. -/
def plainNewlines : List Char → List Char
  | '\r' :: '\n' :: rest => '\n' :: plainNewlines rest
  | '\r' :: rest => '\n' :: plainNewlines rest
  | c :: rest => c :: plainNewlines rest
  | [] => []

end PointerTrace.Text
