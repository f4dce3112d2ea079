/- White space of any script, and cutting it off the two ends of a text. -/
namespace PointerTrace.Text

/-- White space: the ASCII blanks and line ends, the information separators, and the space
    separators of Unicode. -/
def isBlank (c : Char) : Bool :=
  let n := c.toNat
  (9 ≤ n && n ≤ 13) || (28 ≤ n && n ≤ 32) || n = 0x85 || n = 0xA0 || n = 0x1680 ||
    (0x2000 ≤ n && n ≤ 0x200A) || n = 0x2028 || n = 0x2029 || n = 0x202F || n = 0x205F || n = 0x3000

/-- Cuts white space off the end of a list of characters. -/
def trimEnd (cs : List Char) : List Char := (cs.reverse.dropWhile isBlank).reverse

/-- Cuts white space off both ends of a list of characters. -/
def trimChars (cs : List Char) : List Char := trimEnd (cs.dropWhile isBlank)

/-- The text without white space at its two ends. -/
def trim (s : String) : String := String.ofList (trimChars s.toList)

end PointerTrace.Text
