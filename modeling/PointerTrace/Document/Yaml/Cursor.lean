import PointerTrace.Document.Yaml.Scalar

/- A place in the characters of a document. The end of the document is seen as a null character,
   which no document holds. Columns count characters since the last line end; a byte order mark has
   no width. -/
namespace PointerTrace.Document.Yaml

/-- The character that stands for the end. -/
def endMark : Char := Char.ofNat 0

/-- A character that a document may hold: the line ends, the tab, and what Unicode calls a
    character, without controls, surrogates and the byte order mark read backwards. -/
def isDocumentChar (c : Char) : Bool :=
  let n := c.toNat
  n = 9 || n = 10 || n = 13 || (0x20 ≤ n && n ≤ 0x7E) || n = 0x85 || (0xA0 ≤ n && n ≤ 0xD7FF) ||
    (0xE000 ≤ n && n ≤ 0xFFFD) || 0x10000 ≤ n

/-- A character that ends a line. -/
def isBreak (c : Char) : Bool :=
  c = '\r' || c = '\n' || c.toNat = 0x85 || c.toNat = 0x2028 || c.toNat = 0x2029

/-- A line end, or the end. -/
def isBreakOrEnd (c : Char) : Bool := isBreak c || c = endMark

/-- A space, a line end, or the end. -/
def isSpaceBreakOrEnd (c : Char) : Bool := c = ' ' || isBreakOrEnd c

/-- A blank, a line end, or the end. -/
def isBlankOrEnd (c : Char) : Bool := c = '\t' || isSpaceBreakOrEnd c

/-- A place in a document. -/
structure Cursor where
  rest : List Char
  index : Nat
  line : Nat
  column : Nat
  deriving DecidableEq, Repr

namespace Cursor

/-- The start of a document. -/
def ofChars (cs : List Char) : Cursor := ⟨cs, 0, 0, 0⟩

/-- The character at this place. -/
def head (k : Cursor) : Char := k.rest.head?.getD endMark

/-- The character a number of places ahead. -/
def peek (k : Cursor) (ahead : Nat) : Char := (k.rest[ahead]?).getD endMark

/-- The place after one character. -/
def next (k : Cursor) : Cursor :=
  match k.rest with
  | [] => k
  | c :: rest =>
    if c ≠ '\r' && isBreak c || (c = '\r' && rest.head? ≠ some '\n') then
      ⟨rest, k.index + 1, k.line + 1, 0⟩
    else ⟨rest, k.index + 1, k.line, if c.toNat = 0xFEFF then k.column else k.column + 1⟩

/-- The place after a number of characters. -/
def skip (k : Cursor) : Nat → Cursor
  | 0 => k
  | n + 1 => k.next.skip n

/-- The longest run of characters of a class. -/
def run (k : Cursor) (holds : Char → Bool) : List Char := k.rest.takeWhile holds

/-- The place after the longest run of characters of a class. -/
def skipRun (k : Cursor) (holds : Char → Bool) : Cursor := k.skip (k.run holds).length

/-- Reads a line end. Carriage return, line feed, both together and the next-line character all
    read as a line feed; the two Unicode separators are kept. -/
def lineBreak? (k : Cursor) : Option (Char × Cursor) :=
  let c := k.head
  if c = '\r' && k.peek 1 = '\n' then some ('\n', k.skip 2)
  else if c = '\r' || c = '\n' || c.toNat = 0x85 then some ('\n', k.next)
  else if c.toNat = 0x2028 || c.toNat = 0x2029 then some (c, k.next)
  else none

/-- Whether three hyphens or three points with a blank after them stand here. -/
def isSeparator (k : Cursor) : Bool :=
  (k.rest.take 3 = ['-', '-', '-'] || k.rest.take 3 = ['.', '.', '.']) && isBlankOrEnd (k.peek 3)

/-- Skips the rest of a line that may hold spaces and a comment only, with its end. -/
def skipIgnoredLine (k : Cursor) : Except Fault Cursor :=
  let k := k.skipRun (· = ' ')
  let k := if k.head = '#' then k.skipRun (!isBreakOrEnd ·) else k
  if isBreakOrEnd k.head then .ok ((k.lineBreak?.map Prod.snd).getD k) else .error .malformed

/-- Skips spaces, comments and line ends up to the next token, and says whether a line end was among
    them. -/
def skipGaps (k : Cursor) : Cursor × Bool := go k.rest.length k false false
where
  go : Nat → Cursor → (inComment sawBreak : Bool) → Cursor × Bool
    | 0, k, _, sawBreak => (k, sawBreak)
    | more + 1, k, inComment, sawBreak =>
      let c := k.head
      if isBreak c then go more k.next false true
      else if k.rest.isEmpty then (k, sawBreak)
      else if inComment || c = ' ' then go more k.next inComment sawBreak
      else if c = '#' then go more k.next true sawBreak
      else (k, sawBreak)

end Cursor

end PointerTrace.Document.Yaml
