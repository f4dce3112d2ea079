import PointerTrace.Document.Json
import PointerTrace.Document.Yaml.Scalar

/- Writing documents as YAML: block style, two spaces of indentation a level, ASCII only. A text is
   written plain where that reads back as the same text, in single quotes where its characters
   allow that, and in double quotes otherwise. Lines are folded after column 80 where the style of
   the text allows it. -/
namespace PointerTrace.Document.Yaml

/-- The column after which a line may be folded. -/
def foldColumn : Nat := 80

/-- A blank or a line end, as they matter beside indicators. -/
def isSpacing (c : Char) : Bool :=
  c = ' ' || c = '\t' || c = '\r' || c = '\n' || c.toNat = 0x85 || c.toNat = 0x2028 ||
    c.toNat = 0x2029 || c.toNat = 0

/-- A line end inside a text. -/
def isTextBreak (c : Char) : Bool :=
  c = '\n' || c.toNat = 0x85 || c.toNat = 0x2028 || c.toNat = 0x2029

/-- A character that is written as it is without double quotes. -/
def isOrdinary (c : Char) : Bool := c = '\n' || (32 ≤ c.toNat && c.toNat ≤ 126)

/-- An indicator that no plain text starts with. -/
def isLeadingIndicator (c : Char) : Bool :=
  "#,[]\x7b\x7d&*!|>'\"%@".toList.contains c || c.toNat = 96

/-- Whether an indicator inside a text, seen with the character before each place, keeps it from
    being plain: a colon before a blank, or a number sign after one. -/
def hasInnerIndicator : Char → List Char → Bool
  | _, [] => false
  | before, c :: rest =>
    (c = ':' && (rest.head?.map isSpacing).getD true) || (c = '#' && isSpacing before) ||
      hasInnerIndicator c rest

/-- Whether indicators keep a text from being plain. -/
def hasIndicator (cs : List Char) : Bool :=
  cs.take 3 = ['-', '-', '-'] || cs.take 3 = ['.', '.', '.'] ||
    match cs with
    | [] => false
    | c :: rest => isLeadingIndicator c ||
        ((c = '?' || c = ':' || c = '-') && (rest.head?.map isSpacing).getD true) ||
        hasInnerIndicator c rest

/-- Whether a character of one class stands before one of another. -/
def hasPair (first second : Char → Bool) (cs : List Char) : Bool :=
  (cs.zip cs.tail).any fun p => first p.1 && second p.2

/-- Whether a text starts or ends with a space or a line end. -/
def hasOuterSpace (cs : List Char) : Bool :=
  let outer := fun c => c = ' ' || isTextBreak c
  (cs.head?.map outer).getD false || (cs.getLast?.map outer).getD false

/-- Whether a text may be written plain in a block. -/
def allowsPlain (cs : List Char) : Bool :=
  cs.all isOrdinary && !cs.any isTextBreak && !hasOuterSpace cs && !hasIndicator cs

/-- Whether a text may be written in single quotes: no line starts or ends with a space. -/
def allowsSingle (cs : List Char) : Bool :=
  cs.all isOrdinary && !hasPair (· = ' ') isTextBreak cs && !hasPair isTextBreak (· = ' ') cs

/-- A line end and an indentation. -/
def newLine (indent : Nat) : List Char := '\n' :: List.replicate indent ' '

/-- The words of a plain text and the runs of spaces between them. A single space that is met beyond
    the fold column becomes a line end. -/
def plainRuns (indent : Nat) : Nat → List (List Char) → List Char
  | _, [] => []
  | column, run :: rest =>
    if run = [' '] && foldColumn < column then newLine indent ++ plainRuns indent indent rest
    else run ++ plainRuns indent (column + run.length) rest

/-- The maximal runs of spaces, of line ends, and of other characters. -/
def spaceRuns (cs : List Char) : List (List Char) :=
  cs.splitBy fun a b => (a = ' ') == (b = ' ') && (a = '\n') == (b = '\n')

/-- A plain text at a column. -/
def writePlain (column indent : Nat) (cs : List Char) : List Char :=
  plainRuns indent column (spaceRuns cs)

/-- The runs of a text in single quotes. A single space beyond the fold column becomes a line end
    unless it is first or last; line ends are written once more, since one is folded away. -/
def singleRuns (indent : Nat) : Bool → Nat → List (List Char) → List Char
  | _, _, [] => []
  | first, column, run :: rest =>
    if run.head? = some '\n' then
      '\n' :: run.dropLast ++ newLine indent ++ singleRuns indent false indent rest
    else if run = [' '] && foldColumn < column && !first && rest ≠ [] then
      newLine indent ++ singleRuns indent false indent rest
    else
      let written := run.flatMap fun c => if c = '\'' then ['\'', '\''] else [c]
      written ++ singleRuns indent false (column + written.length) rest

/-- A text in single quotes at a column. -/
def writeSingle (column indent : Nat) (cs : List Char) : List Char :=
  '\'' :: singleRuns indent true (column + 1) (spaceRuns cs) ++ ['\'']

/-- The hexadecimal digit of a number below sixteen, in capitals. -/
def capitalHex (d : Nat) : Char := if d < 10 then Char.ofNat (48 + d) else Char.ofNat (55 + d)

/-- The last `width` hexadecimal digits of a number, in capitals. -/
def capitalDigits : Nat → Nat → List Char
  | 0, _ => []
  | width + 1, n => capitalDigits width (n / 16) ++ [capitalHex (n % 16)]

/-- The letters that stand for characters inside double quotes. -/
def escapeLetters : List (Nat × Char) :=
  [(0, '0'), (7, 'a'), (8, 'b'), (9, 't'), (10, 'n'), (11, 'v'), (12, 'f'), (13, 'r'), (27, 'e'),
    (34, '"'), (92, '\\'), (0x85, 'N'), (0xA0, '_'), (0x2028, 'L'), (0x2029, 'P')]

/-- The escape of a code point inside double quotes, if it needs one. -/
def escapeOf? (n : Nat) : Option (List Char) :=
  match escapeLetters.lookup n with
  | some letter => some ['\\', letter]
  | none =>
    if 32 ≤ n && n ≤ 126 then none
    else if n ≤ 0xFF then some ('\\' :: 'x' :: capitalDigits 2 n)
    else if n ≤ 0xFFFF then some ('\\' :: 'u' :: capitalDigits 4 n)
    else some ('\\' :: 'U' :: capitalDigits 8 n)

/-- The code points of a text inside double quotes. The column is that of the last escape or fold,
    `pending` counts the characters since then, and the flag says that nothing was passed yet. A line
    is folded by a backslash at a space, or after an escape, beyond the fold column, but not beside
    the first or the last character; a space that a folded line starts with is escaped. -/
def doubleText (indent : Nat) : Bool → Nat → Nat → List Nat → List Char
  | _, _, _, [] => []
  | first, column, pending, n :: rest =>
    let inside := !first && rest.length ≥ 1
    match escapeOf? n with
    | some e =>
      let column := column + pending + e.length
      if inside && foldColumn < column - 1 then
        let mark := if rest.head? = some 32 then ['\\'] else []
        e ++ '\\' :: newLine indent ++ mark ++
          doubleText indent false (indent + mark.length) 0 rest
      else e ++ doubleText indent false column 0 rest
    | none =>
      if inside && (n = 32 || pending = 0) && foldColumn < column + pending then
        let mark := if n = 32 then ['\\'] else []
        '\\' :: newLine indent ++ mark ++ Char.ofNat n ::
          doubleText indent false (indent + mark.length) 1 rest
      else Char.ofNat n :: doubleText indent false column (pending + 1) rest

/-- A text in double quotes at a column, given by its code points. -/
def writeDouble (column indent : Nat) (l : List Nat) : List Char :=
  '"' :: doubleText indent true (column + 1) 0 l ++ ['"']

/-- A text at a column, with the indentation of the lines it is folded to. -/
def writeText (column indent : Nat) (s : String) : String :=
  let cs := s.toList
  String.ofList (
    if Tag.ofPlain s = .text && allowsPlain cs then writePlain column indent cs
    else if allowsSingle cs then writeSingle column indent cs
    else writeDouble column indent (Text.points s))

/-- A value that is no collection, at a column. -/
def writeScalar (column indent : Nat) : Json → String
  | .null => "null"
  | .bool b => if b then "true" else "false"
  | .int n => Decimal.ofInt n
  | .float x => Decimal.ofFloat x
  | .text s => writeText column indent s
  | .array _ => "[]"
  | .object _ => "\x7b\x7d"

/-- The start of a line at an indentation. -/
def lineAt (indent : Nat) : String := String.ofList (newLine indent)

mutual

/-- The value of a pair whose key, with its colon, ends at a column. The entries of a list stand at
    the indentation of the mapping itself. -/
def writeMember (indent column : Nat) : Json → String
  | .array (item :: items) => writeItems indent (item :: items)
  | .object (m :: ms) => lineAt (indent + 2) ++ writeMembers (indent + 2) (m :: ms)
  | j => " " ++ writeScalar (column + 1) (indent + 2) j

/-- The entries of a list, each on a line of its own. -/
def writeItems (indent : Nat) : List Json → String
  | [] => ""
  | item :: rest => lineAt indent ++ "- " ++ writeItem indent item ++ writeItems indent rest

/-- An entry of a list at an indentation, after its hyphen. -/
def writeItem (indent : Nat) : Json → String
  | .array (item :: items) =>
    "- " ++ writeItem (indent + 2) item ++ writeItems (indent + 2) items
  | .object (m :: ms) => writeMembers (indent + 2) (m :: ms)
  | j => writeScalar (indent + 2) (indent + 2) j

/-- The pairs of a mapping; all but the first start a line. Keys are short names. -/
def writeMembers (indent : Nat) : List (String × Json) → String
  | [] => ""
  | (key, j) :: rest =>
    key ++ ":" ++ writeMember indent (indent + key.length + 1) j ++
      (if rest.isEmpty then "" else lineAt indent) ++ writeMembers indent rest

end

/-- A mapping as a YAML document. -/
def write (members : List (String × Json)) : String := writeMembers 0 members ++ "\n"

end PointerTrace.Document.Yaml
