import PointerTrace.Document.Yaml.Cursor

/- The texts of scalars in a document: plain, in single or double quotes, and as a block of lines.
   Each reader starts at the first character of the scalar and gives the text and the place after
   it. A line end inside a plain or quoted scalar folds to a space, and further line ends are
   kept. -/
namespace PointerTrace.Document.Yaml

/-- The text that a line end and the line ends after it fold to. -/
def fold (first : Char) (later : List Char) : List Char :=
  if first ≠ '\n' then first :: later else if later = [] then [' '] else later

/-- Reads the blank lines inside a quoted scalar, which must not hold a document separator. -/
def quotedBreaks : Nat → Cursor → Except Fault (List Char × Cursor)
  | 0, _ => .error .malformed
  | more + 1, k =>
    if k.isSeparator then .error .malformed
    else
      let k := k.skipRun fun c => c = ' ' || c = '\t'
      match k.lineBreak? with
      | some (c, k) => (fun (cs, k) => (c :: cs, k)) <$> quotedBreaks more k
      | none => .ok ([], k)

/-- The character that a letter escapes inside double quotes. -/
def escape? (c : Char) : Option Char :=
  match c with
  | '0' => some (Char.ofNat 0)
  | 'a' => some (Char.ofNat 7)
  | 'b' => some (Char.ofNat 8)
  | 't' | '\t' => some '\t'
  | 'n' => some '\n'
  | 'v' => some (Char.ofNat 11)
  | 'f' => some (Char.ofNat 12)
  | 'r' => some '\r'
  | 'e' => some (Char.ofNat 27)
  | ' ' | '"' | '\\' | '/' => some c
  | 'N' => some (Char.ofNat 0x85)
  | '_' => some (Char.ofNat 0xA0)
  | 'L' => some (Char.ofNat 0x2028)
  | 'P' => some (Char.ofNat 0x2029)
  | _ => none

/-- How many hexadecimal digits follow a letter inside double quotes. -/
def escapeWidth? (c : Char) : Option Nat :=
  match c with
  | 'x' => some 2
  | 'u' => some 4
  | 'U' => some 8
  | _ => none

/-- A hexadecimal digit. -/
def isHexDigit (c : Char) : Bool := c.isDigit || ('a' ≤ c && c ≤ 'f') || ('A' ≤ c && c ≤ 'F')

/-- The number that hexadecimal digits stand for. -/
def hexValue (cs : List Char) : Nat :=
  cs.foldl (fun n c => 16 * n + (Decimal.digitOf? c).getD 0) 0

/-- Reads an escape inside double quotes, after its backslash. -/
def readEscape (k : Cursor) : Except Fault (List Char × Cursor) :=
  match escape? k.head, escapeWidth? k.head with
  | some c, _ => .ok ([c], k.next)
  | none, some width =>
    let ds := k.rest.tail.take width
    if ds.length = width && ds.all isHexDigit then
      let n := hexValue ds
      if 0x7FFFFFFF < n then .error (.scalar .codePointOverflow)
      else if 0x10FFFF < n then .error (.scalar .codePointRange)
      else .ok (Text.held n, k.skip (width + 1))
    else .error .malformed
  | none, none =>
    match k.lineBreak? with
    | some (_, k) => quotedBreaks (k.rest.length + 1) k
    | none => .error .malformed

/-- Reads blanks inside a quoted scalar, folding a line end. -/
def quotedBlanks (k : Cursor) : Except Fault (List Char × Cursor) :=
  let blank := fun c : Char => c = ' ' || c = '\t'
  let after := k.skipRun blank
  match after.lineBreak? with
  | some (c, later) => do
    let (cs, later) ← quotedBreaks (later.rest.length + 1) later
    return (fold c cs, later)
  | none => .ok (k.run blank, after)

/-- Reads the text of a quoted scalar after its opening quote. -/
def quotedText (isDouble : Bool) : Nat → Cursor → Except Fault (List Char × Cursor)
  | 0, _ => .error .malformed
  | more + 1, k =>
    let c := k.head
    let continueWith := fun (cs, k) =>
      (fun (later, k) => (cs ++ later, k)) <$> quotedText isDouble more k
    if k.rest = [] then .error .malformed
    else if isDouble && c = '"' then .ok ([], k.next)
    else if !isDouble && c = '\'' then
      if k.peek 1 = '\'' then continueWith (['\''], k.skip 2) else .ok ([], k.next)
    else if isDouble && c = '\\' then do continueWith (← readEscape k.next)
    else if c = ' ' || c = '\t' || isBreak c then do continueWith (← quotedBlanks k)
    else continueWith (Text.held c.toNat, k.next)

/-- Reads a quoted scalar. -/
def readQuoted (isDouble : Bool) (k : Cursor) : Except Fault (String × Cursor) :=
  (fun (cs, k) => (String.ofList cs, k)) <$> quotedText isDouble (k.rest.length + 1) k.next

/-- The characters of a plain scalar up to the next blank, line end or indicator. -/
def plainRun (inFlow : Bool) : List Char → List Char
  | [] => []
  | c :: rest =>
    let after := rest.head?.getD endMark
    if isBlankOrEnd c ||
        (c = ':' && (isBlankOrEnd after || (inFlow && [',', '[', ']', '{', '}'].contains after))) ||
        (inFlow && [',', '?', '[', ']', '{', '}'].contains c) then []
    else c :: plainRun inFlow rest

/-- What stands between two runs of a plain scalar: the text it folds to, the place after it, and
    whether it holds a line end. A document separator at the start of a line ends the scalar. -/
def plainGap (k : Cursor) : Option (List Char) × Cursor × Bool :=
  let after := k.skipRun (· = ' ')
  match after.lineBreak? with
  | none => (some (k.run (· = ' ')), after, false)
  | some (c, later) =>
    if later.isSeparator then (none, later, true)
    else
      let (breaks, later) := go (later.rest.length) later
      (breaks.map (fold c), later, true)
where
  go : Nat → Cursor → Option (List Char) × Cursor
    | 0, k => (some [], k)
    | more + 1, k =>
      if k.head = ' ' then go more k.next
      else match k.lineBreak? with
        | none => (some [], k)
        | some (c, k) =>
          if k.isSeparator then (none, k)
          else
            let (cs, k) := go more k
            (cs.map (c :: ·), k)

/-- A plain scalar as read: its text, the place after it, and whether a key may follow there, since
    a line end was passed after its last run. -/
structure Plain where
  text : List Char
  after : Cursor
  keyAllowed : Bool

/-- Reads the runs of a plain scalar. In block context a run that starts left of `indent` belongs to
    something else. -/
def plainText (inFlow : Bool) (indent : Int) : Nat → List Char → Bool → Cursor → Plain
  | 0, _, keyAllowed, k => ⟨[], k, keyAllowed⟩
  | more + 1, gap, keyAllowed, k =>
    let run := plainRun inFlow k.rest
    if k.head = '#' || run = [] then ⟨[], k, keyAllowed⟩
    else
      let (gapAfter, after, sawBreak) := plainGap (k.skip run.length)
      match gapAfter with
      | some (c :: cs) =>
        if after.head = '#' || (!inFlow && (after.column : Int) < indent) then
          ⟨gap ++ run, after, sawBreak⟩
        else
          let later := plainText inFlow indent more (c :: cs) sawBreak after
          { later with text := gap ++ run ++ later.text }
      | _ => ⟨gap ++ run, after, sawBreak⟩

/-- Reads a plain scalar. -/
def readPlain (inFlow : Bool) (indent : Int) (k : Cursor) : Plain :=
  plainText inFlow indent (k.rest.length + 1) [] false k

/-- What a block scalar does with the line ends at its end. -/
inductive Chomp where
  | strip
  | clip
  | keep
  deriving DecidableEq, Repr

/-- The chomping that a character asks for. -/
def Chomp.ofChar? : Char → Option Chomp
  | '+' => some .keep
  | '-' => some .strip
  | _ => none

/-- The indentation that a character asks for; zero is refused. -/
def indentDigit? (c : Char) : Except Fault (Option Nat) :=
  if c = '0' then .error .malformed
  else .ok (if c.isDigit then some (c.toNat - 48) else none)

/-- Reads the header of a block scalar: chomping and indentation in either order. -/
def blockHeader (k : Cursor) : Except Fault (Chomp × Option Nat × Cursor) := do
  let (chomp, indent, k) ← match Chomp.ofChar? k.head with
    | some chomp => do
      match ← indentDigit? k.next.head with
      | some n => pure (chomp, some n, k.skip 2)
      | none => pure (chomp, none, k.next)
    | none => do
      match ← indentDigit? k.head with
      | some n => match Chomp.ofChar? k.next.head with
        | some chomp => pure (chomp, some n, k.skip 2)
        | none => pure (.clip, some n, k.next)
      | none => pure (.clip, none, k)
  if isSpaceBreakOrEnd k.head then return (chomp, indent, ← k.skipIgnoredLine)
  else throw .malformed

/-- Reads the blank lines at the start of a block scalar whose indentation is not given: their line
    ends, the widest indentation seen, and the place after them. -/
def blockStart : Nat → Cursor → List Char × Nat × Cursor
  | 0, k => ([], 0, k)
  | more + 1, k =>
    if k.head = ' ' then
      let (cs, widest, later) := blockStart more k.next
      (cs, max widest k.next.column, later)
    else match k.lineBreak? with
      | some (c, k) =>
        let (cs, widest, later) := blockStart more k
        (c :: cs, widest, later)
      | none => ([], 0, k)

/-- Skips spaces up to a column. -/
def skipIndent (indent : Nat) (k : Cursor) : Cursor :=
  k.skip (min (k.run (· = ' ')).length (indent - k.column))

/-- Reads blank lines of a block scalar and the indentation after them. -/
def blockBreaks (indent : Nat) : Nat → Cursor → List Char × Cursor
  | 0, k => ([], k)
  | more + 1, k =>
    let k := skipIndent indent k
    match k.lineBreak? with
    | some (c, k) =>
      let (cs, k) := blockBreaks indent more k
      (c :: cs, k)
    | none => ([], k)

/-- Reads the lines of a block scalar, with the line ends before the first one. The text up to the
    last line, the last line end and the line ends after it are kept apart, for chomping. -/
def blockLines (folded : Bool) (indent : Nat) :
    Nat → List Char → Cursor → List Char × List Char × List Char × Cursor
  | 0, breaks, k => ([], [], breaks, k)
  | more + 1, breaks, k =>
    if k.column = indent && k.rest ≠ [] then
      let indented := k.head = ' ' || k.head = '\t'
      let line := k.run (!isBreakOrEnd ·)
      let k := k.skip line.length
      let (lineEnd, k) := match k.lineBreak? with
        | some (c, k) => ([c], k)
        | none => ([], k)
      let (later, k) := blockBreaks indent (k.rest.length + 1) k
      if k.column = indent && k.rest ≠ [] then
        let joint := if folded && lineEnd = ['\n'] && !indented && k.head ≠ ' ' && k.head ≠ '\t' then
            (if later = [] then [' '] else []) else lineEnd
        let (text, rest) := blockLines folded indent more later k
        (breaks ++ line ++ joint ++ text, rest)
      else (breaks ++ line, lineEnd, later, k)
    else ([], [], breaks, k)

/-- Reads a block scalar after its indicator; `indent` is the indentation of the block around it. -/
def readBlock (folded : Bool) (indent : Int) (k : Cursor) : Except Fault (String × Cursor) := do
  let (chomp, given, k) ← blockHeader k
  let least := max 1 (indent + 1).toNat
  let fuel := k.rest.length + 1
  let (breaks, width, k) := match given with
    | some n =>
      let width := least + n - 1
      let (breaks, k) := blockBreaks width fuel k
      (breaks, width, k)
    | none =>
      let (breaks, widest, k) := blockStart fuel k
      (breaks, max least widest, k)
  let (text, lineEnd, later, k) := blockLines folded width fuel breaks k
  let tail := match chomp with
    | .strip => []
    | .clip => lineEnd
    | .keep => lineEnd ++ later
  return (Text.ofChars (text ++ tail), k)

end PointerTrace.Document.Yaml
