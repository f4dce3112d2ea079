import PointerTrace.Document.Yaml.Quoted
import PointerTrace.Text.Utf8

/- The tokens of a YAML document: its scalars and indicators, and marks for where blocks start and
   end, which follow from indentation. A scalar, an alias or a flow collection may turn out to be a
   key only when the colon after it is met; the place of each such candidate is remembered, one for
   each level of flow collections, until it is too far away: on another line, or more than 1024
   characters back. -/
namespace PointerTrace.Document.Yaml

/-- A token. -/
inductive Token where
  | version (major : Nat)
  | handle (handle : String) (front : String)
  | otherDirective
  | documentStart
  | documentEnd
  | blockList
  | blockMapping
  | blockEnd
  | listStart
  | listEnd
  | mappingStart
  | mappingEnd
  | blockEntry
  | flowEntry
  | key
  | value
  | alias (name : String)
  | anchor (name : String)
  | tag (handle : Option String) (suffix : String)
  | scalar (text : String) (plain : Bool)
  deriving DecidableEq, Repr

/-- A place that may turn out to start a key: how many tokens come before it, and whether the block
    around it can only go on with a key. -/
structure KeyPlace where
  tokens : Nat
  required : Bool
  index : Nat
  line : Nat
  column : Nat
  deriving DecidableEq, Repr

/-- A document on its way to tokens. -/
structure Scan where
  cursor : Cursor
  flowLevel : Nat
  indent : Int
  outerIndents : List Int
  keyAllowed : Bool
  keys : List (Nat × KeyPlace)
  tokens : Array Token

namespace Scan

/-- The start of a document. -/
def ofChars (cs : List Char) : Scan :=
  let k := Cursor.ofChars cs
  ⟨if k.head.toNat = 0xFEFF then k.next else k, 0, -1, [], true, [], #[]⟩

/-- Adds a token. -/
def emit (s : Scan) (t : Token) : Scan := { s with tokens := s.tokens.push t }

/-- Moves to a place. -/
def moveTo (s : Scan) (k : Cursor) : Scan := { s with cursor := k }

/-- Says whether a key may start at the next token. -/
def allowKey (s : Scan) (allowed : Bool) : Scan := { s with keyAllowed := allowed }

/-- Forgets the candidate of the present level; a required one must have become a key. -/
def dropKey (s : Scan) : Except Fault Scan :=
  match s.keys.lookup s.flowLevel with
  | none => .ok s
  | some key => if key.required then .error .malformed
    else .ok { s with keys := s.keys.filter (·.1 ≠ s.flowLevel) }

/-- Whether a candidate is too far away to become a key. -/
def isStale (s : Scan) (key : KeyPlace) : Bool :=
  key.line ≠ s.cursor.line || 1024 < s.cursor.index - key.index

/-- Forgets candidates that are too far away; a required one must have become a key. -/
def dropStaleKeys (s : Scan) : Except Fault Scan :=
  if s.keys.any fun k => s.isStale k.2 && k.2.required then .error .malformed
  else .ok { s with keys := s.keys.filter fun k => !s.isStale k.2 }

/-- Remembers the present place as a candidate, where a key may start. -/
def saveKey (s : Scan) : Except Fault Scan :=
  if s.keyAllowed then do
    let s ← s.dropKey
    let k := s.cursor
    let required := s.flowLevel = 0 && s.indent = k.column
    let place : KeyPlace := ⟨s.tokens.size, required, k.index, k.line, k.column⟩
    return { s with keys := (s.flowLevel, place) :: s.keys }
  else .ok s

/-- Ends the blocks that are indented deeper than a column. -/
def unwind (s : Scan) (column : Int) : Scan :=
  if s.flowLevel ≠ 0 then s else go s s.outerIndents
where
  go (s : Scan) : List Int → Scan
    | [] => s
    | outer :: rest =>
      if s.indent > column then
        go ({ s with indent := outer, outerIndents := rest }.emit .blockEnd) rest
      else s

/-- Starts a block at a column, when it is deeper than the present one. The mark goes before a
    number of tokens' place. -/
def indentTo (s : Scan) (column : Nat) (place : Nat) (mark : Token) : Scan :=
  if s.indent < column then
    { s with
      indent := column
      outerIndents := s.indent :: s.outerIndents
      tokens := s.tokens.insertIdxIfInBounds place mark }
  else s

/-- Adds the token of one indicator of a number of characters. -/
def indicator (s : Scan) (t : Token) (length : Nat) : Scan :=
  (s.moveTo (s.cursor.skip length)).emit t

/-- Opens a flow collection, which may be a key itself. -/
def openFlow (s : Scan) (t : Token) : Except Fault Scan := do
  let s ← s.saveKey
  return ({ s with flowLevel := s.flowLevel + 1 }.allowKey true).indicator t 1

/-- Closes a flow collection. -/
def closeFlow (s : Scan) (t : Token) : Except Fault Scan := do
  let s ← s.dropKey
  return ({ s with flowLevel := s.flowLevel - 1 }.allowKey false).indicator t 1

/-- The comma between entries of a flow collection. -/
def flowEntry (s : Scan) : Except Fault Scan := do
  return (← (s.allowKey true).dropKey).indicator .flowEntry 1

/-- The hyphen of an entry of a block list. -/
def blockEntry (s : Scan) : Except Fault Scan := do
  if s.flowLevel = 0 && !s.keyAllowed then throw .malformed
  let s := if s.flowLevel = 0 then s.indentTo s.cursor.column s.tokens.size .blockList else s
  return (← (s.allowKey true).dropKey).indicator .blockEntry 1

/-- The question mark of a key. -/
def explicitKey (s : Scan) : Except Fault Scan := do
  if s.flowLevel = 0 && !s.keyAllowed then throw .malformed
  let s := if s.flowLevel = 0 then s.indentTo s.cursor.column s.tokens.size .blockMapping else s
  return (← (s.allowKey (s.flowLevel = 0)).dropKey).indicator .key 1

/-- The colon of a value. It makes the candidate of its level a key; without a candidate it belongs
    to a key with a question mark, or to none. -/
def valueMark (s : Scan) : Except Fault Scan := do
  match s.keys.lookup s.flowLevel with
  | some key =>
    let s := { s with
      keys := s.keys.filter (·.1 ≠ s.flowLevel)
      tokens := s.tokens.insertIdxIfInBounds key.tokens .key }
    let s := if s.flowLevel = 0 then s.indentTo key.column key.tokens .blockMapping else s
    return (s.allowKey false).indicator .value 1
  | none =>
    if s.flowLevel = 0 && !s.keyAllowed then throw .malformed
    let s := if s.flowLevel = 0 then s.indentTo s.cursor.column s.tokens.size .blockMapping else s
    return (← (s.allowKey (s.flowLevel = 0)).dropKey).indicator .value 1

/-- A character of the name of an anchor, an alias or a directive. -/
def isNameChar (c : Char) : Bool := c.isAlphanum || c = '-' || c = '_'

/-- An anchor or an alias. -/
def anchorOrAlias (s : Scan) (make : String → Token) : Except Fault Scan := do
  let s := (← s.saveKey).allowKey false
  let k := s.cursor.next
  let name := k.run isNameChar
  let after := k.skip name.length
  if name = [] then throw .malformed
  if isBlankOrEnd after.head || ['?', ':', ',', ']', '}', '%', '@'].contains after.head ||
      after.head.toNat = 96 then
    return (s.moveTo after).emit (make (String.ofList name))
  else throw .malformed

/-- A character of the suffix of a tag. -/
def isUriChar (c : Char) : Bool := c.isAlphanum || "-;/?:@&=+$,_.!~*'()[]%".toList.contains c

/-- Reads escaped bytes of a tag. -/
def uriBytes : Nat → Cursor → Except Fault (List Nat × Cursor)
  | 0, k => .ok ([], k)
  | more + 1, k =>
    if k.head = '%' then
      let ds := k.rest.tail.take 2
      if ds.length = 2 && ds.all isHexDigit then
        (fun (bytes, k) => (hexValue ds :: bytes, k)) <$> uriBytes more (k.skip 3)
      else .error .malformed
    else .ok ([], k)

/-- Reads the suffix of a tag. -/
def uriText : Nat → Cursor → Except Fault (List Char × Cursor)
  | 0, k => .ok ([], k)
  | more + 1, k =>
    if k.head = '%' then do
      let (bytes, k) ← uriBytes k.rest.length k
      let cs ← (Text.Utf8.decode bytes).mapError fun _ => Fault.malformed
      let (later, k) ← uriText more k
      return (cs ++ later, k)
    else if isUriChar k.head && k.rest ≠ [] then
      (fun (later, after) => (k.head :: later, after)) <$> uriText more k.next
    else .ok ([], k)

/-- Reads the suffix of a tag, which must not be empty. -/
def readUri (k : Cursor) : Except Fault (String × Cursor) := do
  let (cs, k) ← uriText k.rest.length k
  if cs = [] then throw .malformed
  return (String.ofList cs, k)

/-- Reads the handle of a tag: one exclamation mark, or two with a name between them. -/
def readHandle (k : Cursor) : Except Fault (String × Cursor) := do
  if k.head ≠ '!' then throw .malformed
  if k.peek 1 = ' ' then return ("!", k.next)
  let name := k.next.run isNameChar
  let after := k.next.skip name.length
  if after.head ≠ '!' then throw .malformed
  return (String.ofList ('!' :: name ++ ['!']), after.next)

/-- Reads a tag: written out in angle brackets, with a handle, or an exclamation mark alone. -/
def readTag (k : Cursor) : Except Fault (Token × Cursor) := do
  let (token, after) ←
    if k.peek 1 = '<' then do
      let (suffix, after) ← readUri (k.skip 2)
      if after.head ≠ '>' then throw .malformed
      pure (Token.tag none suffix, after.next)
    else if isBlankOrEnd (k.peek 1) then pure (Token.tag none "!", k.next)
    else do
      let hasHandle := (k.next.run fun c => !isSpaceBreakOrEnd c).contains '!'
      let (handle, after) ← if hasHandle then readHandle k else pure ("!", k.next)
      let (suffix, after) ← readUri after
      pure (Token.tag (some handle) suffix, after)
  if isSpaceBreakOrEnd after.head then return (token, after) else throw .malformed

/-- Reads the number of a version directive. -/
def versionNumber (k : Cursor) : Except Fault (Nat × Cursor) :=
  match k.run Char.isDigit with
  | [] => .error .malformed
  | ds => match Decimal.literal ds with
    | .ok n => .ok (n, k.skip ds.length)
    | .error count => .error (.scalar (.tooManyDigits count))

/-- Reads a directive after its percent sign. -/
def readDirective (k : Cursor) : Except Fault (Token × Cursor) := do
  let name := k.run isNameChar
  let after := k.skip name.length
  if name = [] || !isSpaceBreakOrEnd after.head then throw .malformed
  if name = "YAML".toList then
    let (major, after) ← versionNumber (after.skipRun (· = ' '))
    if after.head ≠ '.' then throw .malformed
    let (_, after) ← versionNumber after.next
    if !isSpaceBreakOrEnd after.head then throw .malformed
    return (.version major, ← after.skipIgnoredLine)
  else if name = "TAG".toList then
    let (handle, after) ← readHandle (after.skipRun (· = ' '))
    if after.head ≠ ' ' then throw .malformed
    let (front, after) ← readUri (after.skipRun (· = ' '))
    if !isSpaceBreakOrEnd after.head then throw .malformed
    return (.handle handle front, ← after.skipIgnoredLine)
  else
    return (.otherDirective, ← (after.skipRun (!isBreakOrEnd ·)).skipIgnoredLine)

/-- A directive. -/
def directive (s : Scan) : Except Fault Scan := do
  let s := (← (s.unwind (-1)).dropKey).allowKey false
  let (t, k) ← readDirective s.cursor.next
  return (s.moveTo k).emit t

/-- The separator before or after a document. -/
def separator (s : Scan) (t : Token) : Except Fault Scan := do
  return ((← (s.unwind (-1)).dropKey).allowKey false).indicator t 3

/-- A quoted scalar. -/
def quoted (s : Scan) (isDouble : Bool) : Except Fault Scan := do
  let s := (← s.saveKey).allowKey false
  let (text, k) ← readQuoted isDouble s.cursor
  return (s.moveTo k).emit (.scalar text false)

/-- A plain scalar. -/
def plain (s : Scan) : Except Fault Scan := do
  let s ← s.saveKey
  let p := readPlain (s.flowLevel ≠ 0) (s.indent + 1) s.cursor
  return ((s.moveTo p.after).allowKey p.keyAllowed).emit (.scalar (Text.ofChars p.text) true)

/-- A block scalar. -/
def block (s : Scan) (folded : Bool) : Except Fault Scan := do
  let s ← (s.allowKey true).dropKey
  let (text, k) ← readBlock folded s.indent s.cursor.next
  return (s.moveTo k).emit (.scalar text false)

/-- A tag. -/
def tagMark (s : Scan) : Except Fault Scan := do
  let s := (← s.saveKey).allowKey false
  let (t, k) ← readTag s.cursor
  return (s.moveTo k).emit t

/-- Whether a plain scalar may start here. Indicators may start one only where what follows shows
    that they are none. -/
def startsPlain (s : Scan) : Bool :=
  let c := s.cursor.head
  (!isBlankOrEnd c && !"-?:,[]\x7b\x7d#&*!|>'\"%@".toList.contains c && c.toNat ≠ 96) ||
    (!isBlankOrEnd (s.cursor.peek 1) && (c = '-' || (s.flowLevel = 0 && (c = '?' || c = ':'))))

/-- Reads the next token, at a place that holds one. -/
def token (s : Scan) : Except Fault Scan :=
  let k := s.cursor
  let c := k.head
  let spaced := isBlankOrEnd (k.peek 1)
  let inFlow := s.flowLevel ≠ 0
  if c = '%' && k.column = 0 then s.directive
  else if k.column = 0 && k.isSeparator then
    s.separator (if c = '-' then .documentStart else .documentEnd)
  else if c = '[' then s.openFlow .listStart
  else if c.toNat = 0x7B then s.openFlow .mappingStart
  else if c = ']' then s.closeFlow .listEnd
  else if c.toNat = 0x7D then s.closeFlow .mappingEnd
  else if c = ',' then s.flowEntry
  else if c = '-' && spaced then s.blockEntry
  else if c = '?' && (inFlow || spaced) then s.explicitKey
  else if c = ':' && (inFlow || spaced) then s.valueMark
  else if c = '*' then s.anchorOrAlias .alias
  else if c = '&' then s.anchorOrAlias .anchor
  else if c = '!' then s.tagMark
  else if c = '|' && !inFlow then s.block false
  else if c = '>' && !inFlow then s.block true
  else if c = '\'' then s.quoted false
  else if c = '"' then s.quoted true
  else if s.startsPlain then s.plain
  else .error .malformed

/-- Moves to the next token, ending the blocks that it is outside of. -/
def approach (s : Scan) : Except Fault Scan := do
  let (k, sawBreak) := s.cursor.skipGaps
  let s := { s with cursor := k, keyAllowed := s.keyAllowed || (sawBreak && s.flowLevel = 0) }
  let s ← s.dropStaleKeys
  return s.unwind s.cursor.column

/-- The tokens that are settled: those before the first candidate that is not too far away. Whether
    a key starts at that candidate is not known yet. -/
def settled (s : Scan) : List Token :=
  let candidates := (s.keys.filter fun k => !s.isStale k.2).map fun k => k.2.tokens
  s.tokens.toList.take (candidates.foldl min s.tokens.size)

/-- Reads the next token, or ends the tokens when nothing is left. -/
def advance (s : Scan) : Except Fault (Scan × Bool) := do
  let s ← s.approach
  if s.cursor.rest = [] then return (← (s.unwind (-1)).dropKey, true) else return (← s.token, false)

end Scan

/-- The tokens of a document, up to its end or to a fault. -/
structure Tokens where
  list : List Token
  fault : Option Fault

namespace Tokens

/-- The next token, if there is one; the fault is met where the tokens before it end. -/
def head (l : Tokens) : Except Fault (Option Token) :=
  match l.list, l.fault with
  | t :: _, _ => .ok (some t)
  | [], some fault => .error fault
  | [], none => .ok none

/-- What is left after the next token. -/
def tail (l : Tokens) : Tokens := { l with list := l.list.tail }

/-- Reads tokens until nothing is left; each one has a character of its own. -/
def read : Nat → Scan → Tokens
  | 0, s => ⟨s.settled, some .malformed⟩
  | more + 1, s =>
    match s.advance with
    | .ok (s, false) => read more s
    | .ok (s, true) => ⟨s.tokens.toList, none⟩
    | .error fault => ⟨s.settled, some fault⟩

/-- The tokens of a text. -/
def ofChars (cs : List Char) : Tokens :=
  if cs.all isDocumentChar then read (cs.length + 1) (Scan.ofChars cs) else ⟨[], some .malformed⟩

end Tokens

end PointerTrace.Document.Yaml
