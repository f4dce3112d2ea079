import PointerTrace.Document.Yaml.Token

/- The parts of a YAML document, with tags resolved. Every part has a number, by which collections name
   their parts; an alias is the number of the part it stands for, so that a collection may hold itself.
   Reading is a descent over the tokens; the number of calls inside each other is bounded by the number
   of tokens. A fault among the tokens is met only where the token in its place is looked at, so that
   what is wrong before it is found first. -/
namespace PointerTrace.Document.Yaml

/-- A part of a document. -/
inductive Node where
  | scalar (tag : Tag) (text : String)
  | list (tag : Tag) (items : List Nat)
  | mapping (tag : Tag) (pairs : List (Nat × Nat))
  deriving DecidableEq, Repr

/-- The part that stands where nothing is written. -/
def Node.absent : Node := .scalar .null ""

/-- The tag of a part. -/
def Node.tag : Node → Tag
  | .scalar tag _ => tag
  | .list tag _ => tag
  | .mapping tag _ => tag

/-- The parts of a document, by number. -/
abbrev Graph := Array Node

/-- The part with a number. -/
def Graph.part (g : Graph) (n : Nat) : Node := (g[n]?).getD .absent

/-- A document on its way to a graph: the tokens left, the meaning of tag handles, the numbers of the
    parts that have an anchor, the parts met so far, and how many collections the present place is in. -/
structure Reading where
  tokens : Tokens
  handles : List (String × String)
  anchors : List (String × Nat)
  parts : Graph
  level : Nat

namespace Reading

/-- The next token. -/
def head (r : Reading) : Except Fault (Option Token) := r.tokens.head

/-- What is left after the next token. -/
def next (r : Reading) : Reading := { r with tokens := r.tokens.tail }

/-- Whether the next token is a given one. -/
def isAt (r : Reading) (t : Token) : Except Fault Bool := do return (← r.head) = some t

/-- The full name of a written tag. -/
def tagName (r : Reading) : Option String → String → Except Fault String
  | none, suffix => .ok suffix
  | some handle, suffix => match r.handles.lookup handle with
    | some front => .ok (front ++ suffix)
    | none => .error .malformed

/-- Adds a part. -/
def add (r : Reading) (n : Node) : Nat × Reading :=
  (r.parts.size, { r with parts := r.parts.push n })

/-- Adds a part with an anchor, if it has one; no anchor is given twice. -/
def declare (r : Reading) (name : Option String) (n : Node) : Except Fault (Nat × Reading) :=
  match name with
  | none => .ok (r.add n)
  | some name =>
    if (r.anchors.lookup name).isSome then .error .malformed
    else .ok ({ r with anchors := (name, r.parts.size) :: r.anchors }.add n)

/-- Adds a part where nothing is written. -/
def absent (r : Reading) : Nat × Reading := r.add .absent

/-- How many collections may be inside each other. The number stands for the depth at which the
    interpreter's recursion limit is met by a reader that is called from the outermost level; one that is
    called from deeper down meets it sooner. -/
def deepest : Nat := 488

/-- Adds a collection before its content. -/
def enter (r : Reading) (name : Option String) (n : Node) : Except Fault (Nat × Reading) :=
  if deepest ≤ r.level then .error (.scalar (.tooDeep .parts))
  else { r with level := r.level + 1 }.declare name n

/-- Puts what was read into a collection that was added before its content. -/
def leave (r : Reading) (number : Nat) (n : Node) : Nat × Reading :=
  (number, { r with parts := r.parts.setIfInBounds number n, level := r.level - 1 })

/-- Reads the anchor and the tag in front of a part, in either order. -/
def properties (r : Reading) : Except Fault (Option String × Option String × Reading) := do
  match ← r.head with
  | some (.anchor name) =>
    match ← r.next.head with
    | some (.tag handle suffix) => return (some name, ← r.tagName handle suffix, r.next.next)
    | _ => return (some name, none, r.next)
  | some (.tag handle suffix) =>
    match ← r.next.head with
    | some (.anchor name) => return (some name, ← r.tagName handle suffix, r.next.next)
    | _ => return (none, ← r.tagName handle suffix, r.next)
  | _ => return (none, none, r)

/-- The tag of a scalar: its own, or the one of its form when it is plain. The tag that is an
    exclamation mark alone asks for the form too. -/
def scalarTag (tag : Option String) (plain : Bool) (text : String) : Tag :=
  match tag with
  | none => if plain then .ofPlain text else .text
  | some name => if name = "!" then .ofPlain text else .ofName name

/-- The tag of a collection, a default one when it has none of its own. -/
def collectionTag (tag : Option String) (default : Tag) : Tag :=
  match tag with
  | none => default
  | some name => if name = "!" then default else .ofName name

/-- Where a part stands: inside a flow collection, in a block, or as a value in a block mapping,
    where the entries of a list need no deeper indentation. -/
inductive Place where
  | flow
  | block
  | blockValue
  deriving DecidableEq, Repr

/-- What a part is, by the token that it starts with. -/
inductive Form where
  | scalar (text : String) (plain : Bool)
  | flowList
  | flowMapping
  | blockList
  | blockMapping
  | levelList
  | empty
  deriving DecidableEq, Repr

/-- The form of a part that stands at a place. A part with an anchor or a tag may be empty. -/
def form (place : Place) (hasProperties : Bool) : Option Token → Except Fault Form
  | some (.scalar text plain) => .ok (.scalar text plain)
  | some .listStart => .ok .flowList
  | some .mappingStart => .ok .flowMapping
  | t =>
    if place ≠ .flow && t = some .blockList then .ok .blockList
    else if place ≠ .flow && t = some .blockMapping then .ok .blockMapping
    else if place = .blockValue && t = some .blockEntry then .ok .levelList
    else if hasProperties then .ok .empty
    else .error .malformed

mutual

/-- Reads a part. -/
def node : Nat → Place → Reading → Except Fault (Nat × Reading)
  | 0, _, _ => .error .malformed
  | depth + 1, place, r => do
    if let some (.alias name) := ← r.head then
      match r.anchors.lookup name with
      | some n => return (n, r.next)
      | none => throw .malformed
    let (anchor, tag, r) ← r.properties
    let list := Node.list (collectionTag tag .list)
    let mapping := Node.mapping (collectionTag tag .mapping)
    match ← form place (anchor.isSome || tag.isSome) (← r.head) with
    | .scalar text plain => r.next.declare anchor (.scalar (scalarTag tag plain text) text)
    | .empty => r.declare anchor (.scalar (scalarTag tag true "") "")
    | .flowList =>
      let (n, r) ← r.next.enter anchor (list [])
      let (items, r) ← flowItems depth true r
      return r.leave n (list items)
    | .flowMapping =>
      let (n, r) ← r.next.enter anchor (mapping [])
      let (pairs, r) ← flowPairs depth true r
      return r.leave n (mapping pairs)
    | .blockList =>
      let (n, r) ← r.next.enter anchor (list [])
      let (items, r) ← blockItems depth r
      return r.leave n (list items)
    | .blockMapping =>
      let (n, r) ← r.next.enter anchor (mapping [])
      let (pairs, r) ← blockPairs depth r
      return r.leave n (mapping pairs)
    | .levelList =>
      let (n, r) ← r.enter anchor (list [])
      let (items, r) ← levelItems depth r
      return r.leave n (list items)

/-- Reads a part, or nothing when one of some tokens is next. -/
def nodeUnless : Nat → Place → List Token → Reading → Except Fault (Nat × Reading)
  | 0, _, _, _ => .error .malformed
  | depth + 1, place, stops, r => do
    if ((← r.head).map stops.contains).getD false then return r.absent else node depth place r

/-- Reads the entries of a block list up to its end. -/
def blockItems : Nat → Reading → Except Fault (List Nat × Reading)
  | 0, _ => .error .malformed
  | depth + 1, r => do
    match ← r.head with
    | some .blockEntry =>
      let (n, r) ← nodeUnless depth .block [.blockEntry, .blockEnd] r.next
      let (items, r) ← blockItems depth r
      return (n :: items, r)
    | some .blockEnd => return ([], r.next)
    | _ => throw .malformed

/-- Reads the entries of a list that is not indented deeper than the mapping around it. -/
def levelItems : Nat → Reading → Except Fault (List Nat × Reading)
  | 0, _ => .error .malformed
  | depth + 1, r => do
    match ← r.head with
    | some .blockEntry =>
      let (n, r) ← nodeUnless depth .block [.blockEntry, .key, .value, .blockEnd] r.next
      let (items, r) ← levelItems depth r
      return (n :: items, r)
    | _ => return ([], r)

/-- Reads the pairs of a block mapping up to its end. -/
def blockPairs : Nat → Reading → Except Fault (List (Nat × Nat) × Reading)
  | 0, _ => .error .malformed
  | depth + 1, r => do
    let stops := [.key, .value, .blockEnd]
    match ← r.head with
    | some .key =>
      let (k, r) ← nodeUnless depth .blockValue stops r.next
      let (v, r) ← if ← r.isAt .value then nodeUnless depth .blockValue stops r.next
        else pure r.absent
      let (pairs, r) ← blockPairs depth r
      return ((k, v) :: pairs, r)
    | some .blockEnd => return ([], r.next)
    | _ => throw .malformed

/-- Reads the value of a pair in a flow collection, if it has one. -/
def flowValue : Nat → Token → Reading → Except Fault (Nat × Reading)
  | 0, _, _ => .error .malformed
  | depth + 1, close, r => do
    if ← r.isAt .value then nodeUnless depth .flow [.flowEntry, close] r.next
    else return r.absent

/-- Reads the entries of a flow list up to its end. A pair among them is a mapping of its own. -/
def flowItems : Nat → Bool → Reading → Except Fault (List Nat × Reading)
  | 0, _, _ => .error .malformed
  | depth + 1, first, r => do
    if ← r.isAt .listEnd then return ([], r.next)
    let r ← if first then pure r
      else if ← r.isAt .flowEntry then pure r.next else throw .malformed
    if ← r.isAt .listEnd then return ([], r.next)
    let (n, r) ← if ← r.isAt .key then do
        let (k, r) ← nodeUnless depth .flow [.value, .flowEntry, .listEnd] r.next
        let (v, r) ← flowValue depth .listEnd r
        pure (r.add (.mapping .mapping [(k, v)]))
      else node depth .flow r
    let (items, r) ← flowItems depth false r
    return (n :: items, r)

/-- Reads the pairs of a flow mapping up to its end. An entry that is no pair is a key without
    value. -/
def flowPairs : Nat → Bool → Reading → Except Fault (List (Nat × Nat) × Reading)
  | 0, _, _ => .error .malformed
  | depth + 1, first, r => do
    if ← r.isAt .mappingEnd then return ([], r.next)
    let r ← if first then pure r
      else if ← r.isAt .flowEntry then pure r.next else throw .malformed
    if ← r.isAt .mappingEnd then return ([], r.next)
    let (pair, r) ← if ← r.isAt .key then do
        let (k, r) ← nodeUnless depth .flow [.value, .flowEntry, .mappingEnd] r.next
        let (v, r) ← flowValue depth .mappingEnd r
        pure ((k, v), r)
      else do
        let (k, r) ← node depth .flow r
        let (v, r) := r.absent
        pure ((k, v), r)
    let (pairs, r) ← flowPairs depth false r
    return (pair :: pairs, r)

end

/-- The handles that need no declaration. -/
def standardHandles : List (String × String) := [("!", "!"), ("!!", "tag:yaml.org,2002:")]

/-- The start of a document with some tokens. -/
def ofTokens (l : Tokens) : Reading := ⟨l, [], [], #[], 0⟩

/-- Reads directives: at most one version, whose first number must be one, and handles of different
    names. Any other directive is passed over. -/
def directives : Nat → Bool → Reading → Except Fault Reading
  | 0, _, _ => .error .malformed
  | more + 1, versioned, r => do
    match ← r.head with
    | some (.version major) =>
      if versioned || major ≠ 1 then throw .malformed else directives more true r.next
    | some (.handle handle front) =>
      if (r.handles.lookup handle).isSome then throw .malformed
      else directives more versioned { r.next with handles := (handle, front) :: r.handles }
    | some .otherDirective => directives more versioned r.next
    | _ => return { r with handles := r.handles ++ standardHandles }

/-- Reads what comes before the content of a document: directives and the mark of its start. -/
def opening (r : Reading) : Except Fault Reading := do
  let r ← directives (r.tokens.list.length + 1) false { r with handles := [] }
  if ← r.isAt .documentStart then return r.next else throw .malformed

/-- Whether a token starts what may come before a document's content. -/
def opensDocument : Token → Bool
  | .version _ | .handle .. | .otherDirective | .documentStart => true
  | _ => false

/-- Reads the content of a document. After an explicit start it may be missing. -/
def content (isExplicit : Bool) (r : Reading) : Except Fault (Nat × Reading) := do
  let missing := match ← r.head with
    | none => true
    | some t => opensDocument t || t = .documentEnd
  if isExplicit && missing then return r.absent
  else node (4 * r.tokens.list.length + 8) .block r

/-- Skips the marks of the end of a document. -/
def skipEnds (r : Reading) : Reading :=
  { r with tokens := { r.tokens with list := r.tokens.list.dropWhile (· = .documentEnd) } }

/-- Reads the tokens of a stream with at most one document into its parts and the number of the part
    that is all of it. A second document is refused at the mark of its start. -/
def document (r : Reading) : Except Fault (Option (Graph × Nat)) := do
  match ← r.head with
  | none => return none
  | some t =>
    let (n, r) ← if opensDocument t then content true (← r.opening)
      else content false { r with handles := standardHandles }
    let r := r.skipEnds
    match ← r.head with
    | none => return some (r.parts, n)
    | some _ =>
      let _ ← r.opening
      throw .malformed

end Reading

end PointerTrace.Document.Yaml
