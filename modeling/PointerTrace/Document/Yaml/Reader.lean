import PointerTrace.Document.Yaml.Node

/- From the parts of a document to its value. The parts are built in rounds: a collection is filled
   after those that were met before it, and what it holds is met then. The first part that cannot be
   built, in this order, is what is reported. When all are built, the value is unfolded from the
   document as a whole; a collection inside itself is left as the place where it stands. -/
namespace PointerTrace.Document.Yaml

/-- Whether a tag is one of collections. -/
def Tag.isCollection : Tag → Bool
  | .list | .mapping | .set | .pairs => true
  | _ => false

/-- Whether a part is a scalar. -/
def Node.isScalar : Node → Bool
  | .scalar .. => true
  | _ => false

namespace Graph

/-- The tag of a part. -/
def tagOf (g : Graph) (n : Nat) : Tag := (g.part n).tag

/-- The pairs of a mapping. -/
def pairsOf (g : Graph) (n : Nat) : List (Nat × Nat) :=
  match g.part n with
  | .mapping _ pairs => pairs
  | _ => []

/-- Puts other pairs into a mapping. -/
def withPairs (g : Graph) (n : Nat) (pairs : List (Nat × Nat)) : Graph :=
  g.setIfInBounds n (.mapping (g.tagOf n) pairs)

/-- The text that a part with the tag of a scalar has: that of a scalar, or the text of what a mapping
    holds under an equals sign. There is none when this leads back to the same part. -/
def textOf (g : Graph) : Nat → Nat → Except Fault String
  | 0, _ => .error (.scalar (.tooDeep .parts))
  | more + 1, n =>
    match g.part n with
    | .scalar _ text => .ok text
    | .list .. => .error .malformed
    | .mapping _ pairs =>
      match pairs.find? fun p => g.tagOf p.1 = .defaultValue with
      | some p => textOf g more p.2
      | none => .error .malformed

/-- The value of a part with the tag of a scalar. Timestamps are read from the part itself, which must be
    a text; an undefined number is one of its own unless it has the form of the shared one. -/
def leafValue (g : Graph) (n : Nat) : Except Fault Value :=
  match g.tagOf n with
  | .mergeKey | .defaultValue | .unknown => .error .malformed
  | tag => do
    let text ← g.textOf (g.size + 1) n
    if tag = .timestamp && !(g.part n).isScalar then throw (.scalar .timestampOfMapping)
    match ← scalarValue tag text with
    | .float x => return if x.isNaN && !isSharedNaN text then .ownNaN n else .float x
    | v => return v

/-- Takes the first merge key out of some pairs: its value and the other pairs. -/
def takeMergeKey (g : Graph) : List (Nat × Nat) → Option (Nat × List (Nat × Nat))
  | [] => none
  | p :: rest =>
    if g.tagOf p.1 = .mergeKey then some (p.2, rest)
    else (takeMergeKey g rest).map fun (n, others) => (n, p :: others)

/-- Makes equals signs among keys texts. -/
def plainKeys (g : Graph) (pairs : List (Nat × Nat)) : Graph :=
  pairs.foldl (fun g p => match g.part p.1 with
    | .scalar .defaultValue text => g.setIfInBounds p.1 (.scalar .text text)
    | _ => g) g

/-- Carries out the merge keys of a mapping, whose value must be a mapping or a list of mappings. The
    pairs that they bring, which are given as far as they were met, go before its own, those of later
    items of a list first. -/
def merge : Nat → List (Nat × Nat) → Graph → Nat → Except Fault Graph
  | 0, _, _, _ => .error .malformed
  | more + 1, brought, g, n => do
    match g.takeMergeKey (g.pairsOf n) with
    | none => return (g.plainKeys (g.pairsOf n)).withPairs n (brought ++ g.pairsOf n)
    | some (source, others) =>
      let g := g.withPairs n others
      match g.part source with
      | .mapping .. =>
        let g ← merge more [] g source
        merge more (brought ++ g.pairsOf source) g n
      | .list _ items =>
        let (g, groups) ← items.foldlM (fun (g, groups) item => do
          match Graph.part g item with
          | .mapping .. =>
            let g ← merge more [] g item
            return (g, g.pairsOf item :: groups)
          | _ => throw .malformed) (g, ([] : List (List (Nat × Nat))))
        merge more (brought ++ groups.flatten) g n
      | .scalar .. => throw .malformed

/-- The number of all pairs. -/
def pairCount (g : Graph) : Nat :=
  g.foldl (fun count n => match n with
    | .mapping _ pairs => count + pairs.length
    | _ => count) 0

/-- Carries out the merge keys of a mapping, if it has any; each of them takes one pair away. -/
def flatten (g : Graph) (n : Nat) : Except Fault Graph :=
  if (g.takeMergeKey (g.pairsOf n)).isNone then .ok (g.plainKeys (g.pairsOf n))
  else merge (g.pairCount + 2) [] g n

end Graph

/-- A document that is being built: its parts, the values of those met that are no collections, and the
    collections met, in order. -/
structure Building where
  parts : Graph
  leaves : Array (Option Value)
  met : Array Bool
  collections : Array Nat

namespace Building

/-- The start of building. -/
def ofGraph (g : Graph) : Building :=
  ⟨g, Array.replicate g.size none, Array.replicate g.size false, #[]⟩

/-- Meets a part: gives it its value, or takes it among the collections. -/
def meet (b : Building) (n : Nat) : Except Fault Building :=
  if (b.met[n]?).getD true then .ok b
  else
    let b := { b with met := b.met.setIfInBounds n true }
    if (b.parts.tagOf n).isCollection then .ok { b with collections := b.collections.push n }
    else do return { b with leaves := b.leaves.setIfInBounds n (some (← b.parts.leafValue n)) }

/-- Meets a key and its value. A collection is no key. -/
def meetPair (b : Building) (p : Nat × Nat) : Except Fault Building := do
  let b ← b.meet p.1
  if (b.parts.tagOf p.1).isCollection then throw .malformed
  b.meet p.2

/-- Meets what an item of a list of pairs holds: a mapping with one pair. -/
def meetSingle (b : Building) (n : Nat) : Except Fault Building :=
  match b.parts.part n with
  | .mapping _ [(k, v)] => do (← b.meet k).meet v
  | _ => .error .malformed

/-- Fills a collection: meets what it holds. -/
def fill (b : Building) (n : Nat) : Except Fault Building :=
  match b.parts.part n with
  | .list .list items => items.foldlM meet b
  | .list .pairs items => items.foldlM meetSingle b
  | .mapping .mapping _ | .mapping .set _ => do
    let g ← b.parts.flatten n
    (g.pairsOf n).foldlM meetPair { b with parts := g }
  | _ => .error .malformed

/-- Fills the collections from one of them on, also those met meanwhile. -/
def fillFrom : Nat → Nat → Building → Except Fault Building
  | 0, _, b => .ok b
  | more + 1, next, b =>
    match b.collections[next]? with
    | none => .ok b
    | some n => do fillFrom more (next + 1) (← b.fill n)

/-- Builds all parts that a part holds. -/
def all (b : Building) (n : Nat) : Except Fault Building := do
  fillFrom (b.parts.size + 1) 0 (← b.meet n)

/-- The value of a part inside some collections. Of pairs with one key, the first gives the place and the
    last the value. -/
def valueOf (b : Building) : Nat → List Nat → Nat → Value
  | 0, _, _ => .null
  | more + 1, around, n =>
    let inside := valueOf b more (n :: around)
    match (b.leaves[n]?).join, b.parts.part n with
    | some v, _ => v
    | none, .list .pairs items =>
      if around.contains n then .enclosing n false
      else .anchored n (.list (items.map fun item => match b.parts.pairsOf item with
        | (k, v) :: _ => .pair (inside k) (inside v)
        | [] => .null))
    | none, .list _ items =>
      if around.contains n then .enclosing n false
      else .anchored n (.list (items.map inside))
    | none, .mapping .set pairs => .ofMembers ((pairs.map fun p => inside p.1).foldl Value.insert [])
    | none, .mapping _ pairs =>
      if around.contains n then .enclosing n true
      else .anchored n (.mapping
        (pairs.foldl (fun m p => Value.put m (inside p.1) (inside p.2)) []))
    | none, .scalar .. => .null

end Building

/-- Reads a document, given by its characters; an empty one is null. -/
def read (text : List Char) : Except Fault Value := do
  match ← (Reading.ofTokens (.ofChars text)).document with
  | none => return .null
  | some (g, n) =>
    let b ← (Building.ofGraph g).all n
    return b.valueOf (b.parts.size + 1) [] n

end PointerTrace.Document.Yaml
