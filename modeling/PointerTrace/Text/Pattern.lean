/- Patterns of text, decided by derivatives: the derivative of a pattern by a character matches what
   may follow that character. Sequences and choices with a part that matches nothing are dropped at
   once, so derivatives stay as small as the pattern. -/
namespace PointerTrace.Text

/-- A set of texts. -/
inductive Pattern where
  | nothing
  | blank
  | one (holds : Char → Bool)
  | seq (first second : Pattern)
  | choice (left right : Pattern)
  | many (p : Pattern)

namespace Pattern

/-- Whether the empty text matches. -/
def acceptsEmpty : Pattern → Bool
  | .nothing => false
  | .blank => true
  | .one _ => false
  | .seq p q => p.acceptsEmpty && q.acceptsEmpty
  | .choice p q => p.acceptsEmpty || q.acceptsEmpty
  | .many _ => true

/-- A sequence, dropped when its first part matches nothing. -/
def thenDo : Pattern → Pattern → Pattern
  | .nothing, _ => .nothing
  | .blank, q => q
  | p, q => .seq p q

/-- A choice without a side that matches nothing. -/
def orElse : Pattern → Pattern → Pattern
  | .nothing, q => q
  | p, .nothing => p
  | p, q => .choice p q

/-- What may follow a character. -/
def next (c : Char) : Pattern → Pattern
  | .nothing => .nothing
  | .blank => .nothing
  | .one holds => if holds c then .blank else .nothing
  | .seq p q =>
    let first := (p.next c).thenDo q
    if p.acceptsEmpty then first.orElse (q.next c) else first
  | .choice p q => (p.next c).orElse (q.next c)
  | .many p => (p.next c).thenDo (.many p)

/-- Whether a text matches. -/
def accepts (p : Pattern) (cs : List Char) : Bool := (cs.foldl (fun q c => q.next c) p).acceptsEmpty

/-- One of some characters. -/
def oneOf (cs : List Char) : Pattern := .one cs.contains

/-- Patterns one after the other. -/
def inOrder (ps : List Pattern) : Pattern := ps.foldr .seq .blank

/-- Any of some patterns. -/
def anyOf (ps : List Pattern) : Pattern := ps.foldr .choice .nothing

/-- A pattern or nothing at all. -/
def optional (p : Pattern) : Pattern := .choice p .blank

/-- A pattern once or more often. -/
def oneOrMore (p : Pattern) : Pattern := .seq p (.many p)

/-- One word. -/
def word (s : String) : Pattern := inOrder (s.toList.map fun c => .one (· = c))

/-- Any of some words. -/
def words (l : List String) : Pattern := anyOf (l.map word)

end Pattern

end PointerTrace.Text
