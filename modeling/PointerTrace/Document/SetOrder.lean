import PointerTrace.Decimal.Shortest

/- The order in which the members of a set of numbers are listed: that of the slots of a table that
   they are put into one after the other. The slot of a number follows from its residue modulo a
   Mersenne prime; when it is taken, near slots are tried, then others that depend on more and more
   of the residue. -/
namespace PointerTrace.Document.SetOrder

/-- The exponent of the prime. -/
def primeBits : Nat := 61

/-- The prime. -/
def prime : Nat := Nat.pow 2 primeBits - 1

/-- The word of a number with a sign and a residue, in two's complement. No number has the word of
    minus one. -/
def word (negative : Bool) (residue : Nat) : Nat :=
  if negative && residue ≠ 0 then Nat.pow 2 64 - (if residue = 1 then 2 else residue) else residue

/-- The word of a whole number. -/
def ofInt (n : Int) : Nat := word (n < 0) (n.natAbs % prime)

/-- The word of a double; the undefined number has none. Powers of two repeat after the exponent of
    the prime, negative ones too. -/
def ofFloat? (x : Float) : Option Nat :=
  match Decimal.Parts.ofFloat x with
  | .nan => none
  | .infinite negative => some (word negative 314159)
  | .finite negative m q =>
    some (word negative (m * Nat.pow 2 (q.emod primeBits).toNat % prime))

/-- The number of slots for a number of members. -/
def slotCount (members : Nat) : Nat :=
  if members < 5 then 8 else Nat.pow 2 (Nat.log2 (2 * members) + 1)

/-- How many slots after one are tried with it. -/
def runLength : Nat := 9

/-- The free slot for a word, tried from a slot on: `spread` is what is left of the word to choose
    further slots by. -/
def freeSlot {α : Type} (table : Array (Option α)) : Nat → Nat → Nat → Nat
  | 0, slot, _ => slot
  | more + 1, slot, spread =>
    let near := if slot + runLength < table.size then runLength + 1 else 1
    match (List.range near).find? fun k => (table[slot + k]?).elim false Option.isNone with
    | some k => slot + k
    | none => freeSlot table more ((slot * 5 + 1 + spread / 32) % table.size) (spread / 32)

/-- The table after a member with a word. -/
def put {α : Type} (table : Array (Option α)) (word : Nat) (a : α) : Array (Option α) :=
  table.setIfInBounds (freeSlot table (table.size + 64) (word % table.size) word) (some a)

/-- Members with their words, in the order in which they are listed. -/
def arrange {α : Type} (members : List (Nat × α)) : List α :=
  (members.foldl (fun t m => put t m.1 m.2)
    (Array.replicate (slotCount members.length) none)).toList.filterMap id

end PointerTrace.Document.SetOrder
