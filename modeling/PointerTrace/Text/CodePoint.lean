/- Code points as characters. An escape in a document may name half of a surrogate pair, which is no
   character, and a text may hold such a half. Every text of this library holds code points: a half is
   held by a mark and the private-use character 0x100000 above it, the mark itself by two marks, and any
   other code point by its character. `codePoints_flatMap_held` says that nothing is lost. -/
namespace PointerTrace.Text

/-- Whether a code point is half of a surrogate pair. -/
def isHalf (n : Nat) : Bool := 0xD800 ≤ n && n < 0xE000

/-- The mark in front of what is held by two characters: the last code point there is. -/
def mark : Char := Char.ofNat 0x10FFFF

/-- The characters that hold a code point. -/
def held (n : Nat) : List Char :=
  if isHalf n then [mark, Char.ofNat (n + 0x100000)]
  else if n = 0x10FFFF then [mark, mark]
  else [Char.ofNat n]

/-- The code point that a character holds after a mark. -/
def marked? (c : Char) : Option Nat :=
  if c = mark then some 0x10FFFF
  else if isHalf (c.toNat - 0x100000) then some (c.toNat - 0x100000)
  else none

/-- The code points that characters hold. A mark that nothing marked follows is held by itself. -/
def codePoints : List Char → List Nat
  | [] => []
  | [c] => [c.toNat]
  | c :: d :: rest =>
    if c = mark then match marked? d with
      | some n => n :: codePoints rest
      | none => c.toNat :: codePoints (d :: rest)
    else c.toNat :: codePoints (d :: rest)

/-- The text of some code points. -/
def ofPoints (l : List Nat) : String := String.ofList (l.flatMap held)

/-- The code points of a text. -/
def points (s : String) : List Nat := codePoints s.toList

/-- The text of some characters. -/
def ofChars (cs : List Char) : String := ofPoints (cs.map Char.toNat)

/-- The characters of a text that holds no half. -/
def characters? (s : String) : Option (List Char) :=
  (points s).mapM fun n => if isHalf n then none else some (Char.ofNat n)

/-- The text that a string of characters is. -/
def ofString (s : String) : String := ofChars s.toList

/-- A text as a string of characters, in which a half is shown as the replacement character. -/
def toPlain (s : String) : String :=
  String.ofList ((points s).map fun n => Char.ofNat (if isHalf n then 0xFFFD else n))

/-- The first code point that characters hold, as a text. -/
def first (cs : List Char) : String := ofPoints ((codePoints cs).take 1)

/-- The character of a code point has its number. -/
theorem toNat_ofNat_of_valid {n : Nat} (h : n.isValidChar) : (Char.ofNat n).toNat = n := by
  rw [Char.ofNat, dif_pos h]
  rfl

/-- A character other than the mark holds its own number. -/
theorem codePoints_cons_of_ne {c : Char} (h : c ≠ mark) (rest : List Char) :
    codePoints (c :: rest) = c.toNat :: codePoints rest := by
  cases rest <;> simp [codePoints, h]

/-- A half comes back from the character that holds it. -/
theorem marked?_ofNat_add {n : Nat} (h : isHalf n = true) :
    marked? (Char.ofNat (n + 0x100000)) = some n := by
  simp only [isHalf, Bool.and_eq_true, decide_eq_true_eq] at h
  have valid : (n + 0x100000).isValidChar := Or.inr ⟨by omega, by omega⟩
  have number := toNat_ofNat_of_valid valid
  have other : Char.ofNat (n + 0x100000) ≠ mark := by
    intro same
    have := congrArg Char.toNat same
    rw [number] at this
    have : n + 0x100000 = 0x10FFFF := this
    omega
  simp only [marked?, other, if_false, number, Nat.add_sub_cancel]
  simp [isHalf, h]

/-- Code points come back from the characters that hold them. -/
theorem codePoints_flatMap_held (l : List Nat) (h : ∀ n ∈ l, n < 0x110000) :
    codePoints (l.flatMap held) = l := by
  induction l with
  | nil => rfl
  | cons n l ih =>
    have tail := ih fun m hm => h m (List.mem_cons_of_mem n hm)
    have bound := h n List.mem_cons_self
    simp only [List.flatMap_cons, held]
    split
    · simp [codePoints, marked?_ofNat_add ‹_›, tail]
    · split
      · simp [codePoints, marked?, *]
      · rename_i notHalf notMark
        have valid : n.isValidChar := by
          simp only [isHalf, Bool.and_eq_true, decide_eq_true_eq] at notHalf
          simp only [Nat.isValidChar]
          omega
        have number := toNat_ofNat_of_valid valid
        have other : Char.ofNat n ≠ mark := by
          intro same
          have := congrArg Char.toNat same
          rw [number] at this
          exact notMark this
        simp only [List.singleton_append, codePoints_cons_of_ne other, number, tail]

end PointerTrace.Text
