import Mathlib.Data.List.DropRight
import PointerTrace.Trace.Token

/- Where a place is in a text. A place has a line and a column, both counted from one; it stands for
   what a text holds from that column of that line on (`Location.rest?`). Line feeds are the only line
   ends here. A place is at the end of some first part of a text exactly when its line counts the line
   feeds of that part and its column what follows the last of them (`Location.Behind`), and that is
   what counting along the text leads to (`Location.rest?_foldl_after`). -/
namespace PointerTrace

open Trace (after)

/-- The text behind its first `n` line feeds, if it has that many. -/
def behindLines? : Nat → List Nat → Option (List Nat)
  | 0, text => some text
  | n + 1, text => (text.dropWhile (· ≠ '\n'.toNat)).tail?.bind (behindLines? n)

/-- The part of a line that is written last: what follows the last line feed of a text. -/
def openLine (text : List Nat) : List Nat := text.rtakeWhile (· ≠ '\n'.toNat)

/-- The text from a place on, if the text has that line and the line has that column or ends just
    before it. -/
def Location.rest? (l : Location) (text : List Nat) : Option (List Nat) :=
  match l.line, l.column with
  | n + 1, k + 1 => (behindLines? n text).bind fun line =>
    if k ≤ (line.takeWhile (· ≠ '\n'.toNat)).length then some (line.drop k) else none
  | _, _ => none

example : Location.rest? ⟨2, 2, "t"⟩ (Text.points "a\nbc") = some (Text.points "c") := by decide

/-- A place is right behind a text that its line and column count. -/
structure Location.Behind (l : Location) (text : List Nat) : Prop where
  line : l.line = text.count '\n'.toNat + 1
  column : l.column = (openLine text).length + 1

section OpenLine

variable {u v text : List Nat}

theorem openLine_of_notMem (free : '\n'.toNat ∉ u) : openLine u = u := by
  apply List.rtakeWhile_eq_self_iff.mpr
  intro n inside
  have other : n ≠ '\n'.toNat := fun same => free (same ▸ inside)
  exact decide_eq_true other

theorem notMem_openLine (text : List Nat) : '\n'.toNat ∉ openLine text := by
  intro inside
  have other := List.mem_rtakeWhile_imp inside
  simp at other

/-- What is written behind a line feed decides the open line. -/
theorem openLine_append_lineFeed (u v : List Nat) :
    openLine (u ++ '\n'.toNat :: v) = openLine v := by
  induction v using List.reverseRecOn with
  | nil => exact List.rtakeWhile_concat_neg _ u _ (by simp)
  | append_singleton v n ih =>
    have split : u ++ '\n'.toNat :: (v ++ [n]) = (u ++ '\n'.toNat :: v) ++ [n] := by simp
    unfold openLine at ih ⊢
    rw [split, List.rtakeWhile_concat, List.rtakeWhile_concat, ih]

/-- Behind whole lines, a text without line feeds is the open line. -/
theorem openLine_append (whole : openLine u = []) (free : '\n'.toNat ∉ v) :
    openLine (u ++ v) = v := by
  cases u using List.reverseRecOn with
  | nil => exact openLine_of_notMem free
  | append_singleton u n =>
    have last : n = '\n'.toNat := by
      by_contra other
      rw [openLine, List.rtakeWhile_concat_pos _ _ _ (by simpa using other)] at whole
      simp at whole
    calc openLine (u ++ [n] ++ v) = openLine (u ++ '\n'.toNat :: v) := by rw [last]; simp
      _ = openLine v := openLine_append_lineFeed u v
      _ = v := openLine_of_notMem free

/-- A text is whole lines and its open line. -/
theorem exists_openLine (text : List Nat) :
    ∃ lines, text = lines ++ openLine text ∧ openLine lines = [] := by
  refine ⟨text.rdropWhile (· ≠ '\n'.toNat), List.rdropWhile_append_rtakeWhile.symm, ?_⟩
  apply List.rtakeWhile_eq_nil_iff.mpr
  intro some
  exact List.rdropWhile_last_not _ _ some

end OpenLine

/-- The text behind one more line feed is the text behind that many after the first one. -/
theorem behindLines?_succ {n : Nat} {text rest : List Nat} :
    behindLines? (n + 1) text = some rest ↔ ∃ u later, text = u ++ '\n'.toNat :: later ∧
      '\n'.toNat ∉ u ∧ behindLines? n later = some rest := by
  constructor
  · intro same
    obtain ⟨later, dropped, behind⟩ := Option.bind_eq_some_iff.mp same
    cases split : text.dropWhile (· ≠ '\n'.toNat) with
    | nil =>
      rw [split] at dropped
      cases dropped
    | cons m more =>
      have feed : m = '\n'.toNat := by
        have stops := List.head?_dropWhile_not (· ≠ '\n'.toNat) text
        rw [split] at stops
        simpa using stops
      rw [split] at dropped
      cases dropped
      refine ⟨text.takeWhile (· ≠ '\n'.toNat), later, ?_, fun inside => ?_, behind⟩
      · calc text = text.takeWhile (· ≠ '\n'.toNat) ++ text.dropWhile (· ≠ '\n'.toNat) :=
              List.takeWhile_append_dropWhile.symm
          _ = text.takeWhile (· ≠ '\n'.toNat) ++ '\n'.toNat :: later := by rw [split, feed]
      · simpa using List.mem_takeWhile_imp inside
  · intro ⟨u, later, split, free, behind⟩
    have dropped : text.dropWhile (· ≠ '\n'.toNat) = '\n'.toNat :: later := by
      rw [split, List.dropWhile_append_of_pos]
      · simp
      · intro m inside
        exact decide_eq_true fun same => free (same ▸ inside)
    show (text.dropWhile (· ≠ '\n'.toNat)).tail?.bind (behindLines? n) = _
    rw [dropped]
    exact behind

/-- The text behind some line feeds is the text behind whole lines with that many. -/
theorem behindLines?_eq_some {n : Nat} {text rest : List Nat} : behindLines? n text = some rest ↔
    ∃ lines, text = lines ++ rest ∧ lines.count '\n'.toNat = n ∧ openLine lines = [] := by
  induction n generalizing text with
  | zero =>
    constructor
    · intro same
      cases same
      exact ⟨[], rfl, rfl, rfl⟩
    · intro ⟨lines, split, count, whole⟩
      have empty : lines = [] := by
        rw [← openLine_of_notMem (List.count_eq_zero.mp count), whole]
      rw [split, empty]
      rfl
  | succ n ih =>
    rw [behindLines?_succ]
    constructor
    · intro ⟨u, later, split, free, behind⟩
      obtain ⟨lines, rfl, count, whole⟩ := ih.mp behind
      refine ⟨u ++ '\n'.toNat :: lines, by simp [split], ?_, ?_⟩
      · rw [List.count_append, List.count_eq_zero.mpr free, List.count_cons_self, count]
        omega
      · rw [openLine_append_lineFeed, whole]
    · intro ⟨lines, split, count, whole⟩
      have some : '\n'.toNat ∈ lines := by
        apply List.count_pos_iff.mp
        omega
      obtain ⟨u, v, rfl, free⟩ := List.eq_append_cons_of_mem some
      rw [openLine_append_lineFeed] at whole
      rw [List.count_append, List.count_eq_zero.mpr free, List.count_cons_self] at count
      exact ⟨u, v ++ rest, by simp [split], free, ih.mpr ⟨v, rfl, by omega, whole⟩⟩

namespace Location

variable {l : Location} {text rest : List Nat}

/-- The start of a text. -/
theorem Behind.start (file : String) : Behind ⟨1, 1, file⟩ [] := ⟨rfl, rfl⟩

/-- A code point further. -/
theorem Behind.after (behind : l.Behind text) (n : Nat) :
    (Trace.after l n).Behind (text ++ [n]) := by
  obtain ⟨line, column⟩ := behind
  unfold Trace.after
  split
  case isTrue feed =>
    subst feed
    constructor
    · simp [line]
    · rw [openLine_append_lineFeed]
      rfl
  case isFalse other =>
    have more : openLine (text ++ [n]) = openLine text ++ [n] :=
      List.rtakeWhile_concat_pos _ _ _ (decide_eq_true other)
    constructor
    · rw [List.count_append, List.count_singleton, if_neg (by simpa using other)]
      exact line
    · simp [column, more]

/-- Some code points further. -/
theorem Behind.foldl (behind : l.Behind text) (more : List Nat) :
    (more.foldl Trace.after l).Behind (text ++ more) := by
  induction more generalizing l text with
  | nil => rwa [List.append_nil]
  | cons n more ih =>
    have next := ih (behind.after n)
    rwa [List.append_assoc] at next

/-- The text from a place on is what is left of the text when the place is right behind a first part
    of it. -/
theorem rest?_eq_some :
    l.rest? text = some rest ↔ ∃ before, text = before ++ rest ∧ l.Behind before := by
  obtain ⟨line, column, file⟩ := l
  constructor
  · intro same
    match line, column with
    | 0, _ | _ + 1, 0 => cases same
    | n + 1, k + 1 =>
      obtain ⟨later, behind, here⟩ := Option.bind_eq_some_iff.mp same
      obtain ⟨lines, rfl, count, whole⟩ := behindLines?_eq_some.mp behind
      split at here
      case isFalse => cases here
      case isTrue inLine =>
        cases here
        have free : '\n'.toNat ∉ later.take k := by
          intro inside
          have front : later.take k <+: later.takeWhile (· ≠ '\n'.toNat) := by
            apply List.prefix_of_prefix_length_le (List.take_prefix k later)
              (List.takeWhile_prefix _)
            exact (List.length_take_le k later).trans inLine
          simpa using List.mem_takeWhile_imp (front.subset inside)
        have enough : k ≤ later.length := inLine.trans (List.takeWhile_prefix _).length_le
        refine ⟨lines ++ later.take k, by simp, ?_, ?_⟩
        · rw [List.count_append, count, List.count_eq_zero.mpr free]
        · rw [openLine_append whole free, List.length_take_of_le enough]
  · intro ⟨before, split, lineCount, columnCount⟩
    obtain ⟨lines, whole, closed⟩ := exists_openLine before
    have free := notMem_openLine before
    have count : before.count '\n'.toNat = lines.count '\n'.toNat := by
      rw [whole, List.count_append, List.count_eq_zero.mpr free]
      rfl
    have behind : behindLines? (before.count '\n'.toNat) text = some (openLine before ++ rest) :=
      behindLines?_eq_some.mpr ⟨lines, by rw [split, ← List.append_assoc, ← whole], count.symm, closed⟩
    have inLine : (openLine before).length ≤
        ((openLine before ++ rest).takeWhile (· ≠ '\n'.toNat)).length := by
      rw [List.takeWhile_append_of_pos]
      · simp
      · intro m inside
        exact decide_eq_true fun same => free (same ▸ inside)
    simp only at lineCount columnCount
    subst lineCount columnCount
    simp only [rest?, behind, Option.bind_some, if_pos inLine, List.drop_left]

/-- Counting along a text leads to the place of what is left. -/
theorem rest?_foldl_after {more : List Nat} (here : l.rest? text = some (more ++ rest)) :
    (more.foldl Trace.after l).rest? text = some rest := by
  obtain ⟨before, split, behind⟩ := rest?_eq_some.mp here
  exact rest?_eq_some.mpr ⟨before ++ more, by rw [split, List.append_assoc], behind.foldl more⟩

/-- A text starts at its first line and column. -/
theorem rest?_start (file : String) (text : List Nat) :
    Location.rest? ⟨1, 1, file⟩ text = some text :=
  rest?_eq_some.mpr ⟨[], rfl, .start file⟩

end Location

end PointerTrace
