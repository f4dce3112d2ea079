import Mathlib.Data.List.Basic
import PointerTrace.Proofs.LastWrite
import PointerTrace.Proofs.Numerals
import PointerTrace.Report.Verdict

/- The table of a verdict. A row has the cells that its bars leave, but for the bars that a backslash
   escapes. The bars in a message are escaped when a row is written, and names are written as they are:
   not every table keeps its shape (`not_forall_isTable`). It does exactly if no name in it ends a line
   or has a bar that counts (`markdown_isTable`). Both readings of a backslash are covered: that it
   escapes what stands behind it in any case, and that it does so unless it is escaped itself; and
   whatever characters are taken to end lines, as long as a line feed does and the printable characters
   of ASCII do not. -/
namespace PointerTrace.Report

/-! ## Cells -/

/-- How a backslash escapes the character behind it: in any case, or unless it is escaped itself. -/
inductive Escaping where
  | always
  | alternating
  deriving DecidableEq, Repr

namespace Escaping

/-- Whether a character escapes the next one; it may be escaped itself. -/
def escapes (e : Escaping) (escaped : Bool) (c : Char) : Bool :=
  c = '\\' && (e = .always || !escaped)

/-- The number of bars that are escaped, or that are not, among characters of which the first one may be
    escaped. -/
def countBars (e : Escaping) (counted : Bool) : Bool → List Char → Nat
  | _, [] => 0
  | escaped, c :: rest => (if c = '|' ∧ escaped = counted then 1 else 0) +
      countBars e counted (e.escapes escaped c) rest

/-- The number of bars of a line that set cells apart. -/
def bars (e : Escaping) (line : List Char) : Nat := e.countBars false false line

end Escaping

/-- The lines of a text, as some characters end lines. -/
def linesBy (ends : Char → Bool) (s : String) : List (List Char) := s.toList.splitOnP ends

/-- A text is a table with a number of data rows: a header, a line of dashes, and one line for each data
    row, all of them with as many cells as the header. -/
def IsTable (e : Escaping) (ends : Char → Bool) (rows : Nat) (s : String) : Prop :=
  ∃ header dashes data, linesBy ends s = header :: dashes :: data ∧ data.length = rows ∧
    e.bars dashes = e.bars header ∧ ∀ line ∈ data, e.bars line = e.bars header

/-! ## The parts of a report -/

/-- What stands over the table of a verdict. -/
def heading : Verdict → String
  | .sound program .. => "## borrowstack: ✅ SOUND — " ++ code program
  | .violation v => "## borrowstack: ❌ VIOLATION — " ++ code v.program

/-- The head of the table of a verdict. -/
def tableHead : Verdict → String × String
  | .sound .. => ("| Allocation | Final value |", "|------------|-------------|")
  | .violation _ => ("| Instruction | Allocation | Rule | Message |",
      "|-------------|------------|------|---------|")

/-- The data row of an allocation and its final value. -/
def valueRow (p : String × Int) : String := "| " ++ code p.1 ++ " | " ++ Decimal.ofInt p.2 ++ " |"

/-- The data row of a violation. -/
def violationRow (v : Violation) : String :=
  "| " ++ Decimal.ofNat v.index ++ " | " ++ code v.allocation ++ " | " ++ v.rule.name ++ " | " ++
    escapeBars v.message ++ " |"

/-- The data rows of a verdict: one for each allocation, or one for a violation. -/
def dataRows : Verdict → List String
  | .sound _ _ finalValues _ => finalValues.map valueRow
  | .violation v => [violationRow v]

/-- The table of a verdict. -/
def table (r : Verdict) : String :=
  joinLines ((tableHead r).1 :: (tableHead r).2 :: dataRows r)

/-- What stands under the table of a verdict. -/
def footing : Verdict → String
  | .sound .. => ""
  | .violation v => if v.stack.isEmpty then "" else
      "\n\n" ++ ("> Borrow stack at the fault: " ++ code (" ".intercalate v.stack))

theorem joinLines_append {l k : List String} (some : l ≠ []) (more : k ≠ []) :
    joinLines (l ++ k) = joinLines l ++ "\n" ++ joinLines k :=
  String.intercalate_append_of_ne_nil some more

/-- A table stands between blank lines. -/
theorem markdown_eq (r : Verdict) : markdown r = heading r ++ "\n\n" ++ table r ++ footing r := by
  have feeds : "\n\n" = "\n" ++ "\n" := rfl
  have headed : ∀ (head : String) (l : List String), l ≠ [] →
      joinLines ([head, ""] ++ l) = head ++ "\n\n" ++ joinLines l := by
    intro head l some
    have blank : joinLines [head, ""] = head ++ "\n" := by simp [joinLines]
    rw [joinLines_append (by simp) some, blank, feeds]
    simp only [String.append_assoc]
  cases r with
  | sound program steps finalValues reads =>
    rw [footing, String.append_empty]
    exact headed _ _ (by simp)
  | violation v =>
    have whole : markdown (.violation v) = joinLines (([heading (.violation v), ""] ++
        [(tableHead (.violation v)).1, (tableHead (.violation v)).2, violationRow v]) ++
        if v.stack.isEmpty then [] else
          ["", "> Borrow stack at the fault: " ++ code (" ".intercalate v.stack)]) := rfl
    rw [whole, footing]
    cases v.stack.isEmpty with
    | true =>
      rw [if_pos rfl, if_pos rfl, List.append_nil, String.append_empty]
      exact headed _ _ (by simp)
    | false =>
      rw [if_neg (by simp), if_neg (by simp), joinLines_append (by simp) (by simp), headed _ _ (by simp)]
      have under : ∀ foot : String, joinLines ["", foot] = "\n" ++ foot := by simp [joinLines]
      rw [under, feeds]
      simp only [String.append_assoc]
      rfl

/-! ## Lines -/

section Lines

variable {ends : Char → Bool} {e : Escaping} {width : Nat} {s : String}

theorem linesBy_of_not_ends (whole : ∀ c ∈ s.toList, ends c = false) : linesBy ends s = [s.toList] :=
  List.splitOnP_eq_singleton whole

/-- A line end inside a text cuts it into two lines at least. -/
theorem not_ends_of_length_linesBy (single : (linesBy ends s).length = 1) :
    ∀ c ∈ s.toList, ends c = false := by
  intro c inside
  cases ended : ends c with
  | false => rfl
  | true =>
    obtain ⟨before, after, split⟩ := List.append_of_mem inside
    have first := List.length_pos_iff.mpr (List.splitOnP_ne_nil ends before)
    have second := List.length_pos_iff.mpr (List.splitOnP_ne_nil ends after)
    rw [linesBy, split, List.splitOnP_append_cons _ _ ended, List.length_append] at single
    omega

theorem linesBy_joinLines (feed : ends '\n' = true) {l : List String} (some : l ≠ []) :
    linesBy ends (joinLines l) = l.flatMap (linesBy ends) := by
  induction l with
  | nil => exact absurd rfl some
  | cons a l ih =>
    cases l with
    | nil => simp [joinLines]
    | cons b l =>
      have rest := ih (by simp)
      have whole : (joinLines (a :: b :: l)).toList = a.toList ++ '\n' :: (joinLines (b :: l)).toList := by
        simp [joinLines]
      rw [linesBy, whole, List.splitOnP_append_cons _ _ feed, List.flatMap_cons, ← rest]
      rfl

theorem length_le_flatMap {α β : Type} {f : α → List β} (some : ∀ x, f x ≠ []) (l : List α) :
    l.length ≤ (l.flatMap f).length := by
  induction l with
  | nil => simp
  | cons x l ih =>
    have := List.length_pos_iff.mpr (some x)
    simp only [List.flatMap_cons, List.length_append, List.length_cons]
    omega

/-- Nonempty parts that are as many as their elements have one element each. -/
theorem length_eq_one_of_flatMap {α β : Type} {f : α → List β} (some : ∀ x, f x ≠ []) {l : List α}
    (same : (l.flatMap f).length = l.length) : ∀ x ∈ l, (f x).length = 1 := by
  induction l with
  | nil => simp
  | cons x l ih =>
    have first := List.length_pos_iff.mpr (some x)
    have more := length_le_flatMap some l
    simp only [List.flatMap_cons, List.length_append, List.length_cons] at same
    intro y inside
    rcases List.mem_cons.mp inside with rfl | later
    · omega
    · exact ih (by omega) y later

/-- A text is one line with a number of bars. -/
def IsRow (e : Escaping) (ends : Char → Bool) (width : Nat) (s : String) : Prop :=
  (∀ c ∈ s.toList, ends c = false) ∧ e.bars s.toList = width

/-- A table is one line for each of its rows. -/
theorem isTable_joinLines (feed : ends '\n' = true) {header dashes : String} {rows : List String}
    (first : IsRow e ends width header) (second : IsRow e ends width dashes) :
    IsTable e ends rows.length (joinLines (header :: dashes :: rows)) ↔
      ∀ row ∈ rows, IsRow e ends width row := by
  have lines : linesBy ends (joinLines (header :: dashes :: rows)) =
      header.toList :: dashes.toList :: rows.flatMap (linesBy ends) := by
    rw [linesBy_joinLines feed (by simp), List.flatMap_cons, List.flatMap_cons,
      linesBy_of_not_ends first.1, linesBy_of_not_ends second.1]
    rfl
  unfold IsTable
  rw [lines]
  constructor
  · rintro ⟨_, _, _, ⟨⟩, count, -, cells⟩ row inside
    have some : ∀ row, linesBy ends row ≠ [] := fun row => List.splitOnP_ne_nil ends row.toList
    have whole := not_ends_of_length_linesBy (length_eq_one_of_flatMap some count row inside)
    refine ⟨whole, ?_⟩
    rw [← first.2]
    apply cells
    exact List.mem_flatMap.mpr ⟨row, inside, by simp [linesBy_of_not_ends whole]⟩
  · intro fit
    have single : rows.flatMap (linesBy ends) = rows.map String.toList := by
      rw [List.map_eq_flatMap]
      exact List.flatMap_congr fun row among => linesBy_of_not_ends (fit row among).1
    refine ⟨_, _, _, rfl, by simp [single], second.2.trans first.2.symm, ?_⟩
    intro line inside
    rw [single, List.mem_map] at inside
    obtain ⟨row, among, rfl⟩ := inside
    exact (fit row among).2.trans first.2.symm

end Lines

/-! ## Bars -/

/-- A printable character of ASCII. -/
def isPrintable (c : Char) : Bool := 32 ≤ c.toNat && c.toNat ≤ 126

/-- A printable character of ASCII that is neither a bar nor a backslash. -/
def isOrdinary (c : Char) : Bool := isPrintable c && c ≠ '|' && c ≠ '\\'

/-- A text of ordinary characters. -/
def Ordinary (s : String) : Prop := s.toList.all isOrdinary = true

instance (s : String) : Decidable (Ordinary s) :=
  inferInstanceAs (Decidable (s.toList.all isOrdinary = true))

theorem ordinary_append {s t : String} : Ordinary (s ++ t) ↔ Ordinary s ∧ Ordinary t := by
  simp [Ordinary]

theorem isOrdinary_of_isDigit {c : Char} (digit : c.isDigit = true) : isOrdinary c = true := by
  simp only [Char.isDigit, Bool.and_eq_true, decide_eq_true_eq, ge_iff_le,
    UInt32.le_iff_toNat_le] at digit
  have low : 48 ≤ c.toNat := digit.1
  have high : c.toNat ≤ 57 := digit.2
  have other : ∀ d : Char, 57 < d.toNat → c ≠ d := by
    rintro d large rfl
    omega
  simp only [isOrdinary, isPrintable, Bool.and_eq_true, decide_eq_true_eq]
  exact ⟨⟨⟨by omega, by omega⟩, other '|' (by decide)⟩, other '\\' (by decide)⟩

theorem ordinary_ofNat (n : Nat) : Ordinary (Decimal.ofNat n) := by
  rw [Ordinary, Decimal.ofNat, String.toList_ofList, List.all_eq_true]
  intro c inside
  exact isOrdinary_of_isDigit (Decimal.isDigit_of_mem_digits inside)

theorem ordinary_ofInt (n : Int) : Ordinary (Decimal.ofInt n) := by
  cases n with
  | ofNat n => exact ordinary_ofNat n
  | negSucc n => exact ordinary_append.mpr ⟨by decide, ordinary_ofNat (n + 1)⟩

theorem ordinary_tag (t : Tag) : Ordinary t.text := by
  simp only [Tag.text, ordinary_append]
  exact ⟨⟨by decide, ordinary_ofInt t.serial⟩, by decide⟩

theorem ordinary_access (access : Access) : Ordinary access.name := by
  cases access <;> decide

theorem ordinary_rule (rule : Rule) : Ordinary rule.name := by
  cases rule <;> decide

/-- A text that quotes a name once, between ordinary characters. -/
def Quotes (name s : String) : Prop :=
  ∃ before after, Ordinary before ∧ Ordinary after ∧ s = before ++ ("'" ++ name ++ "'") ++ after

section Quotes

variable {name s t : String}

theorem Quotes.alone (name : String) : Quotes name ("'" ++ name ++ "'") :=
  ⟨"", "", by decide, by decide, by simp⟩

theorem Quotes.behind (ordinary : Ordinary t) (quotes : Quotes name s) : Quotes name (t ++ s) := by
  obtain ⟨before, after, front, back, rfl⟩ := quotes
  exact ⟨t ++ before, after, ordinary_append.mpr ⟨ordinary, front⟩, back,
    by simp only [String.append_assoc]⟩

theorem Quotes.before (quotes : Quotes name s) (ordinary : Ordinary t) : Quotes name (s ++ t) := by
  obtain ⟨before, after, front, back, rfl⟩ := quotes
  exact ⟨before, after ++ t, front, ordinary_append.mpr ⟨back, ordinary⟩,
    by simp only [String.append_assoc]⟩

/-- A message quotes the name of the allocation. -/
theorem quotes_message (f : AccessFault) : Quotes f.allocation f.message := by
  have access := ordinary_access f.access
  have named := Quotes.alone f.allocation
  unfold AccessFault.message
  cases f.cause with
  | untagged =>
    refine named.behind ?_
    simp only [ordinary_append, access, and_true]
    decide
  | gone t =>
    refine (named.behind ?_).before (by decide)
    simp only [ordinary_append, access, ordinary_tag, and_true]
    decide
  | parentGone t =>
    refine (named.behind ?_).before (by decide)
    simp only [ordinary_append, ordinary_tag, and_true]
    decide
  | parentDisabled t =>
    refine (named.behind ?_).before (by decide)
    simp only [ordinary_append, ordinary_tag, and_true]
    decide
  | conflict t holder =>
    refine named.behind ?_
    simp only [ordinary_append, access, ordinary_tag, and_true, true_and]
    decide
  | disabled t =>
    refine (named.behind ?_).before (by decide)
    simp only [ordinary_append, ordinary_tag, and_true]
    decide
  | readOnly t =>
    refine (named.behind ?_).before (by decide)
    simp only [ordinary_append, ordinary_tag, and_true]
    decide

end Quotes

namespace Escaping

variable {e : Escaping} {counted escaped : Bool} {c : Char} {l rest : List Char}

/-- An ordinary character separates what stands before it from what stands behind it. -/
theorem countBars_append (ordinary : isOrdinary c = true) : e.countBars counted escaped (l ++ c :: rest) =
    e.countBars counted escaped l + e.countBars counted false rest := by
  simp only [isOrdinary, Bool.and_eq_true, decide_eq_true_eq] at ordinary
  induction l generalizing escaped with
  | nil => simp [countBars, escapes, ordinary.1.2, ordinary.2]
  | cons d l ih => simp [countBars, ih, Nat.add_assoc]

theorem countBars_ordinary (ordinary : l.all isOrdinary = true) :
    e.countBars counted escaped l = 0 := by
  induction l generalizing escaped with
  | nil => rfl
  | cons c l ih =>
    rw [List.all_cons, Bool.and_eq_true] at ordinary
    have split : e.countBars counted escaped ([] ++ c :: l) = _ := countBars_append ordinary.1
    rw [List.nil_append] at split
    rw [split, ih ordinary.2]
    rfl

theorem countBars_true (l : List Char) : e.countBars false escaped l + e.countBars true escaped l =
    l.count '|' := by
  induction l generalizing escaped with
  | nil => rfl
  | cons c l ih =>
    have more : e.countBars false (e.escapes escaped c) l + e.countBars true (e.escapes escaped c) l =
        l.count '|' := ih
    simp only [countBars, List.count_cons]
    cases escaped <;> by_cases bar : c = '|' <;> simp [bar] at more ⊢ <;> omega

/-- Where a backslash escapes in any case, no bar counts once all of them are escaped. Otherwise those
    count that had been escaped before. -/
theorem countBars_flatMap (l : List Char) :
    e.countBars false escaped (l.flatMap fun c => if c = '|' then ['\\', '|'] else [c]) =
      if e = .always then 0 else e.countBars true escaped l := by
  induction l generalizing escaped with
  | nil => simp [countBars]
  | cons c l ih =>
    by_cases bar : c = '|'
    · cases e <;> cases escaped <;> simp [bar, countBars, escapes, ih]
    · simp [bar, countBars, ih]

theorem bars_escapeBars (s : String) : e.bars (escapeBars s).toList =
    if e = .always then 0 else e.countBars true false s.toList := by
  rw [bars, escapeBars, String.toList_ofList]
  exact countBars_flatMap s.toList

/-- The bars of a text that quotes a name are those of the name. -/
theorem countBars_of_quotes {name s : String} (quotes : Quotes name s) :
    e.countBars counted false s.toList = e.countBars counted false name.toList := by
  obtain ⟨before, after, front, back, rfl⟩ := quotes
  have split : (before ++ ("'" ++ name ++ "'") ++ after).toList =
      before.toList ++ '\'' :: (name.toList ++ '\'' :: after.toList) := by simp
  rw [split, countBars_append (by decide), countBars_append (by decide), countBars_ordinary front,
    countBars_ordinary back]
  omega

end Escaping

/-! ## Rows -/

section Rows

variable {ends : Char → Bool} {e : Escaping}

/-- A text ends no line and has no bar that sets cells apart. -/
def Fits (e : Escaping) (ends : Char → Bool) (s : String) : Prop := IsRow e ends 0 s

/-- What may be taken to end lines: a line feed does, and no printable character of ASCII. -/
structure LineEnds (ends : Char → Bool) : Prop where
  feed : ends '\n' = true
  printable : ∀ c, isPrintable c = true → ends c = false

/-- Cells between bars. -/
def cellsBehind (cells : List String) : List Char :=
  cells.flatMap fun cell => ' ' :: (cell.toList ++ [' ', '|'])

/-- The row of some cells. -/
def rowOf (cells : List String) : String := String.ofList ('|' :: cellsBehind cells)

theorem valueRow_eq (p : String × Int) : valueRow p = rowOf [code p.1, Decimal.ofInt p.2] := by
  apply String.toList_inj.mp
  simp [valueRow, rowOf, cellsBehind]

theorem violationRow_eq (v : Violation) : violationRow v =
    rowOf [Decimal.ofNat v.index, code v.allocation, v.rule.name, escapeBars v.message] := by
  apply String.toList_inj.mp
  simp [violationRow, rowOf, cellsBehind]

theorem bars_cellsBehind_cons (cell : String) (cells : List String) :
    e.bars (cellsBehind (cell :: cells)) = e.bars cell.toList + 1 + e.bars (cellsBehind cells) := by
  have split : cellsBehind (cell :: cells) =
      [] ++ ' ' :: (cell.toList ++ ' ' :: '|' :: cellsBehind cells) := by
    simp [cellsBehind]
  have bar : e.bars ('|' :: cellsBehind cells) = 1 + e.bars (cellsBehind cells) := rfl
  have none : e.bars [] = 0 := rfl
  unfold Escaping.bars at bar none ⊢
  rw [split, Escaping.countBars_append (by decide), Escaping.countBars_append (by decide), bar, none]
  omega

theorem length_le_bars (cells : List String) : cells.length ≤ e.bars (cellsBehind cells) := by
  induction cells with
  | nil => exact Nat.le_refl 0
  | cons cell cells ih =>
    rw [bars_cellsBehind_cons, List.length_cons]
    omega

theorem bars_cellsBehind_eq (cells : List String) : e.bars (cellsBehind cells) = cells.length ↔
    ∀ cell ∈ cells, e.bars cell.toList = 0 := by
  induction cells with
  | nil => simp [cellsBehind, Escaping.bars, Escaping.countBars]
  | cons cell cells ih =>
    have more := length_le_bars (e := e) cells
    rw [List.forall_mem_cons, ← ih, bars_cellsBehind_cons, List.length_cons]
    omega

/-- A row has as many cells as it should exactly if each of them fits. -/
theorem isRow_rowOf (lines : LineEnds ends) (cells : List String) :
    IsRow e ends (cells.length + 1) (rowOf cells) ↔ ∀ cell ∈ cells, Fits e ends cell := by
  have blank : ends ' ' = false := lines.printable ' ' (by decide)
  have bar : ends '|' = false := lines.printable '|' (by decide)
  have count : e.bars (rowOf cells).toList = cells.length + 1 ↔
      ∀ cell ∈ cells, e.bars cell.toList = 0 := by
    have front : e.bars ('|' :: cellsBehind cells) = 1 + e.bars (cellsBehind cells) := rfl
    rw [rowOf, String.toList_ofList, front, ← bars_cellsBehind_eq]
    omega
  have whole : (∀ c ∈ (rowOf cells).toList, ends c = false) ↔
      ∀ cell ∈ cells, ∀ c ∈ cell.toList, ends c = false := by
    simp only [rowOf, cellsBehind, String.toList_ofList, List.mem_cons, List.mem_flatMap,
      List.mem_append, List.not_mem_nil, or_false]
    constructor
    · intro all cell among c inside
      exact all c (.inr ⟨cell, among, .inr (.inl inside)⟩)
    · rintro all c (rfl | ⟨cell, among, rfl | inside | rfl | rfl⟩)
      · exact bar
      · exact blank
      · exact all cell among c inside
      · exact blank
      · exact bar
  unfold Fits IsRow
  rw [count, whole]
  simp only [imp_and, forall_and]

theorem LineEnds.ordinary (lines : LineEnds ends) {s : String} (ordinary : Ordinary s) :
    ∀ c ∈ s.toList, ends c = false := by
  intro c inside
  have plain := List.all_eq_true.mp ordinary c inside
  simp only [isOrdinary, Bool.and_eq_true] at plain
  exact lines.printable c plain.1.1

theorem LineEnds.fits (lines : LineEnds ends) {s : String} (ordinary : Ordinary s) : Fits e ends s :=
  ⟨lines.ordinary ordinary, e.countBars_ordinary ordinary⟩

theorem fits_code (lines : LineEnds ends) (name : String) :
    Fits e ends (code name) ↔ Fits e ends name := by
  have mark : ends '\x60' = false := lines.printable '\x60' (by decide)
  have split : (code name).toList = [] ++ '\x60' :: (name.toList ++ '\x60' :: []) := by
    simp [code]
  have count : e.bars (code name).toList = e.bars name.toList := by
    unfold Escaping.bars
    rw [split, Escaping.countBars_append (by decide), Escaping.countBars_append (by decide)]
    simp [Escaping.countBars]
  have whole : (∀ c ∈ (code name).toList, ends c = false) ↔ ∀ c ∈ name.toList, ends c = false := by
    simp [split, or_imp, forall_and, mark]
  rw [Fits, Fits, IsRow, IsRow, count, whole]

/-- A message fits its cell if the name that it quotes ends no line, and has no bar escaped already
    unless such a bar stays escaped. -/
theorem fits_escapeBars (lines : LineEnds ends) {name s : String} (quotes : Quotes name s) :
    Fits e ends (escapeBars s) ↔ (∀ c ∈ name.toList, ends c = false) ∧
      (e = .alternating → e.countBars true false name.toList = 0) := by
  have slash : ends '\\' = false := lines.printable '\\' (by decide)
  have bar : ends '|' = false := lines.printable '|' (by decide)
  have count : e.bars (escapeBars s).toList = 0 ↔
      (e = .alternating → e.countBars true false name.toList = 0) := by
    rw [Escaping.bars_escapeBars, Escaping.countBars_of_quotes quotes]
    cases e <;> simp
  have escaped : (∀ c ∈ (escapeBars s).toList, ends c = false) ↔ ∀ c ∈ s.toList, ends c = false := by
    rw [escapeBars, String.toList_ofList]
    simp only [List.mem_flatMap, forall_exists_index, and_imp]
    constructor
    · intro all c inside
      refine all c c inside ?_
      split <;> simp_all
    · intro all c d inside here
      split at here <;> simp only [List.mem_cons, List.not_mem_nil, or_false] at here
      · rcases here with rfl | rfl
        · exact slash
        · exact bar
      · exact here ▸ all d inside
  have quoted : (∀ c ∈ s.toList, ends c = false) ↔ ∀ c ∈ name.toList, ends c = false := by
    obtain ⟨before, after, front, back, rfl⟩ := quotes
    have mark : ends '\'' = false := lines.printable '\'' (by decide)
    have first := lines.ordinary front
    have last := lines.ordinary back
    constructor
    · intro all c inside
      exact all c (by simp [inside])
    · intro all c inside
      simp only [String.toList_append, List.mem_append] at inside
      rcases inside with (inside | (inside | inside) | inside) | inside
      · exact first c inside
      · simp_all
      · exact all c inside
      · simp_all
      · exact last c inside
  rw [Fits, IsRow, escaped, quoted, count]

/-- The row of an allocation has its cells exactly if the name fits. -/
theorem isRow_valueRow (lines : LineEnds ends) (p : String × Int) :
    IsRow e ends 3 (valueRow p) ↔ Fits e ends p.1 := by
  have cells := isRow_rowOf (e := e) lines [code p.1, Decimal.ofInt p.2]
  rw [valueRow_eq]
  refine cells.trans ?_
  simp [fits_code lines, lines.fits (ordinary_ofInt p.2)]

/-- The row of a violation has its cells exactly if the name fits and, where a backslash may be escaped
    itself, has no bar at all: one that is escaped in the name is not in the message. -/
theorem isRow_violationRow (lines : LineEnds ends) (v : Violation) :
    IsRow e ends 5 (violationRow v) ↔
      Fits e ends v.allocation ∧ (e = .alternating → '|' ∉ v.allocation.toList) := by
  have quotes : Quotes v.allocation v.message := quotes_message v.fault.access
  have sum : e.bars v.allocation.toList + e.countBars true false v.allocation.toList =
      v.allocation.toList.count '|' := Escaping.countBars_true _
  rw [violationRow_eq]
  refine (isRow_rowOf lines
    [Decimal.ofNat v.index, code v.allocation, v.rule.name, escapeBars v.message]).trans ?_
  simp only [List.forall_mem_cons, lines.fits (ordinary_ofNat v.index), fits_code lines,
    lines.fits (ordinary_rule v.rule), fits_escapeBars lines quotes, true_and]
  constructor
  · rintro ⟨fits, ⟨-, escaped⟩, -⟩
    refine ⟨fits, ?_⟩
    intro alternating
    rw [← List.count_eq_zero, ← sum, fits.2, escaped alternating]
  · rintro ⟨fits, none⟩
    refine ⟨fits, ⟨fits.1, ?_⟩, by simp⟩
    intro alternating
    have := List.count_eq_zero.mpr (none alternating)
    omega

end Rows

/-! ## The tables of verdicts -/

section Tables

variable {ends : Char → Bool} {e : Escaping} {p : Program} {o : CheckOptions}

/-- The number of bars in a row of the table of a verdict. -/
def width : Verdict → Nat
  | .sound .. => 3
  | .violation _ => 5

theorem LineEnds.isRow (lines : LineEnds ends) {s : String} {n : Nat}
    (plain : s.toList.all isPrintable = true) (count : e.bars s.toList = n) : IsRow e ends n s :=
  ⟨fun c inside => lines.printable c (List.all_eq_true.mp plain c inside), count⟩

theorem isRow_tableHead (lines : LineEnds ends) (r : Verdict) :
    IsRow e ends (width r) (tableHead r).1 ∧ IsRow e ends (width r) (tableHead r).2 := by
  cases r with
  | sound program steps finalValues reads =>
    refine ⟨lines.isRow (s := "| Allocation | Final value |") (by decide) ?_,
      lines.isRow (s := "|------------|-------------|") (by decide) ?_⟩
    · show e.bars _ = 3
      cases e <;> decide
    · show e.bars _ = 3
      cases e <;> decide
  | violation v =>
    refine ⟨lines.isRow (s := "| Instruction | Allocation | Rule | Message |") (by decide) ?_,
      lines.isRow (s := "|-------------|------------|------|---------|") (by decide) ?_⟩
    · show e.bars _ = 5
      cases e <;> decide
    · show e.bars _ = 5
      cases e <;> decide

theorem isTable_table (lines : LineEnds ends) (r : Verdict) :
    IsTable e ends (dataRows r).length (table r) ↔ ∀ row ∈ dataRows r, IsRow e ends (width r) row :=
  isTable_joinLines lines.feed (isRow_tableHead lines r).1 (isRow_tableHead lines r).2

/-- What is found sound ends with a value for each name that the program declares. -/
theorem names_finalValues {program : String} {steps : Nat} {finalValues : List (String × Int)}
    {reads : List Observation} (checked : p.check o = .ok (.sound program steps finalValues reads)) :
    finalValues.map Prod.fst = p.declarations p.length := by
  obtain ⟨last, done, rfl, -⟩ := Program.done_of_check checked
  have names : last.store.names = p.declarations p.length := ((p.run o).remembers done).names
  rw [← names, Store.values, Store.names, List.map_map]
  rfl

/-- The number of data rows that the table of a verdict on a program should have. -/
def rowsDue (p : Program) : Verdict → Nat
  | .sound .. => (p.declarations p.length).length
  | .violation _ => 1

/-- No name in the table of a verdict breaks it. The name of a violation stands in its message as well,
    where an escaped bar is no longer one if a backslash may be escaped itself. -/
def NamesFit (e : Escaping) (ends : Char → Bool) (p : Program) : Verdict → Prop
  | .sound .. => ∀ name ∈ p.declarations p.length, Fits e ends name
  | .violation v => Fits e ends v.allocation ∧ (e = .alternating → '|' ∉ v.allocation.toList)

theorem isTable_iff (lines : LineEnds ends) {r : Verdict}
    (checked : p.check o = .ok r) :
    IsTable e ends (rowsDue p r) (table r) ↔ NamesFit e ends p r := by
  have shape := isTable_table (e := e) lines r
  cases r with
  | sound program steps finalValues reads =>
    have names := names_finalValues checked
    have count : (dataRows (.sound program steps finalValues reads)).length =
        (p.declarations p.length).length := by
      simp [← names, dataRows]
    rw [count] at shape
    refine shape.trans ?_
    simp only [dataRows, width, NamesFit, ← names, List.forall_mem_map, isRow_valueRow lines]
  | violation v =>
    refine shape.trans ?_
    simp only [dataRows, List.forall_mem_singleton]
    exact isRow_violationRow lines v

/-- What is written of a verdict, if no number in it is too long to be written, has a table of one row
    for each allocation of a sound program, or of one row for a violation, exactly if no name in it breaks
    the table. -/
theorem markdown_isTable (lines : LineEnds ends) {r : Verdict}
    (checked : p.check o = .ok r) :
    (∀ style program, written? style .markdown program r =
      if canWrite .markdown r then some (markdown r) else none) ∧
    markdown r = heading r ++ "\n\n" ++ table r ++ footing r ∧
      (IsTable e ends (rowsDue p r) (table r) ↔ NamesFit e ends p r) :=
  ⟨fun _ _ => rfl, markdown_eq r, isTable_iff lines checked⟩

theorem lineEnds_feed : LineEnds (· = '\n') where
  feed := rfl
  printable := by
    intro c printable
    refine decide_eq_false ?_
    rintro rfl
    cases printable

/-- An allocation whose name has a bar behind a backslash, and a pointer into it that is used after it
    is written directly. -/
def escapedName : Program := ⟨[⟨.declare "a\\|b" 1 true false, none⟩,
  ⟨.borrow "a\\|b" .unique "r", none⟩, ⟨.write "a\\|b" 2, none⟩, ⟨.read "r" none, none⟩], "t", none, 0⟩

theorem markdown_isTable_escapedName : ∃ v, escapedName.check {} = .ok (.violation v) ∧
    v.allocation = "a\\|b" ∧ IsTable .always (· = '\n') 1 (table (.violation v)) ∧
    ¬ IsTable .alternating (· = '\n') 1 (table (.violation v)) := by
  obtain ⟨v, checked, named⟩ : ∃ v, escapedName.check {} = .ok (.violation v) ∧
      v.allocation = "a\\|b" := ⟨_, rfl, rfl⟩
  refine ⟨v, checked, named, ?_, ?_⟩
  · refine (markdown_isTable lineEnds_feed checked).2.2.mpr ?_
    rw [NamesFit, named]
    exact ⟨⟨by simp, by decide⟩, nofun⟩
  · intro kept
    have fits := (markdown_isTable lineEnds_feed checked).2.2.mp kept
    rw [NamesFit, named] at fits
    exact fits.2 rfl (by decide)

/-- An allocation whose name has a bar. -/
def barredName : Program := ⟨[⟨.declare "a|b" 1 false false, none⟩], "t", none, 0⟩

/-- However backslashes are read, not every table keeps its shape. -/
theorem not_forall_isTable : ¬ ∃ e : Escaping, ∀ (p : Program) (o : CheckOptions) (r : Verdict),
    p.check o = .ok r → IsTable e (· = '\n') (rowsDue p r) (table r) := by
  rintro ⟨e, kept⟩
  have checked : barredName.check {} = .ok (.sound "t" 1 [("a|b", 1)] []) := rfl
  have fits := (isTable_iff lineEnds_feed checked).mp (kept _ _ _ checked) "a|b" (by decide)
  have bars : e.bars "a|b".toList = 1 := by cases e <;> decide
  rw [Fits, IsRow, bars] at fits
  cases fits.2

end Tables

end PointerTrace.Report
