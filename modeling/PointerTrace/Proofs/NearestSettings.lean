import Mathlib.Data.List.Induction
import PointerTrace.Files.Discovery
import PointerTrace.Proofs.Relabel

/- The nearest settings file. The search looks for a settings file in a directory and goes on in the one
   above, until it has looked in the root, which is the directory above itself (`Tree.Searches`). It
   ends from every directory, and what it finds stands in the deepest directory on the way to the root
   that holds a settings file, under the first of the names that such a file may have there
   (`Tree.Nearest`). Only files count: a directory with such a name makes no difference. -/
namespace PointerTrace.Files

/-! ## Directories on the way to the root -/

theorem dropLast_eq_self {p : Place} : p.dropLast = p ↔ p = [] := by
  constructor
  · intro same
    have lengths := congrArg List.length same
    rw [List.length_dropLast] at lengths
    exact List.eq_nil_of_length_eq_zero (by omega)
  · rintro rfl
    rfl

theorem upwards_concat (p : Place) (name : String) :
    upwards (p ++ [name]).reverse = (p ++ [name]) :: upwards p.reverse := by
  rw [List.reverse_append, List.reverse_singleton, List.singleton_append, upwards,
    List.reverse_cons, List.reverse_reverse]

/-- The directories that are looked at are those on the way from a directory to the root. -/
theorem mem_upwards {p directory : Place} : p ∈ upwards directory.reverse ↔ p <+: directory := by
  induction directory using List.reverseRecOn with
  | nil => simp [upwards]
  | append_singleton directory name ih =>
    rw [upwards_concat, List.mem_cons, ih, List.prefix_concat_iff]

/-- The nearest directories come first. -/
theorem upwards_pairwise (directory : Place) :
    (upwards directory.reverse).Pairwise fun p q => q.length < p.length := by
  induction directory using List.reverseRecOn with
  | nil => simp [upwards]
  | append_singleton directory name ih =>
    rw [upwards_concat, List.pairwise_cons]
    refine ⟨?_, ih⟩
    intro p above
    have le := (mem_upwards.mp above).length_le
    rw [List.length_append, List.length_singleton]
    omega

/-! ## Paths -/

/-- A name that stands for itself in a path. -/
structure IsPlainName (name : String) : Prop where
  nonempty : name ≠ ""
  notHere : name ≠ "."
  notUp : name ≠ ".."
  unbroken : '/' ∉ name.toList

theorem normalize_of_plain {p names : Place} (plain : ∀ name ∈ names, IsPlainName name) :
    normalize p names = p ++ names := by
  induction names generalizing p with
  | nil => simp [normalize]
  | cons name names ih =>
    have first := plain name List.mem_cons_self
    have rest : ∀ other ∈ names, IsPlainName other := fun other among =>
      plain other (List.mem_cons_of_mem _ among)
    simp [normalize, first.nonempty, first.notHere, first.notUp, ih rest]

/-- The names of the path of a place. -/
theorem pathNames_text {p : Place} (plain : ∀ name ∈ p, IsPlainName name) (below : p ≠ []) :
    pathNames p.text = "" :: p := by
  have written : p.text.toList = ['/'].intercalate (([] : List Char) :: p.map String.toList) := by
    rw [Place.text, Place.textFrom, String.toList_append, String.toList_intercalate]
    cases p with
    | nil => exact absurd rfl below
    | cons name names => rfl
  have whole : ∀ part ∈ ([] : List Char) :: p.map String.toList, '/' ∉ part := by
    intro part among
    rcases List.mem_cons.mp among with rfl | among
    · exact List.not_mem_nil
    · obtain ⟨name, here, rfl⟩ := List.mem_map.mp among
      exact (plain name here).unbroken
  rw [pathNames, written, List.splitOn_intercalate _ whole (List.cons_ne_nil _ _), List.map_cons,
    List.map_map]
  simp

/-- A path names the place whose path it is, from wherever it is looked at. -/
theorem Tree.absolute_text (t : Tree) {p : Place} (plain : ∀ name ∈ p, IsPlainName name) :
    t.absolute p.text = p := by
  have fromRoot : isAbsolute p.text = true := by
    simp [isAbsolute, Place.text, Place.textFrom]
  rw [Tree.absolute, fromRoot, if_pos rfl]
  by_cases below : p = []
  · subst below
    decide
  · rw [pathNames_text plain below]
    simpa [normalize] using normalize_of_plain (p := []) plain

/-! ## The search -/

namespace Tree

variable {t : Tree} {directory : Place}

/-- The search for a settings file from a directory upwards, and what it gives. -/
inductive Searches (t : Tree) : Place → Option Place → Prop where
  | found {directory place : Place} (here : t.settingsIn? directory = some place) :
      t.Searches directory (some place)
  | top {directory : Place} (absent : t.settingsIn? directory = none)
      (root : directory.dropLast = directory) : t.Searches directory none
  | up {directory : Place} {outcome : Option Place} (absent : t.settingsIn? directory = none)
      (below : directory.dropLast ≠ directory) (above : t.Searches directory.dropLast outcome) :
      t.Searches directory outcome

theorem findSettings?_root : t.findSettings? [] = t.settingsIn? [] := by
  simp [findSettings?, upwards, List.findSome?_cons]
  cases t.settingsIn? [] <;> rfl

/-- A directory is looked at before those above it. -/
theorem findSettings?_concat (p : Place) (name : String) : t.findSettings? (p ++ [name]) =
    (t.settingsIn? (p ++ [name])).or (t.findSettings? p) := by
  rw [findSettings?, upwards_concat, List.findSome?_cons]
  cases t.settingsIn? (p ++ [name]) <;> rfl

/-- The search ends from every directory, with one outcome. -/
theorem searches_iff {outcome : Option Place} :
    t.Searches directory outcome ↔ t.findSettings? directory = outcome := by
  induction directory using List.reverseRecOn generalizing outcome with
  | nil =>
    rw [findSettings?_root]
    constructor
    · intro search
      cases search with
      | found here => exact here
      | top absent => exact absent
      | up _ below => exact absurd rfl below
    · rintro rfl
      cases here : t.settingsIn? [] with
      | some place => exact .found here
      | none => exact .top here rfl
  | append_singleton directory name ih =>
    rw [findSettings?_concat]
    have above : (directory ++ [name]).dropLast = directory := List.dropLast_concat
    constructor
    · intro search
      cases search with
      | found here => rw [here, Option.some_or]
      | top _ root => exact absurd (dropLast_eq_self.mp root) (by simp)
      | up absent _ rest =>
        rw [above] at rest
        rw [absent, Option.none_or, ih.mp rest]
    · rintro rfl
      cases here : t.settingsIn? (directory ++ [name]) with
      | some place => exact .found here
      | none =>
        refine .up here (fun root => ?_) ?_
        · exact absurd (dropLast_eq_self.mp root) (by simp)
        · rw [above, Option.none_or]
          exact ih.mpr rfl

/-! ## What is found -/

/-- A file with some content stands at a place. -/
def Regular (t : Tree) (p : Place) : Prop := ∃ bytes, t.at? p = some (.file bytes)

/-- A file with the name of a settings file stands in a directory. -/
def HoldsSettings (t : Tree) (p : Place) : Prop := ∃ name ∈ settingsNames, t.Regular (p ++ [name])

/-- The settings file of a name in a directory is the nearest one from a directory upwards. -/
structure Nearest (t : Tree) (directory above : Place) (name : String) : Prop where
  /-- It is looked for there. -/
  onTheWay : above <+: directory
  listed : name ∈ settingsNames
  /-- It is a file. -/
  regular : t.Regular (above ++ [name])
  /-- No directory further down on the way holds a settings file. -/
  deepest : ∀ p, p <+: directory → t.HoldsSettings p → p.length ≤ above.length
  /-- No file with a name that is listed before stands beside it. -/
  preferred : ∀ other ∈ settingsNames.takeWhile (· ≠ name), ¬ t.Regular (above ++ [other])

theorem isFile_iff {p : Place} : t.isFile p = true ↔ t.Regular p := by
  unfold isFile Regular
  cases t.at? p with
  | none => simp
  | some e => cases e <;> simp

theorem takeWhile_ne {before after : List String} {name : String} (first : name ∉ before) :
    (before ++ name :: after).takeWhile (· ≠ name) = before := by
  have others : ∀ other ∈ before, decide (other ≠ name) = true := by
    intro other among
    rw [decide_eq_true_eq]
    rintro rfl
    exact first among
  rw [List.takeWhile_append_of_pos others]
  simp

/-- The file that is found in one directory has the first name that a file has there. -/
theorem settingsIn?_eq_some {p place : Place} : t.settingsIn? p = some place ↔
    ∃ name ∈ settingsNames, place = p ++ [name] ∧ t.Regular (p ++ [name]) ∧
      ∀ other ∈ settingsNames.takeWhile (· ≠ name), ¬ t.Regular (p ++ [other]) := by
  rw [settingsIn?, List.find?_map, Option.map_eq_some_iff]
  simp only [List.find?_eq_some_iff_append, Function.comp_apply, isFile_iff, Bool.not_eq_true',
    Bool.eq_false_iff, Ne]
  constructor
  · rintro ⟨name, ⟨regular, before, after, split, none⟩, rfl⟩
    have first : name ∉ before := fun among => none name among regular
    refine ⟨name, by simp [split], rfl, regular, ?_⟩
    rw [split, takeWhile_ne first]
    exact none
  · rintro ⟨name, listed, rfl, regular, none⟩
    obtain ⟨before, after, split, first⟩ := List.eq_append_cons_of_mem listed
    rw [split, takeWhile_ne first] at none
    exact ⟨name, ⟨regular, before, after, split, none⟩, rfl⟩

theorem settingsIn?_eq_none {p : Place} : t.settingsIn? p = none ↔ ¬ t.HoldsSettings p := by
  simp [settingsIn?, HoldsSettings, List.find?_eq_none, isFile_iff]

/-- A settings file is found if a directory on the way holds one. -/
theorem findSettings?_isSome : (t.findSettings? directory).isSome = true ↔
    ∃ above, above <+: directory ∧ t.HoldsSettings above := by
  rw [findSettings?, List.findSome?_isSome_iff]
  simp only [mem_upwards, Option.isSome_iff_ne_none, Ne, settingsIn?_eq_none, Classical.not_not]

/-- What is found is the nearest settings file. -/
theorem findSettings?_eq_some {place : Place} : t.findSettings? directory = some place ↔
    ∃ above name, place = above ++ [name] ∧ t.Nearest directory above name := by
  have order := upwards_pairwise directory
  rw [findSettings?, List.findSome?_eq_some_iff]
  constructor
  · rintro ⟨nearer, above, further, split, here, none⟩
    obtain ⟨name, listed, rfl, regular, preferred⟩ := settingsIn?_eq_some.mp here
    have onTheWay : above <+: directory := mem_upwards.mp (by simp [split])
    refine ⟨above, name, rfl, onTheWay, listed, regular, ?_, preferred⟩
    -- a directory that holds a settings file is this one or comes behind it
    intro p onTheWay holds
    have looked : p ∈ nearer ++ above :: further := split ▸ mem_upwards.mpr onTheWay
    rcases List.mem_append.mp looked with early | late
    · exact absurd holds (settingsIn?_eq_none.mp (none p early))
    · rw [split, List.pairwise_append, List.pairwise_cons] at order
      rcases List.mem_cons.mp late with rfl | late
      · exact Nat.le_refl _
      · exact Nat.le_of_lt (order.2.1.1 p late)
  · rintro ⟨above, name, rfl, nearest⟩
    obtain ⟨nearer, further, split⟩ := List.append_of_mem (mem_upwards.mpr nearest.onTheWay)
    have here : t.settingsIn? above = some (above ++ [name]) := settingsIn?_eq_some.mpr
      ⟨name, nearest.listed, rfl, nearest.regular, nearest.preferred⟩
    refine ⟨nearer, above, further, split, here, ?_⟩
    intro p early
    rw [settingsIn?_eq_none]
    intro holds
    have onTheWay : p <+: directory := mem_upwards.mp (by simp [split, early])
    have bound := nearest.deepest p onTheWay holds
    rw [split, List.pairwise_append] at order
    have further := order.2.2 p early above List.mem_cons_self
    omega

/-! ## Directories with the name of a settings file -/

theorem at?_eq_file {p : Place} {bytes : List Nat} :
    t.at? p = some (.file bytes) ↔ t.entries.lookup p = some (.file bytes) := by
  unfold at?
  cases t.entries.lookup p with
  | some e => rfl
  | none =>
    simp only [reduceCtorEq, iff_false]
    split <;> nofun

theorem lookup_set {p q : Place} {e : Entry} :
    (t.set p e).entries.lookup q = if q = p then some e else t.entries.lookup q := by
  show ((t.entries.filter fun e => decide (e.1 ≠ p)) ++ [(p, e)]).lookup q = _
  rw [List.lookup_append, lookup_filter (fun place => decide (place ≠ p))]
  by_cases same : q = p
  · simp [same]
  · have apart : (q == p) = false := beq_eq_false_iff_ne.mpr same
    simp [same, List.lookup_cons, apart]

/-- A directory that is set at a place leaves the files at other places. -/
theorem regular_set_directory {p q : Place} :
    (t.set p .directory).Regular q ↔ q ≠ p ∧ t.Regular q := by
  simp only [Regular, at?_eq_file, lookup_set]
  by_cases same : q = p <;> simp [same]

/-- A directory that stands where there is no file makes no difference to the search. -/
theorem findSettings?_set_directory {p : Place} (noFile : ¬ t.Regular p) :
    (t.set p .directory).findSettings? directory = t.findSettings? directory := by
  have files : (t.set p .directory).isFile = t.isFile := by
    funext q
    rw [Bool.eq_iff_iff, isFile_iff, isFile_iff, regular_set_directory]
    constructor
    · exact And.right
    · intro regular
      refine ⟨?_, regular⟩
      rintro rfl
      exact noFile regular
  have looks : (t.set p .directory).settingsIn? = t.settingsIn? := by
    funext q
    rw [settingsIn?, files, settingsIn?]
  rw [findSettings?, looks, findSettings?]

/-- The search for a settings file. From the directory of any path it ends, with one outcome, and it
    finds a file if some directory on the way to the root holds a file with the name of a settings
    file. What it finds is the one in the deepest of these directories, with the first name that a file
    has there. A directory with such a name, or anywhere else, makes no difference. Every place is the
    one of its path. -/
theorem findSettings?_nearest (t : Tree) (start : String) :
    (∀ outcome, t.Searches (t.absolute start) outcome ↔
      t.findSettings? (t.absolute start) = outcome) ∧
    ((t.findSettings? (t.absolute start)).isSome = true ↔
      ∃ above, above <+: t.absolute start ∧ t.HoldsSettings above) ∧
    (∀ place, t.findSettings? (t.absolute start) = some place ↔
      ∃ above name, place = above ++ [name] ∧ t.Nearest (t.absolute start) above name) ∧
    (∀ p, ¬ t.Regular p →
      (t.set p .directory).findSettings? (t.absolute start) = t.findSettings? (t.absolute start)) ∧
    ∀ p, (∀ name ∈ p, IsPlainName name) → start = p.text → t.absolute start = p := by
  refine ⟨fun outcome => searches_iff, findSettings?_isSome, fun place => findSettings?_eq_some,
    fun p noFile => findSettings?_set_directory noFile, ?_⟩
  rintro p plain rfl
  exact t.absolute_text plain

/-- A directory with the name of a settings file, two settings files above it, and one in the root. -/
def crowded : Tree :=
  ⟨["home"], [(["a", "b", ".borrowstackrc.yml"], .directory), (["a", ".borrowstackrc.json"], .file []),
    (["a", ".borrowstackrc.yaml"], .file []), ([".borrowstackrc.yml"], .file [])]⟩

theorem findSettings?_nearest_crowded :
    crowded.absolute "/a/b" = ["a", "b"] ∧
    crowded.Searches ["a", "b"] (some ["a", ".borrowstackrc.yaml"]) ∧
    (∃ above name, ["a", ".borrowstackrc.yaml"] = above ++ [name] ∧
      crowded.Nearest ["a", "b"] above name) ∧
    ¬ crowded.Regular ["a", "b", ".borrowstackrc.yml"] ∧
    (crowded.set ["a", "b", ".borrowstackrc.yml"] .directory).findSettings? ["a", "b"] =
      some ["a", ".borrowstackrc.yaml"] := by
  have plain : ∀ name ∈ ["a", "b"], IsPlainName name := by
    intro name among
    simp only [List.mem_cons, List.not_mem_nil, or_false] at among
    rcases among with rfl | rfl
    · exact ⟨by decide, by decide, by decide, by decide⟩
    · exact ⟨by decide, by decide, by decide, by decide⟩
  have found : crowded.findSettings? ["a", "b"] = some ["a", ".borrowstackrc.yaml"] := by decide
  have noFile : ¬ crowded.Regular ["a", "b", ".borrowstackrc.yml"] := by
    rw [← isFile_iff]
    decide
  obtain ⟨ends, -, nearest, passed, named⟩ := findSettings?_nearest crowded "/a/b"
  have start := named ["a", "b"] plain (by decide)
  rw [start] at ends nearest passed
  exact ⟨start, (ends _).mpr found, (nearest _).mp found, noFile, (passed _ noFile).trans found⟩

end Tree

end PointerTrace.Files
