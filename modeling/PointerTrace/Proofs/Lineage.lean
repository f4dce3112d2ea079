import Mathlib.Logic.Relation
import PointerTrace.Memory.Allocation

/- Derivation between the tags of one allocation. `Descends t u` says that `u` is met by following
   recorded parents from `t`, in one or more links. Where every recorded parent is an older tag
   (`Descending`), the bounded walk `derives` decides it (`derives_iff`): the walk never has to visit
   more tags than the lineage has entries. It does so wherever no tag is its own ancestor
   (`Acyclic`), whatever the order of the tags. Pushing a frame with a new tag changes nothing
   between the tags that were there before (`descends_push`). -/
namespace PointerTrace

theorem Tag.eq_of_serial {t u : Tag} (h : t.serial = u.serial) : t = u := by
  cases t
  cases u
  exact congrArg _ h

/-- What the lineage says of a tag after a parent was recorded for one. -/
theorem lookup_recordParent (l : List (Tag × Option Tag)) (t u : Tag) (parent : Option Tag) :
    (recordParent l t parent).lookup u = if u = t then some parent else l.lookup u := by
  induction l with
  | nil => by_cases h : u = t <;> simp [recordParent, List.lookup_cons, h, beq_eq_false_iff_ne.mpr]
  | cons e rest ih =>
    obtain ⟨v, q⟩ := e
    by_cases hvt : v = t
    · subst hvt
      by_cases huv : u = v
      · simp [recordParent, huv]
      · simp [recordParent, List.lookup_cons, beq_eq_false_iff_ne.mpr huv, huv]
    · by_cases huv : u = v
      · subst huv
        simp [recordParent, hvt]
      · simp [recordParent, List.lookup_cons, hvt, beq_eq_false_iff_ne.mpr huv, ih]

/-- A tag that has no entry gets one at the end. -/
theorem recordParent_of_not_mem (l : List (Tag × Option Tag)) (t : Tag) (parent : Option Tag)
    (h : t ∉ l.map Prod.fst) : recordParent l t parent = l ++ [(t, parent)] := by
  induction l with
  | nil => rfl
  | cons e rest ih =>
    simp only [List.map_cons, List.mem_cons, not_or] at h
    simp [recordParent, Ne.symm h.1, ih h.2]

/-- A list has more entries of a kind than of a narrower one, when one of its entries is of the
    first kind only. -/
theorem countP_lt_countP {α : Type} {l : List α} {p q : α → Bool} {x : α} (hx : x ∈ l)
    (wider : ∀ y, p y = true → q y = true) (outside : p x = false) (inside : q x = true) :
    l.countP p < l.countP q := by
  obtain ⟨before, after, split⟩ := List.append_of_mem hx
  rw [split, List.countP_append, List.countP_append, List.countP_cons, List.countP_cons, outside,
    inside]
  have mono : ∀ l : List α, l.countP p ≤ l.countP q :=
    fun l => List.countP_mono_left fun y _ => wider y
  have := mono before
  have := mono after
  simp only [Bool.false_eq_true, if_false, if_true]
  omega

namespace Allocation

/-- The tags that were ever pushed, in the order of their first push. -/
def tags (a : Allocation) : List Tag := a.lineage.map Prod.fst

/-- Whether the second tag is met by following recorded parents from the first, in one or more
    links. -/
def Descends (a : Allocation) : Tag → Tag → Prop :=
  Relation.TransGen fun t p => a.parentOf t = some p

/-- Every recorded parent is older than its child. -/
def Descending (a : Allocation) : Prop := ∀ t p, a.parentOf t = some p → p.serial < t.serial

theorem Descends.trans {a : Allocation} {t u v : Tag} (h : a.Descends t u) (k : a.Descends u v) :
    a.Descends t v :=
  Relation.TransGen.trans h k

theorem Descends.link {a : Allocation} {t p : Tag} (h : a.parentOf t = some p) : a.Descends t p :=
  Relation.TransGen.single h

theorem Descends.head {a : Allocation} {t p u : Tag} (h : a.parentOf t = some p)
    (k : a.Descends p u) : a.Descends t u :=
  Relation.TransGen.head h k

/-- The first link of a derivation. -/
theorem descends_iff {a : Allocation} {t u : Tag} :
    a.Descends t u ↔ ∃ p, a.parentOf t = some p ∧ (p = u ∨ a.Descends p u) := by
  unfold Descends
  rw [Relation.TransGen.head'_iff]
  simp only [Relation.reflTransGen_iff_eq_or_transGen, eq_comm]

/-- An ancestor is older. -/
theorem Descends.older {a : Allocation} (ha : a.Descending) {t u : Tag} (h : a.Descends t u) :
    u.serial < t.serial := by
  induction h with
  | single link => exact ha _ _ link
  | tail _ link ih => exact Int.lt_trans (ha _ _ link) ih

theorem parentOf_eq_some {a : Allocation} {t p : Tag} :
    a.parentOf t = some p ↔ a.lineage.lookup t = some (some p) := by
  simp [parentOf, Option.join_eq_some_iff]

theorem mem_lineage_of_lookup {a : Allocation} {t : Tag} {q : Option Tag}
    (h : a.lineage.lookup t = some q) : (t, q) ∈ a.lineage := by
  obtain ⟨before, after, split, -⟩ := List.lookup_eq_some_iff.mp h
  simp [split]

theorem mem_tags_of_lookup {a : Allocation} {t : Tag} {q : Option Tag}
    (h : a.lineage.lookup t = some q) : t ∈ a.tags :=
  List.mem_map.mpr ⟨(t, q), mem_lineage_of_lookup h, rfl⟩

theorem mem_tags_of_parentOf {a : Allocation} {t p : Tag} (h : a.parentOf t = some p) :
    t ∈ a.tags :=
  mem_tags_of_lookup (parentOf_eq_some.mp h)

/-! ## The bounded walk -/

/-- The number of entries for tags that are no younger than a tag. It bounds the length of every
    chain of parents that starts there. -/
def rank (a : Allocation) (t : Tag) : Nat := a.lineage.countP fun e => e.1.serial ≤ t.serial

theorem rank_le_length (a : Allocation) (t : Tag) : a.rank t ≤ a.lineage.length :=
  List.countP_le_length

/-- The parent of a tag has a smaller rank: the tag's own entry no longer counts. -/
theorem rank_lt_of_parentOf {a : Allocation} (ha : a.Descending) {t p : Tag}
    (h : a.parentOf t = some p) : a.rank p < a.rank t := by
  have older := ha t p h
  refine countP_lt_countP (mem_lineage_of_lookup (parentOf_eq_some.mp h)) ?_ ?_ ?_
  · intro e he
    simp only [decide_eq_true_eq] at he ⊢
    omega
  · simpa using older
  · simp

/-- Where no tag descends from itself. -/
def Acyclic (a : Allocation) : Prop := ∀ t, ¬ a.Descends t t

/-- A lineage is without cycles when something becomes smaller along each link. -/
theorem acyclic_of_measure {a : Allocation} (measure : Tag → Nat)
    (smaller : ∀ t p, a.parentOf t = some p → measure p < measure t) : a.Acyclic := by
  have along : ∀ t u, a.Descends t u → measure u < measure t := by
    intro t u h
    induction h with
    | single link => exact smaller _ _ link
    | tail _ link ih => exact Nat.lt_trans (smaller _ _ link) ih
  exact fun t h => Nat.lt_irrefl _ (along t t h)

open Classical in
/-- The number of entries for a tag and its ancestors. Without cycles it bounds the length of the
    chain of parents that starts there. -/
noncomputable def ancestry (a : Allocation) (t : Tag) : Nat :=
  a.lineage.countP fun e => e.1 = t ∨ a.Descends t e.1

/-- The parent of a tag has a smaller ancestry: the tag's own entry no longer counts. -/
theorem ancestry_lt_of_parentOf {a : Allocation} (acyclic : a.Acyclic) {t p : Tag}
    (h : a.parentOf t = some p) : a.ancestry p < a.ancestry t := by
  refine countP_lt_countP (mem_lineage_of_lookup (parentOf_eq_some.mp h)) ?_ ?_ ?_
  · intro e he
    simp only [decide_eq_true_eq] at he ⊢
    rcases he with rfl | above
    · exact .inr (.link h)
    · exact .inr (.head h above)
  · simp only [decide_eq_false_iff_not, not_or]
    exact ⟨fun same => acyclic t (.link (same ▸ h)), fun above => acyclic t (.head h above)⟩
  · simp

/-- The walk decides derivation when it may take as many links as bound the chain. -/
theorem derivesWithin_iff {a : Allocation} {measure : Tag → Nat}
    (smaller : ∀ t p, a.parentOf t = some p → measure p < measure t) {u : Tag} :
    ∀ (links : Nat) (t : Tag), measure t ≤ links →
      (a.derivesWithin u links t = true ↔ a.Descends t u) := by
  intro links
  induction links with
  | zero =>
    intro t bound
    rw [descends_iff]
    constructor
    · intro h
      simp [derivesWithin] at h
    · rintro ⟨p, link, -⟩
      have := smaller t p link
      omega
  | succ links ih =>
    -- one link takes the walk to the parent, whose measure is smaller
    intro t bound
    rw [descends_iff]
    cases link : a.parentOf t with
    | none => simp [derivesWithin, link]
    | some p =>
      have := smaller t p link
      by_cases hp : p = u
      · simp [derivesWithin, link, hp]
      · simp [derivesWithin, link, hp, ih p (by omega)]

/-- The walk decides derivation. -/
theorem derives_iff {a : Allocation} (ha : a.Descending) {t u : Tag} :
    a.derives t u = true ↔ a.Descends t u :=
  derivesWithin_iff (fun _ _ => rank_lt_of_parentOf ha) _ t (a.rank_le_length t)

/-- The walk decides derivation in every lineage without cycles. -/
theorem derives_iff_of_acyclic {a : Allocation} (acyclic : a.Acyclic) {t u : Tag} :
    a.derives t u = true ↔ a.Descends t u :=
  derivesWithin_iff (fun _ _ => ancestry_lt_of_parentOf acyclic) _ t List.countP_le_length

theorem derivesWithin_congr {a b : Allocation} (same : b.lineage = a.lineage) (u : Tag)
    (links : Nat) (t : Tag) : b.derivesWithin u links t = a.derivesWithin u links t := by
  have parent : b.parentOf = a.parentOf := by
    funext v
    rw [parentOf, same, parentOf]
  induction links generalizing t with
  | zero => rfl
  | succ links ih => simp only [derivesWithin, parent, ih]

/-- Nothing but the lineage decides derivation. -/
theorem derives_congr {a b : Allocation} (same : b.lineage = a.lineage) (t u : Tag) :
    b.derives t u = a.derives t u := by
  rw [derives, same, derivesWithin_congr same, derives]

/-! ## Pushing a frame -/

theorem parentOf_push (a : Allocation) (f : Frame) (t : Tag) :
    (a.push f).parentOf t = if t = f.tag then f.parent else a.parentOf t := by
  unfold parentOf push
  rw [lookup_recordParent]
  by_cases h : t = f.tag <;> simp [h]

theorem tags_push {a : Allocation} {f : Frame} (fresh : f.tag ∉ a.tags) :
    (a.push f).tags = a.tags ++ [f.tag] := by
  unfold tags push
  rw [recordParent_of_not_mem a.lineage f.tag f.parent fresh]
  simp

/-- A push with a new tag adds no derivation between tags that were there before. -/
theorem descends_push {a : Allocation} {f : Frame} (fresh : f.tag ∉ a.tags)
    (closed : ∀ t p, a.parentOf t = some p → p ∈ a.tags) {t u : Tag} (ht : t ≠ f.tag) :
    (a.push f).Descends t u ↔ a.Descends t u := by
  constructor
  · intro h
    induction h using Relation.TransGen.head_induction_on with
    | @single t link =>
      rw [parentOf_push, if_neg ht] at link
      exact .single link
    | @head t p link _ ih =>
      rw [parentOf_push, if_neg ht] at link
      have hp : p ≠ f.tag := fun e => fresh (e ▸ closed t p link)
      exact Relation.TransGen.head link (ih hp)
  · intro h
    refine Relation.TransGen.mono ?_ _ _ h
    intro x p link
    have hx : x ≠ f.tag := fun e => fresh (e ▸ mem_tags_of_parentOf link)
    rw [parentOf_push, if_neg hx]
    exact link

end Allocation

end PointerTrace
