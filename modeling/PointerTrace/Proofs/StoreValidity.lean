import PointerTrace.Memory.Store
import PointerTrace.Proofs.AllocationStep

/- The discipline of a store: every allocation is valid, an allocation's id is its place, and the
   tags that were pushed, over all allocations, are distinct and are exactly the tags that were
   issued. A declaration keeps it (`Valid.declare`), and so does any step of one allocation that
   pushes no tag but the next (`Valid.modify`). -/
namespace PointerTrace

namespace Store

/-- The discipline of a store. -/
structure Valid (s : Store) : Prop where
  allocations : ∀ a ∈ s.allocations, a.Valid
  place : ∀ (n : Nat) (a : Allocation), s.allocations[n]? = some a → a.id = n
  distinct : s.allTags.Nodup
  nonneg : 0 ≤ s.nextTag
  issued : ∀ t, t ∈ s.allTags ↔ 0 ≤ t.serial ∧ t.serial < s.nextTag

theorem get?_eq_some {s : Store} {id : AllocationId} {a : Allocation} :
    s.get? id = some a ↔ ∃ n : Nat, id = n ∧ s.allocations[n]? = some a := by
  unfold get?
  constructor
  · intro h
    split at h
    · next low => exact ⟨id.toNat, (Int.toNat_of_nonneg low).symm, h⟩
    · cases h
  · rintro ⟨n, rfl, h⟩
    simpa using h

theorem get_eq_ok {s : Store} {id : AllocationId} {a : Allocation} :
    s.get id = .ok a ↔ s.get? id = some a := by
  unfold get
  cases s.get? id <;> simp

theorem mem_of_get? {s : Store} {id : AllocationId} {a : Allocation} (h : s.get? id = some a) :
    a ∈ s.allocations := by
  obtain ⟨n, -, found⟩ := get?_eq_some.mp h
  exact List.mem_of_getElem? found

theorem mem_allTags {s : Store} {t : Tag} :
    t ∈ s.allTags ↔ ∃ a ∈ s.allocations, t ∈ a.tags := by
  unfold allTags
  rw [List.mem_flatMap]
  rfl

/-! ## Changing one allocation -/

theorem get?_modify_self {s : Store} {id : AllocationId} {a : Allocation}
    (h : s.get? id = some a) (f : Allocation → Allocation) :
    (s.modify id f).get? id = some (f a) := by
  obtain ⟨n, rfl, found⟩ := get?_eq_some.mp h
  refine get?_eq_some.mpr ⟨n, rfl, ?_⟩
  simp [modify, found]

theorem get?_modify_of_ne {s : Store} {id other : AllocationId} {a : Allocation}
    (h : s.get? id = some a) (ne : other ≠ id) (f : Allocation → Allocation) :
    (s.modify id f).get? other = s.get? other := by
  obtain ⟨n, rfl, -⟩ := get?_eq_some.mp h
  unfold get? modify
  split
  · next low =>
    have apart : n ≠ other.toNat := fun e => ne (by rw [e, Int.toNat_of_nonneg low])
    simp [apart]
  · rfl

theorem get?_modify {s : Store} {target id : AllocationId} {a b : Allocation}
    (h : s.get? target = some b) (found : s.get? id = some a) (f : Allocation → Allocation) :
    (s.modify target f).get? id = some (if id = target then f a else a) := by
  split
  · next same =>
    subst same
    exact get?_modify_self found f
  · next other => rw [get?_modify_of_ne h other, found]

theorem get?_modify_eq_none {s : Store} {target id : AllocationId} {b : Allocation}
    (h : s.get? target = some b) (absent : s.get? id = none) (f : Allocation → Allocation) :
    (s.modify target f).get? id = none := by
  have other : id ≠ target := fun e => by
    rw [e, h] at absent
    cases absent
  rw [get?_modify_of_ne h other, absent]

/-- Changing an allocation twice is changing it once. -/
theorem modify_modify (s : Store) (id : AllocationId) (f g : Allocation → Allocation) :
    (s.modify id f).modify id g = s.modify id (g ∘ f) := by
  simp [modify, List.modify_modify_eq]

/-- The tags after the change of an allocation that recorded new ones. -/
theorem allTags_modify {s : Store} {id : AllocationId} {a : Allocation} (h : s.get? id = some a)
    {f : Allocation → Allocation} {l : List Tag} (grown : (f a).tags = a.tags ++ l) :
    (s.modify id f).allTags.Perm (s.allTags ++ l) := by
  obtain ⟨n, rfl, found⟩ := get?_eq_some.mp h
  obtain ⟨inside, -⟩ := List.getElem?_eq_some_iff.mp found
  obtain ⟨before, b, after, split, rfl, changed⟩ := List.exists_of_modify f inside
  rw [split, List.getElem?_append_right (Nat.le_refl _), Nat.sub_self, List.getElem?_cons_zero,
    Option.some.injEq] at found
  subst found
  show ((s.allocations.modify _ f).flatMap Allocation.tags).Perm
    (s.allocations.flatMap Allocation.tags ++ l)
  rw [Int.toNat_natCast, changed, split]
  simp only [List.flatMap_append, List.flatMap_cons, grown, List.append_assoc]
  exact (List.Perm.refl _).append ((List.Perm.refl _).append List.perm_append_comm)

/-! ## Declaring -/

/-- The allocation that a declaration makes in a store. -/
def declared (s : Store) (name : String) (value : Int) (isMutable interiorMutable : Bool) :
    Allocation :=
  (⟨s.allocations.length, name, value, isMutable, interiorMutable, [], []⟩ : Allocation).push
    ⟨⟨s.nextTag⟩, .ofRoot interiorMutable, none⟩

theorem declare_eq_ok {s store : Store} {name : String} {value : Int}
    {isMutable interiorMutable : Bool} {id : AllocationId} :
    s.declare name value isMutable interiorMutable = .ok (id, store) ↔
      s.has name = false ∧ id = s.allocations.length ∧
      store = ⟨s.allocations ++ [s.declared name value isMutable interiorMutable],
        s.nextTag + 1⟩ := by
  unfold declare
  cases s.has name
  · simp [takeTag, declared, eq_comm]
  · simp

/-- The allocation of a declaration stands at its id. -/
theorem get?_declared {s store : Store} {name : String} {value : Int}
    {isMutable interiorMutable : Bool} {id : AllocationId}
    (h : s.declare name value isMutable interiorMutable = .ok (id, store)) :
    store.get? id = some (s.declared name value isMutable interiorMutable) ∧
      s.get? id = none := by
  obtain ⟨-, rfl, rfl⟩ := declare_eq_ok.mp h
  constructor
  · exact get?_eq_some.mpr ⟨_, rfl, by simp⟩
  · simp [get?]

/-- A declaration changes nothing at other ids. -/
theorem get?_declare_of_ne {s store : Store} {name : String} {value : Int}
    {isMutable interiorMutable : Bool} {id : AllocationId}
    (h : s.declare name value isMutable interiorMutable = .ok (id, store))
    {other : AllocationId} (ne : other ≠ id) : store.get? other = s.get? other := by
  obtain ⟨-, rfl, rfl⟩ := declare_eq_ok.mp h
  unfold get?
  split
  · next low =>
    have apart : other.toNat ≠ s.allocations.length := fun e =>
      ne (by rw [← e, Int.toNat_of_nonneg low])
    rcases Nat.lt_or_gt_of_ne apart with inside | outside
    · rw [List.getElem?_append_left inside]
    · rw [List.getElem?_eq_none (by simp; omega), List.getElem?_eq_none (by omega)]
  · rfl

/-- A declaration leaves the older allocations as they are. -/
theorem get?_declare {s store : Store} {name : String} {value : Int}
    {isMutable interiorMutable : Bool} {id : AllocationId}
    (h : s.declare name value isMutable interiorMutable = .ok (id, store))
    {other : AllocationId} {a : Allocation} (found : s.get? other = some a) :
    store.get? other = some a := by
  have ne : other ≠ id := fun e => by
    rw [e, (get?_declared h).2] at found
    cases found
  rw [get?_declare_of_ne h ne, found]

/-! ## The discipline is kept -/

theorem valid_empty : (empty 0).Valid where
  allocations := by simp [empty]
  place := by simp [empty]
  distinct := by simp [empty, allTags]
  nonneg := by simp [empty]
  issued := by
    intro t
    simp only [empty, allTags, List.flatMap_nil, List.not_mem_nil, false_iff]
    omega

namespace Valid

variable {s : Store} (hs : s.Valid)
include hs

theorem get? {id : AllocationId} {a : Allocation} (h : s.get? id = some a) :
    a.Valid ∧ a.id = id := by
  obtain ⟨n, rfl, found⟩ := get?_eq_some.mp h
  exact ⟨hs.allocations a (List.mem_of_getElem? found), hs.place n a found⟩

theorem get?_of_mem {a : Allocation} (h : a ∈ s.allocations) : s.get? a.id = some a := by
  obtain ⟨n, here⟩ := List.mem_iff_getElem?.mp h
  exact get?_eq_some.mpr ⟨n, hs.place n a here, here⟩

theorem get?_of_named {name : String} {a : Allocation} (h : s.named? name = some a) :
    s.get? a.id = some a :=
  hs.get?_of_mem (List.mem_of_find?_eq_some h)

/-- The next tag is younger than all that were pushed. -/
theorem fresh {a : Allocation} (ha : a ∈ s.allocations) : ∀ t ∈ a.tags, t.serial < s.nextTag :=
  fun t ht => ((hs.issued t).mp (mem_allTags.mpr ⟨a, ha, ht⟩)).2

/-- Where the tags grow by the next one, they stay distinct and exactly those issued. -/
theorem tags_next {tags : List Tag} (grown : tags.Perm (s.allTags ++ [⟨s.nextTag⟩])) :
    tags.Nodup ∧ ∀ t, t ∈ tags ↔ 0 ≤ t.serial ∧ t.serial < s.nextTag + 1 := by
  have nonneg := hs.nonneg
  constructor
  · rw [grown.nodup_iff, List.nodup_append]
    refine ⟨hs.distinct, by simp, ?_⟩
    intro t ht u hu same
    have := ((hs.issued t).mp ht).2
    rw [same, List.mem_singleton.mp hu] at this
    simp at this
  · intro t
    rw [grown.mem_iff, List.mem_append, hs.issued, List.mem_singleton]
    constructor
    · rintro (h | rfl)
      · omega
      · exact ⟨nonneg, Int.lt_add_one_iff.mpr (Int.le_refl _)⟩
    · rintro ⟨low, high⟩
      by_cases newest : t.serial = s.nextTag
      · exact .inr (by rw [← newest])
      · exact .inl ⟨low, by omega⟩

theorem declare {store : Store} {name : String} {value : Int} {isMutable interiorMutable : Bool}
    {id : AllocationId} (h : s.declare name value isMutable interiorMutable = .ok (id, store)) :
    store.Valid := by
  obtain ⟨-, -, rfl⟩ := declare_eq_ok.mp h
  have grown : (Store.allTags ⟨s.allocations ++ [s.declared name value isMutable interiorMutable],
      s.nextTag + 1⟩) = s.allTags ++ [⟨s.nextTag⟩] := by
    simp [allTags, declared, Allocation.push, recordParent]
  obtain ⟨distinct, issued⟩ := hs.tags_next (.of_eq grown)
  refine ⟨?_, ?_, distinct, ?_, issued⟩
  · intro a ha
    rcases List.mem_append.mp ha with ha | ha
    · exact hs.allocations a ha
    · rw [List.mem_singleton.mp ha]
      exact Allocation.valid_declared ..
  · intro n a found
    rw [List.getElem?_append] at found
    split at found
    · exact hs.place n a found
    · rw [List.getElem?_singleton] at found
      split at found
      · cases found
        show (s.allocations.length : Int) = n
        omega
      · cases found
  · have := hs.nonneg
    show 0 ≤ s.nextTag + 1
    omega

/-- Changing an allocation into a valid one with the same id keeps all allocations valid and in
    their places. -/
theorem modify_allocations {id : AllocationId} {a : Allocation} (h : s.get? id = some a)
    {f : Allocation → Allocation} (valid : (f a).Valid) (same : (f a).id = a.id) :
    (∀ b ∈ (s.modify id f).allocations, b.Valid) ∧
    ∀ (n : Nat) (b : Allocation), (s.modify id f).allocations[n]? = some b → b.id = n := by
  obtain ⟨k, rfl, here⟩ := get?_eq_some.mp h
  have changed : ∀ (n : Nat) (b : Allocation), (s.modify k f).allocations[n]? = some b →
      b.Valid ∧ b.id = n := by
    intro n b found
    simp only [Store.modify, Int.toNat_natCast, List.getElem?_modify] at found
    obtain ⟨c, there, rfl⟩ := Option.map_eq_some_iff.mp found
    split
    · next e =>
      rw [← e, here, Option.some.injEq] at there
      subst there
      exact ⟨valid, by rw [same, hs.place k _ here, e]⟩
    · exact ⟨hs.allocations c (List.mem_of_getElem? there), hs.place n c there⟩
  refine ⟨fun b hb => ?_, fun n b found => (changed n b found).2⟩
  obtain ⟨n, found⟩ := List.mem_iff_getElem?.mp hb
  exact (changed n b found).1

/-- A change of one allocation that records no tag keeps the discipline. -/
theorem modify {id : AllocationId} {a : Allocation} (h : s.get? id = some a)
    {f : Allocation → Allocation} (valid : (f a).Valid) (same : (f a).id = a.id)
    (tags : (f a).tags = a.tags) : (s.modify id f).Valid := by
  obtain ⟨allocations, place⟩ := hs.modify_allocations h valid same
  have grown := allTags_modify (l := []) h (by rw [tags, List.append_nil])
  rw [List.append_nil] at grown
  exact ⟨allocations, place, grown.nodup_iff.mpr hs.distinct, hs.nonneg,
    fun t => grown.mem_iff.trans (hs.issued t)⟩

/-- A change of one allocation that records the next tag keeps the discipline once that tag is
    issued. -/
theorem modify_takeTag {id : AllocationId} {a : Allocation} (h : s.get? id = some a)
    {f : Allocation → Allocation} (valid : (f a).Valid) (same : (f a).id = a.id)
    (tags : (f a).tags = a.tags ++ [⟨s.nextTag⟩]) : (s.takeTag.2.modify id f).Valid := by
  obtain ⟨allocations, place⟩ := hs.modify_allocations h valid same
  obtain ⟨distinct, issued⟩ := hs.tags_next (allTags_modify h tags)
  refine ⟨allocations, place, distinct, ?_, issued⟩
  have := hs.nonneg
  show 0 ≤ s.nextTag + 1
  omega

end Valid

end Store

end PointerTrace
