import PointerTrace.Proofs.BorrowStack

/- All that an operation can do to one allocation (`Step`): nothing, push a frame for a new tag that
   was derived from a frame on the stack, or access it through a tag. Each keeps the discipline of
   the stack (`Valid.step`). The other statements say what a step keeps: derivations between tags
   that were pushed before, the lowest frame, every frame that the access of the step does not
   reach, and, unless it is a write, the value. -/
namespace PointerTrace

/-! ## Permissions of derived frames -/

/-- The rules by which a frame's permission follows from its parent's. -/
inductive Permission.DerivedBy : Permission → BorrowKind → Bool → Permission → Prop where
  | readOnlyParent (interior : Bool) : DerivedBy .sharedReadOnly .unique interior .sharedReadOnly
  | otherParent {p : Permission} (interior : Bool)
      (other : p = .unique ∨ p = .sharedReadWrite ∨ p = .disabled) :
      DerivedBy p .unique interior .unique
  | sharedPlain (p : Permission) : DerivedBy p .shared false .sharedReadOnly
  | sharedInterior (p : Permission) : DerivedBy p .shared true .sharedReadWrite

/-- Exactly one rule applies to every parent. -/
theorem Permission.derivedBy_iff {p q : Permission} {kind : BorrowKind} {interior : Bool} :
    p.DerivedBy kind interior q ↔ q = p.derive kind interior := by
  constructor
  · intro h
    cases h with
    | otherParent _ other => rcases other with rfl | rfl | rfl <;> rfl
    | _ => rfl
  · rintro rfl
    cases kind with
    | unique =>
      cases p with
      | sharedReadOnly => exact .readOnlyParent interior
      | unique => exact .otherParent interior (.inl rfl)
      | sharedReadWrite => exact .otherParent interior (.inr (.inl rfl))
      | disabled => exact .otherParent interior (.inr (.inr rfl))
    | shared =>
      cases interior with
      | false => exact .sharedPlain p
      | true => exact .sharedInterior p

theorem Permission.derive_eq_readOnly {p : Permission} {kind : BorrowKind} {interior : Bool}
    (h : p.derive kind interior = .sharedReadOnly) : p = .sharedReadOnly ∨ interior = false := by
  cases kind <;> cases p <;> cases interior <;> simp_all [Permission.derive]

theorem Permission.derive_eq_readWrite {p : Permission} {kind : BorrowKind} {interior : Bool}
    (h : p.derive kind interior = .sharedReadWrite) : interior = true := by
  cases kind <;> cases p <;> cases interior <;> simp_all [Permission.derive]

theorem Permission.derive_readOnly (kind : BorrowKind) :
    Permission.sharedReadOnly.derive kind false = .sharedReadOnly := by
  cases kind <;> rfl

namespace Allocation

/-- What an operation does to an allocation. -/
inductive Event where
  | idle
  | push (t : Tag)
  | access (t : Tag) (access : Access)

/-- The changes that an operation can make to an allocation. A frame is pushed for a new tag and a
    parent on the stack that is not disabled; an access is granted, and a read keeps the value. -/
inductive Step (a : Allocation) : Event → Allocation → Prop where
  | idle : a.Step .idle a
  | push {t : Tag} {g : Frame} (kind : BorrowKind) (fresh : ∀ u ∈ a.tags, u.serial < t.serial)
      (present : g ∈ a.stack) (enabled : g.permission ≠ .disabled) :
      a.Step (.push t) (a.push ⟨t, g.permission.derive kind a.interiorMutable, some g.tag⟩)
  | access {t : Tag} {access : Access} {grant : Grant} (value : Int)
      (granted : a.judge (some t) access = .ok grant) (kept : access = .read → value = a.value) :
      a.Step (.access t access) { a.apply grant with value }

/-! ## Every step keeps the discipline -/

theorem not_mem_of_fresh {a : Allocation} {t : Tag} (fresh : ∀ u ∈ a.tags, u.serial < t.serial) :
    t ∉ a.tags := fun h => by
  have := fresh t h
  omega

namespace Valid

variable {a : Allocation} (ha : a.Valid)
include ha

/-- A frame and its parent after a push: both were there, or the child is the new frame. -/
theorem parent_push {f e new g : Frame} (fresh : ∀ u ∈ a.tags, u.serial < new.tag.serial)
    (present : g ∈ a.stack) (parent : new.parent = some g.tag) (hf : f ∈ a.stack ++ [new])
    (he : e ∈ a.stack ++ [new]) (link : f.parent = some e.tag) :
    (f ∈ a.stack ∧ e ∈ a.stack) ∨ (f = new ∧ e = g) := by
  simp only [List.mem_append, List.mem_singleton] at hf he
  rcases hf with hf | rfl
  · rcases he with he | rfl
    · exact .inl ⟨hf, he⟩
    · -- the new frame is younger than every child that was there
      have older := ha.parent_older hf link
      have := fresh _ (ha.tag_mem hf)
      omega
  · rw [parent, Option.some.injEq] at link
    rcases he with he | rfl
    · exact .inr ⟨rfl, ha.eq_of_tag he present link.symm⟩
    · have := fresh _ (ha.tag_mem present)
      rw [link] at this
      omega

/-- The lineage keeps its root when a child of a recorded tag is pushed. -/
theorem rooted_push {new g : Frame} (fresh : ∀ u ∈ a.tags, u.serial < new.tag.serial)
    (present : g ∈ a.stack) (parent : new.parent = some g.tag) :
    ∃ root above, a.stack ++ [new] = root :: above ∧ root.parent = none ∧
      root.permission = .ofRoot a.interiorMutable ∧
      ∀ t ∈ (a.push new).tags, t = root.tag ∨ (a.push new).Descends t root.tag := by
  have notMem := not_mem_of_fresh fresh
  obtain ⟨root, above, bottom, orphan, kept, descends⟩ := ha.rooted
  refine ⟨root, above ++ [new], by rw [bottom]; rfl, orphan, kept, ?_⟩
  have old : ∀ t ∈ a.tags, t = root.tag ∨ (a.push new).Descends t root.tag := by
    intro t ht
    have other : t ≠ new.tag := fun e => notMem (e ▸ ht)
    exact (descends t ht).imp_right (descends_push notMem ha.closed other).mpr
  intro t ht
  rw [tags_push notMem, List.mem_append, List.mem_singleton] at ht
  rcases ht with ht | rfl
  · exact old t ht
  · have link : (a.push new).parentOf new.tag = some g.tag := by
      rw [parentOf_push, if_pos rfl, parent]
    rcases old g.tag (ha.tag_mem present) with same | above
    · exact .inr (.link (same ▸ link))
    · exact .inr (.head link above)

protected theorem push {t : Tag} {g : Frame} (kind : BorrowKind)
    (fresh : ∀ u ∈ a.tags, u.serial < t.serial) (present : g ∈ a.stack)
    (enabled : g.permission ≠ .disabled) :
    (a.push ⟨t, g.permission.derive kind a.interiorMutable, some g.tag⟩).Valid where
  increasing := by
    refine List.pairwise_append.mpr ⟨ha.increasing, List.pairwise_singleton .., ?_⟩
    intro f hf e he
    rw [List.mem_singleton.mp he]
    exact fresh _ (ha.tag_mem hf)
  recorded := by
    intro f hf
    show (recordParent _ _ _).lookup f.tag = _
    rw [lookup_recordParent]
    rcases List.mem_append.mp hf with hf | hf
    · have other : f.tag ≠ t := fun e => not_mem_of_fresh fresh (e ▸ ha.tag_mem hf)
      rw [if_neg other]
      exact ha.recorded f hf
    · rw [List.mem_singleton.mp hf, if_pos rfl]
  descending := by
    intro u p link
    rw [parentOf_push] at link
    split at link
    · next same =>
      simp only [Option.some.injEq] at link
      rw [same, ← link]
      exact fresh _ (ha.tag_mem present)
    · exact ha.descending u p link
  closed := by
    intro u p link
    rw [tags_push (not_mem_of_fresh fresh)]
    rw [parentOf_push] at link
    split at link
    · simp only [Option.some.injEq] at link
      exact List.mem_append_left _ (link ▸ ha.tag_mem present)
    · exact List.mem_append_left _ (ha.closed u p link)
  rooted := ha.rooted_push fresh present rfl
  parent_present := by
    intro f hf p hp
    rcases List.mem_append.mp hf with hf | hf
    · obtain ⟨e, he, same⟩ := ha.parent_present f hf p hp
      exact ⟨e, List.mem_append_left _ he, same⟩
    · rw [List.mem_singleton.mp hf, Option.some.injEq] at hp
      exact ⟨g, List.mem_append_left _ present, hp⟩
  readOnly_child := by
    intro f hf e he link readOnly
    rcases ha.parent_push fresh present rfl hf he link with ⟨hf, he⟩ | ⟨rfl, rfl⟩
    · exact ha.readOnly_child f hf e he link readOnly
    · show Permission.derive _ _ _ = _
      rw [readOnly, ha.readOnly_plain e present readOnly, Permission.derive_readOnly]
  unique_parent := by
    intro f hf e he link unique
    rcases ha.parent_push fresh present rfl hf he link with ⟨hf, he⟩ | ⟨rfl, rfl⟩
    · exact ha.unique_parent f hf e he link unique
    · exact enabled
  readOnly_plain := by
    intro f hf readOnly
    rcases List.mem_append.mp hf with hf | hf
    · exact ha.readOnly_plain f hf readOnly
    · rw [List.mem_singleton.mp hf] at readOnly
      rcases Permission.derive_eq_readOnly readOnly with parent | plain
      · exact ha.readOnly_plain g present parent
      · exact plain
  readWrite_interior := by
    intro f hf readWrite
    rcases List.mem_append.mp hf with hf | hf
    · exact ha.readWrite_interior f hf readWrite
    · rw [List.mem_singleton.mp hf] at readWrite
      exact Permission.derive_eq_readWrite readWrite

/-- The discipline does not look at the value. -/
theorem withValue (value : Int) : Valid { a with value } :=
  ⟨ha.increasing, ha.recorded, ha.descending, ha.closed, ha.rooted, ha.parent_present,
    ha.readOnly_child, ha.unique_parent, ha.readOnly_plain, ha.readWrite_interior⟩

/-- Every step keeps the discipline. -/
theorem step {ev : Event} {a' : Allocation} (h : a.Step ev a') : a'.Valid := by
  cases h with
  | idle => exact ha
  | push kind fresh present enabled => exact ha.push kind fresh present enabled
  | access value granted _ => exact (ha.apply granted).withValue value

end Valid

/-- The allocation that a declaration makes keeps the discipline. -/
theorem valid_declared (id : AllocationId) (name : String) (value : Int)
    (isMutable interiorMutable : Bool) (t : Tag) :
    ((⟨id, name, value, isMutable, interiorMutable, [], []⟩ : Allocation).push
      ⟨t, .ofRoot interiorMutable, none⟩).Valid where
  increasing := List.pairwise_singleton ..
  recorded := by simp [push, recordParent]
  descending := by
    intro u p link
    rw [parentOf_push] at link
    split at link <;> simp [parentOf] at link
  closed := by
    intro u p link
    rw [parentOf_push] at link
    split at link <;> simp [parentOf] at link
  rooted := ⟨_, [], rfl, rfl, rfl, by simp [tags, push, recordParent]⟩
  parent_present := by simp [push]
  readOnly_child := by simp [push]
  unique_parent := by simp [push]
  readOnly_plain := by cases interiorMutable <;> simp [push, Permission.ofRoot]
  readWrite_interior := by cases interiorMutable <;> simp [push, Permission.ofRoot]

/-! ## What a step keeps -/

namespace Step

variable {a a' : Allocation} {ev : Event}

theorem interiorMutable_eq (h : a.Step ev a') : a'.interiorMutable = a.interiorMutable := by
  cases h <;> rfl

theorem name_eq (h : a.Step ev a') : a'.name = a.name := by
  cases h <;> rfl

/-- Tags are never forgotten. -/
theorem mem_tags (h : a.Step ev a') {t : Tag} (ht : t ∈ a.tags) : t ∈ a'.tags := by
  cases h with
  | idle => exact ht
  | push _ fresh _ _ =>
    rw [tags_push (not_mem_of_fresh fresh)]
    exact List.mem_append_left _ ht
  | access => exact ht

/-- What a recorded tag was derived from never changes. -/
theorem descends_iff (h : a.Step ev a') (ha : a.Valid) {t u : Tag} (ht : t ∈ a.tags) :
    a'.Descends t u ↔ a.Descends t u := by
  cases h with
  | idle => rfl
  | push _ fresh _ _ =>
    have notMem := not_mem_of_fresh fresh
    exact Allocation.descends_push notMem ha.closed fun e => by
      rw [e] at ht
      exact notMem ht
  | access => rfl

/-- The lowest frame is never touched. -/
theorem bottom (h : a.Step ev a') (ha : a.Valid) {root : Frame} {above : List Frame}
    (hs : a.stack = root :: above) : ∃ above', a'.stack = root :: above' := by
  cases h with
  | idle => exact ⟨above, hs⟩
  | push => exact ⟨above ++ [_], congrArg (· ++ _) hs⟩
  | access _ granted _ => exact ha.bottom_apply granted hs

/-- Only a write changes the value. -/
theorem value_eq (h : a.Step ev a') : a'.value = a.value ∨ ∃ t, ev = .access t .write := by
  cases h with
  | idle => exact .inl rfl
  | push => exact .inl rfl
  | @access t access _ value _ kept =>
    cases access with
    | read => exact .inl (kept rfl)
    | write => exact .inr ⟨t, rfl⟩

/-- A frame for a recorded tag was there before, with the permission that it has now unless a read
    through an ancestor disabled it. -/
theorem origin (h : a.Step ev a') (ha : a.Valid) {g : Frame} (hg : g ∈ a'.stack)
    (old : g.tag ∈ a.tags) : ∃ f ∈ a.stack, g.tag = f.tag ∧ g.parent = f.parent ∧
      (g = f ∨ f.permission = .unique ∧ g.permission = .disabled) := by
  cases h with
  | idle => exact ⟨g, hg, rfl, rfl, .inl rfl⟩
  | push _ fresh _ _ =>
    rcases List.mem_append.mp hg with hg | hg
    · exact ⟨g, hg, rfl, rfl, .inl rfl⟩
    · rw [List.mem_singleton.mp hg] at old
      exact absurd old (not_mem_of_fresh fresh)
  | access _ granted _ =>
    obtain ⟨f, hf, tag_eq, parent_eq, same⟩ := ha.origin granted hg
    exact ⟨f, hf, tag_eq, parent_eq, same.imp_right fun off => off.2.2⟩

/-- A frame stays as it is, unless the step is an access through an ancestor, or a write through an
    older tag and the frame is read-only. -/
theorem survives (h : a.Step ev a') (ha : a.Valid) {f : Frame} (hf : f ∈ a.stack) :
    f ∈ a'.stack ∨ ∃ t access, ev = .access t access ∧ (a.Descends f.tag t ∨
      access = .write ∧ f.permission = .sharedReadOnly ∧ t.serial < f.tag.serial) := by
  cases h with
  | idle => exact .inl hf
  | push => exact .inl (List.mem_append_left _ hf)
  | access _ granted _ =>
    exact (ha.survives granted hf).imp_right fun reached => ⟨_, _, rfl, reached⟩

/-- The frame of the accessing tag is enabled and stays; a write needs a frame that is not
    read-only on plain data; live unique frames above it descend from the tag. -/
theorem accessed {t : Tag} {access : Access} (h : a.Step (.access t access) a') (ha : a.Valid) :
    (∃ f ∈ a.stack, f.tag = t ∧ f ∈ a'.stack ∧ f.permission ≠ .disabled ∧
      (access = .write → f.permission = .sharedReadOnly → a.interiorMutable = true)) ∧
    ∀ g ∈ a.stack, t.serial < g.tag.serial → g.permission = .unique → a.Descends g.tag t := by
  cases h with
  | access _ granted _ =>
    obtain ⟨⟨f, hf, rfl, enabled, writable⟩, unopposed⟩ := ha.of_granted granted
    have stays := (ha.mem_apply_iff granted).mpr (.inl ⟨hf, Int.le_refl _⟩)
    exact ⟨⟨f, hf, rfl, stays, enabled, writable⟩, unopposed⟩

/-- After an access no descendant of its tag is live and unique. -/
theorem not_unique_of_descends {t : Tag} {access : Access} (h : a.Step (.access t access) a')
    (ha : a.Valid) {g : Frame} (hg : g ∈ a'.stack) (descends : a.Descends g.tag t) :
    g.permission ≠ .unique := by
  cases h with
  | access _ granted _ => exact ha.not_unique_of_descends granted hg descends

/-- After a write no younger read-only frame is left. -/
theorem not_readOnly_of_write {t : Tag} (h : a.Step (.access t .write) a') (ha : a.Valid)
    {g : Frame} (hg : g ∈ a'.stack) (younger : t.serial < g.tag.serial) :
    g.permission ≠ .sharedReadOnly := by
  cases h with
  | access _ granted _ => exact (ha.gone_of_write granted hg).2 younger

end Step

end Allocation

end PointerTrace
