import PointerTrace.Proofs.Access
import PointerTrace.Proofs.Lineage

/- The discipline of one borrow stack. `Valid` is what holds of an allocation in every reachable
   state: tags increase from the bottom to the top, every frame but the lowest still has its
   parent's frame below it, the lowest frame keeps its permission, and permissions only weaken
   along a derivation. On a valid stack the tags alone say which frames stand above which, so that
   the effect of a granted access is stated by membership (`origin`, `survives`, `gone_of_write`).
   `Valid.apply` says that a granted access keeps the discipline. That a write pops with a frame all
   frames derived from it rests on `readOnly_child`: what was derived from a read-only frame is
   read-only too. -/
namespace PointerTrace

namespace Allocation

/-- The discipline of a borrow stack and its lineage. -/
structure Valid (a : Allocation) : Prop where
  /-- Tags increase from the bottom to the top. -/
  increasing : a.stack.Pairwise fun f g => f.tag.serial < g.tag.serial
  /-- The lineage records the parent of every frame. -/
  recorded : ∀ f ∈ a.stack, a.lineage.lookup f.tag = some f.parent
  /-- Recorded parents are older. -/
  descending : a.Descending
  /-- Recorded parents are recorded themselves. -/
  closed : ∀ t p, a.parentOf t = some p → p ∈ a.tags
  /-- The lowest frame has no parent and its first permission, and every tag descends from it. -/
  rooted : ∃ root above, a.stack = root :: above ∧ root.parent = none ∧
    root.permission = .ofRoot a.interiorMutable ∧ ∀ t ∈ a.tags, t = root.tag ∨ a.Descends t root.tag
  /-- The parent of a frame is on the stack. -/
  parent_present : ∀ f ∈ a.stack, ∀ p, f.parent = some p → ∃ g ∈ a.stack, g.tag = p
  /-- A child of a read-only frame is read-only. -/
  readOnly_child : ∀ f ∈ a.stack, ∀ g ∈ a.stack, f.parent = some g.tag →
    g.permission = .sharedReadOnly → f.permission = .sharedReadOnly
  /-- A live unique frame has no disabled parent. -/
  unique_parent : ∀ f ∈ a.stack, ∀ g ∈ a.stack, f.parent = some g.tag →
    f.permission = .unique → g.permission ≠ .disabled
  /-- Only plain data have read-only frames. -/
  readOnly_plain : ∀ f ∈ a.stack, f.permission = .sharedReadOnly → a.interiorMutable = false
  /-- Only interior-mutable data have frames for shared writing. -/
  readWrite_interior : ∀ f ∈ a.stack, f.permission = .sharedReadWrite → a.interiorMutable = true

/-! ## Frames of a valid stack -/

theorem tags_remaining (a : Allocation) (t : Tag) (access : Access) (l : List Frame) :
    ((l.filterMap (a.remains t access)).map Frame.tag).Sublist (l.map Frame.tag) := by
  induction l with
  | nil => exact .slnil
  | cons f l ih =>
    cases left : a.remains t access f with
    | none => rw [List.filterMap_cons_none left, List.map_cons]; exact ih.cons _
    | some g =>
      rw [List.filterMap_cons_some left, List.map_cons, List.map_cons, (remains_eq_some left).1]
      exact ih.cons_cons _

namespace Valid

variable {a : Allocation} (ha : a.Valid)
include ha

theorem distinct : (a.stack.map Frame.tag).Nodup := by
  rw [List.nodup_iff_pairwise_ne, List.pairwise_map]
  exact ha.increasing.imp fun h e => by simp [e] at h

theorem stack_ne_nil : a.stack ≠ [] := by
  obtain ⟨root, above, bottom, -⟩ := ha.rooted
  rw [bottom]
  nofun

theorem eq_of_tag {f g : Frame} (hf : f ∈ a.stack) (hg : g ∈ a.stack) (same : f.tag = g.tag) :
    f = g :=
  List.inj_on_of_nodup_map ha.distinct hf hg same

/-- Looking for the tag of a frame finds the frame. -/
theorem at_find {f : Frame} (hf : f ∈ a.stack) :
    ((a.find f.tag).bind fun depth => a.stack[depth]?) = some f := by
  unfold find
  cases found : depthOf a.stack f.tag with
  | none => exact absurd rfl (depthOf_eq_none.mp found f hf)
  | some d =>
    obtain ⟨below, g, above, cut, rfl, same, -⟩ := depthOf_eq_some.mp found
    have own : g = f := ha.eq_of_tag (by simp [cut]) hf same
    simp [cut, own]

theorem tag_mem {f : Frame} (hf : f ∈ a.stack) : f.tag ∈ a.tags :=
  mem_tags_of_lookup (ha.recorded f hf)

theorem parentOf_tag {f : Frame} (hf : f ∈ a.stack) : a.parentOf f.tag = f.parent := by
  simp [parentOf, ha.recorded f hf]

theorem parent_older {f : Frame} (hf : f ∈ a.stack) {p : Tag} (h : f.parent = some p) :
    p.serial < f.tag.serial :=
  ha.descending f.tag p (by rw [ha.parentOf_tag hf, h])

/-- Where the stack is cut at a frame, the tags say on which side a frame stands. -/
theorem mem_above_iff {below above : List Frame} {f g : Frame} (cut : a.stack = below ++ f :: above)
    (hg : g ∈ a.stack) : g ∈ above ↔ f.tag.serial < g.tag.serial := by
  have order := ha.increasing
  rw [cut, List.pairwise_append] at order
  obtain ⟨-, upper, apart⟩ := order
  constructor
  · exact (List.pairwise_cons.mp upper).1 g
  · intro higher
    rw [cut, List.mem_append, List.mem_cons] at hg
    rcases hg with hg | rfl | hg
    · have := apart g hg f (by simp)
      omega
    · omega
    · exact hg

/-- What descends from a read-only frame is read-only. -/
theorem readOnly_of_descends {f g : Frame} (hf : f ∈ a.stack) (hg : g ∈ a.stack)
    (h : a.Descends f.tag g.tag) (readOnly : g.permission = .sharedReadOnly) :
    f.permission = .sharedReadOnly := by
  obtain ⟨t, ht⟩ : ∃ t, t = f.tag := ⟨_, rfl⟩
  rw [← ht] at h
  induction h using Relation.TransGen.head_induction_on generalizing f with
  | single link =>
    rw [ht, ha.parentOf_tag hf] at link
    exact ha.readOnly_child f hf g hg link readOnly
  | head link _ ih =>
    rw [ht, ha.parentOf_tag hf] at link
    obtain ⟨e, he, rfl⟩ := ha.parent_present f hf _ link
    exact ha.readOnly_child f hf e he link (ih he rfl)

/-! ## A granted access -/

/-- A granted access finds the frame of its tag enabled, fit for writing if it is a write, and
    below no live unique frame but descendants. -/
theorem of_granted {t : Tag} {access : Access} {grant : Grant}
    (granted : a.judge (some t) access = .ok grant) :
    (∃ f ∈ a.stack, f.tag = t ∧ f.permission ≠ .disabled ∧
      (access = .write → f.permission = .sharedReadOnly → a.interiorMutable = true)) ∧
    ∀ g ∈ a.stack, t.serial < g.tag.serial → g.permission = .unique → a.Descends g.tag t := by
  obtain ⟨below, f, above, grants, rfl⟩ := judge_eq_ok.mp granted
  refine ⟨⟨f, by simp [grants.cut], grants.tag_eq, grants.enabled, grants.writable⟩, ?_⟩
  intro g hg younger unique
  rw [← grants.tag_eq] at younger
  have inside := (ha.mem_above_iff grants.cut hg).mpr younger
  exact (derives_iff ha.descending).mp (grants.unopposed g inside unique)

/-- The frames after a granted access: those up to the tag's own, and what remains of those
    above. -/
theorem mem_apply_iff {t : Tag} {access : Access} {grant : Grant}
    (granted : a.judge (some t) access = .ok grant) {g : Frame} :
    g ∈ (a.apply grant).stack ↔ (g ∈ a.stack ∧ g.tag.serial ≤ t.serial) ∨
      ∃ f ∈ a.stack, t.serial < f.tag.serial ∧ a.remains t access f = some g := by
  obtain ⟨below, e, above, grants, rfl⟩ := judge_eq_ok.mp granted
  have side : ∀ f ∈ a.stack, (f ∈ above ↔ t.serial < f.tag.serial) := fun f hf => by
    rw [ha.mem_above_iff grants.cut hf, grants.tag_eq]
  rw [stack_apply ha.distinct grants, List.append_cons, List.mem_append, List.mem_filterMap]
  have lower : g ∈ below ++ [e] ↔ g ∈ a.stack ∧ g.tag.serial ≤ t.serial := by
    constructor
    · intro h
      have hg : g ∈ a.stack := by
        rw [grants.cut, List.append_cons]
        exact List.mem_append_left _ h
      have apart := ha.distinct
      rw [grants.cut, List.append_cons, List.map_append, List.nodup_append] at apart
      have outside : g ∉ above := fun inside =>
        apart.2.2 _ (List.mem_map_of_mem h) _ (List.mem_map_of_mem inside) rfl
      rw [side g hg] at outside
      exact ⟨hg, by omega⟩
    · rintro ⟨hg, older⟩
      have outside : g ∉ above := fun inside => by
        have := (side g hg).mp inside
        omega
      rw [grants.cut, List.append_cons, List.mem_append] at hg
      exact hg.resolve_right outside
  rw [lower]
  constructor
  · rintro (h | ⟨f, hf, left⟩)
    · exact .inl h
    · have inside : f ∈ a.stack := by simp [grants.cut, hf]
      exact .inr ⟨f, inside, (side f inside).mp hf, left⟩
  · rintro (h | ⟨f, hf, younger, left⟩)
    · exact .inl h
    · exact .inr ⟨f, (side f hf).mpr younger, left⟩

/-- A frame after a granted access is one from before, unless a read through an ancestor disabled
    it. -/
theorem origin {t : Tag} {access : Access} {grant : Grant}
    (granted : a.judge (some t) access = .ok grant) {g : Frame} (hg : g ∈ (a.apply grant).stack) :
    ∃ f ∈ a.stack, g.tag = f.tag ∧ g.parent = f.parent ∧ (g = f ∨ access = .read ∧
      a.Descends f.tag t ∧ f.permission = .unique ∧ g.permission = .disabled) := by
  rcases (ha.mem_apply_iff granted).mp hg with ⟨h, -⟩ | ⟨f, hf, -, left⟩
  · exact ⟨g, h, rfl, rfl, .inl rfl⟩
  · obtain ⟨tag_eq, parent_eq, same | ⟨read, derives, unique, off⟩⟩ := remains_eq_some left
    · exact ⟨f, hf, tag_eq, parent_eq, .inl same⟩
    · exact ⟨f, hf, tag_eq, parent_eq,
        .inr ⟨read, (derives_iff ha.descending).mp derives, unique, off⟩⟩

/-- A frame survives a granted access as it is, unless it descends from the tag or is a read-only
    frame above a write. -/
theorem survives {t : Tag} {access : Access} {grant : Grant}
    (granted : a.judge (some t) access = .ok grant) {f : Frame} (hf : f ∈ a.stack) :
    f ∈ (a.apply grant).stack ∨ a.Descends f.tag t ∨
      access = .write ∧ f.permission = .sharedReadOnly ∧ t.serial < f.tag.serial := by
  by_cases older : f.tag.serial ≤ t.serial
  · exact .inl ((ha.mem_apply_iff granted).mpr (.inl ⟨hf, older⟩))
  · by_cases derives : a.derives f.tag t = true
    · exact .inr (.inl ((derives_iff ha.descending).mp derives))
    · cases access with
      | read =>
        refine .inl ((ha.mem_apply_iff granted).mpr (.inr ⟨f, hf, by omega, ?_⟩))
        simp [remains, disablesOnRead, derives]
      | write =>
        by_cases readOnly : f.permission = .sharedReadOnly
        · exact .inr (.inr ⟨rfl, readOnly, by omega⟩)
        · refine .inl ((ha.mem_apply_iff granted).mpr (.inr ⟨f, hf, by omega, ?_⟩))
          simp [remains, popsOnWrite, derives, readOnly]

/-- After a granted access no descendant of its tag is live and unique. -/
theorem not_unique_of_descends {t : Tag} {access : Access} {grant : Grant}
    (granted : a.judge (some t) access = .ok grant) {g : Frame} (hg : g ∈ (a.apply grant).stack)
    (h : a.Descends g.tag t) : g.permission ≠ .unique := by
  have younger := h.older ha.descending
  rcases (ha.mem_apply_iff granted).mp hg with ⟨-, older⟩ | ⟨f, hf, -, left⟩
  · omega
  · rw [(remains_eq_some left).1, ← derives_iff ha.descending] at h
    cases access with
    | write => simp [remains, popsOnWrite, h] at left
    | read =>
      by_cases unique : f.permission = .unique
      · simp [remains, disablesOnRead, h, unique] at left
        simp [← left]
      · simp [remains, disablesOnRead, h, unique] at left
        exact left ▸ unique

/-- After a granted write no descendant of its tag and no younger read-only frame is left. -/
theorem gone_of_write {t : Tag} {grant : Grant} (granted : a.judge (some t) .write = .ok grant)
    {g : Frame} (hg : g ∈ (a.apply grant).stack) :
    ¬ a.Descends g.tag t ∧ (t.serial < g.tag.serial → g.permission ≠ .sharedReadOnly) := by
  rcases (ha.mem_apply_iff granted).mp hg with ⟨-, older⟩ | ⟨f, -, -, left⟩
  · refine ⟨fun h => ?_, fun younger => by omega⟩
    have := h.older ha.descending
    omega
  · simp only [remains] at left
    split at left
    · cases left
    · next stays =>
      simp only [Option.some.injEq] at left
      subst left
      simp only [popsOnWrite, Bool.or_eq_true, decide_eq_true_eq, not_or] at stays
      exact ⟨fun h => stays.1 ((derives_iff ha.descending).mpr h), fun _ => stays.2⟩

/-! ## Accesses keep the discipline -/

/-- The lowest frame is never touched. -/
theorem bottom_apply {t : Tag} {access : Access} {grant : Grant}
    (granted : a.judge (some t) access = .ok grant) {root : Frame} {above : List Frame}
    (bottom : a.stack = root :: above) : ∃ above', (a.apply grant).stack = root :: above' := by
  obtain ⟨below, f, upper, grants, rfl⟩ := judge_eq_ok.mp granted
  rw [stack_apply ha.distinct grants]
  have cut := grants.cut
  rw [bottom] at cut
  cases below with
  | nil =>
    simp only [List.nil_append, List.cons.injEq] at cut
    exact ⟨_, by rw [cut.1]; rfl⟩
  | cons g below =>
    simp only [List.cons_append, List.cons.injEq] at cut
    exact ⟨_, by rw [cut.1]; rfl⟩

/-- The parent of a frame that survives an access survives it too. -/
theorem parent_present_apply {t : Tag} {access : Access} {grant : Grant}
    (granted : a.judge (some t) access = .ok grant) {g : Frame} (hg : g ∈ (a.apply grant).stack)
    {p : Tag} (hp : g.parent = some p) : ∃ e ∈ (a.apply grant).stack, e.tag = p := by
  obtain ⟨f, hf, tag_eq, parent_eq, -⟩ := ha.origin granted hg
  rw [parent_eq] at hp
  obtain ⟨e, he, rfl⟩ := ha.parent_present f hf p hp
  have link : a.parentOf f.tag = some e.tag := by rw [ha.parentOf_tag hf, hp]
  cases access with
  | read =>
    rw [ha.mem_apply_iff granted] at hg
    by_cases older : e.tag.serial ≤ t.serial
    · exact ⟨e, (ha.mem_apply_iff granted).mpr (.inl ⟨he, older⟩), rfl⟩
    · have left : a.remains t .read e = some
          (if a.disablesOnRead t e then { e with permission := .disabled } else e) := rfl
      exact ⟨_, (ha.mem_apply_iff granted).mpr (.inr ⟨e, he, by omega, left⟩),
        (remains_eq_some left).1⟩
  | write =>
    -- what would pop the parent pops the child
    obtain ⟨own, shared⟩ := ha.gone_of_write granted hg
    rw [tag_eq] at own shared
    rcases ha.survives granted he with stays | descends | ⟨-, readOnly, younger⟩
    · exact ⟨e, stays, rfl⟩
    · exact absurd (Descends.head link descends) own
    · have child := ha.readOnly_child f hf e he hp readOnly
      have order := ha.descending _ _ link
      obtain ⟨f', hf', tag_eq', -, same | ⟨read, -⟩⟩ := ha.origin granted hg
      · have : f' = f := ha.eq_of_tag hf' hf (by rw [← tag_eq', tag_eq])
        rw [same, this] at shared
        exact absurd child (shared (by omega))
      · cases read

protected theorem apply {t : Tag} {access : Access} {grant : Grant}
    (granted : a.judge (some t) access = .ok grant) : (a.apply grant).Valid where
  increasing := by
    obtain ⟨below, f, above, grants, rfl⟩ := judge_eq_ok.mp granted
    have order := ha.increasing
    have sub : ((a.apply (a.grantAt t access below.length above)).stack.map Frame.tag).Sublist
        (a.stack.map Frame.tag) := by
      rw [stack_apply ha.distinct grants, grants.cut, List.map_append, List.map_append,
        List.map_cons, List.map_cons]
      exact (tags_remaining a t access above).cons_cons _ |>.append_left _
    rw [← List.pairwise_map (f := Frame.tag) (R := fun t u => t.serial < u.serial)] at order ⊢
    exact order.sublist sub
  recorded := by
    intro g hg
    obtain ⟨f, hf, tag_eq, parent_eq, -⟩ := ha.origin granted hg
    rw [tag_eq, parent_eq]
    exact ha.recorded f hf
  descending := ha.descending
  closed := ha.closed
  rooted := by
    obtain ⟨root, above, bottom, orphan, kept, descends⟩ := ha.rooted
    obtain ⟨above', bottom'⟩ := ha.bottom_apply granted bottom
    exact ⟨root, above', bottom', orphan, kept, descends⟩
  parent_present := fun _ hg _ hp => ha.parent_present_apply granted hg hp
  readOnly_child := by
    intro f' hf' g' hg' link readOnly
    obtain ⟨f, hf, -, parent_f, same_f⟩ := ha.origin granted hf'
    obtain ⟨g, hg, tag_g, -, rfl | ⟨-, -, -, off⟩⟩ := ha.origin granted hg'
    · have child := ha.readOnly_child f hf g' hg (parent_f ▸ link) readOnly
      rcases same_f with rfl | ⟨-, -, unique, -⟩
      · exact child
      · rw [unique] at child
        cases child
    · rw [off] at readOnly
      cases readOnly
  unique_parent := by
    intro f' hf' g' hg' link unique
    obtain ⟨f, hf, tag_f, parent_f, rfl | ⟨-, -, -, off⟩⟩ := ha.origin granted hf'
    · obtain ⟨g, hg, tag_g, -, rfl | ⟨-, descends, -, -⟩⟩ := ha.origin granted hg'
      · exact ha.unique_parent f' hf g' hg link unique
      · -- the access that disabled the parent disabled the child
        rw [← tag_g] at descends
        have own : a.Descends f'.tag t :=
          .head (by rw [ha.parentOf_tag hf, link]) descends
        exact absurd unique (ha.not_unique_of_descends granted hf' own)
    · rw [off] at unique
      cases unique
  readOnly_plain := by
    intro f' hf' readOnly
    obtain ⟨f, hf, -, -, rfl | ⟨-, -, -, off⟩⟩ := ha.origin granted hf'
    · exact ha.readOnly_plain f' hf readOnly
    · rw [off] at readOnly
      cases readOnly
  readWrite_interior := by
    intro f' hf' readWrite
    obtain ⟨f, hf, -, -, rfl | ⟨-, -, -, off⟩⟩ := ha.origin granted hf'
    · exact ha.readWrite_interior f' hf readWrite
    · rw [off] at readWrite
      cases readWrite

end Valid

end Allocation

end PointerTrace
