import PointerTrace.Proofs.Access

/- What a granted access may touch, for any allocation with distinct tags on its stack and a lineage
   without cycles; it need not be one that an evaluation reaches. `Footprint` lists what holds of the
   allocation after the access. It all follows from `stack_apply`, which says what carrying out the
   grant leaves above the frame that granted it: no frame that the same access would invalidate, so
   that judging the access again grants it at the same depth and invalidates nothing. -/
namespace PointerTrace

namespace Allocation

/-- What an access through a tag, granted at a depth, leaves of an allocation. -/
structure Footprint (a : Allocation) (t : Tag) (access : Access) (depth : Nat) (b : Allocation) :
    Prop where
  /-- The frames up to the one that grants are unchanged. -/
  lower : b.stack.take (depth + 1) = a.stack.take (depth + 1)
  /-- The frames that are left stand in their order. -/
  order : (b.stack.map fun f => (f.tag, f.parent)).Sublist
    (a.stack.map fun f => (f.tag, f.parent))
  /-- No frame above is live and unique. -/
  unopposed : ∀ f ∈ b.stack.drop (depth + 1), f.permission ≠ .unique
  /-- After a write the frames that are left are as they were, and no frame above is read-only or
      derived from the tag. -/
  written : access = .write → b.stack.Sublist a.stack ∧
    ∀ f ∈ b.stack.drop (depth + 1), f.permission ≠ .sharedReadOnly ∧ ¬ a.Descends f.tag t
  /-- After a read no frame is gone. -/
  read : access = .read →
    (b.stack.map fun f => (f.tag, f.parent)) = a.stack.map fun f => (f.tag, f.parent)
  /-- Nothing but the stack is touched. -/
  rest : b = { a with stack := b.stack }
  /-- The same access is granted again and invalidates nothing. -/
  again : b.judge (some t) access = .ok ⟨depth, [], []⟩

/-! ## The frames above the one that grants -/

/-- What a write leaves of a frame is the frame. -/
theorem remains_write {a : Allocation} {t : Tag} {f g : Frame}
    (left : a.remains t .write f = some g) : g = f ∧ a.popsOnWrite t f = false := by
  simp only [remains] at left
  split at left
  · cases left
  · next stays =>
    rw [Option.some.injEq] at left
    exact ⟨left.symm, Bool.eq_false_iff.mpr stays⟩

/-- No frame that an unopposed access leaves above its own is live and unique: a read disables it
    and a write pops it. -/
theorem remains_not_unique {a : Allocation} {t : Tag} {access : Access} {f g : Frame}
    (unopposed : f.permission = .unique → a.derives f.tag t = true)
    (left : a.remains t access f = some g) : g.permission ≠ .unique := by
  intro unique
  rcases (remains_eq_some left).2.2 with rfl | ⟨-, -, -, off⟩
  · have own := unopposed unique
    cases access with
    | write => simp [remains, popsOnWrite, own] at left
    | read =>
      simp only [remains, disablesOnRead, own, unique, Bool.true_and, decide_true, if_true,
        Option.some.injEq] at left
      rw [← left] at unique
      cases unique
  · rw [off] at unique
    cases unique

/-- The frames that a read leaves have the tags and parents that were there. -/
theorem remaining_read (a : Allocation) (t : Tag) (l : List Frame) :
    ((l.filterMap (a.remains t .read)).map fun f => (f.tag, f.parent)) =
      l.map fun f => (f.tag, f.parent) := by
  induction l with
  | nil => rfl
  | cons f l ih =>
    have left : a.remains t .read f = some
        (if a.disablesOnRead t f then { f with permission := .disabled } else f) := rfl
    obtain ⟨tag_eq, parent_eq, -⟩ := remains_eq_some left
    rw [List.filterMap_cons_some left, List.map_cons, List.map_cons, ih, tag_eq, parent_eq]

/-- The frames that a write leaves are among those that were there, in their order. -/
theorem remaining_write (a : Allocation) (t : Tag) (l : List Frame) :
    (l.filterMap (a.remains t .write)).Sublist l := by
  induction l with
  | nil => exact .slnil
  | cons f l ih =>
    cases left : a.remains t .write f with
    | none => rw [List.filterMap_cons_none left]; exact ih.cons _
    | some g =>
      rw [List.filterMap_cons_some left, (remains_write left).1]
      exact ih.cons_cons _

/-! ## The allocation after a granted access -/

section Granted

variable {a : Allocation} {t : Tag} {access : Access} {below above : List Frame} {f : Frame}

/-- What is left above the frame that grants has no foreign or own live unique frame, and nothing
    that the same access invalidates. -/
theorem Grants.settled (granted : a.Grants t access below f above) {g : Frame}
    (hg : g ∈ above.filterMap (a.remains t access)) : g.permission ≠ .unique ∧
      (access = .write → a.popsOnWrite t g = false) := by
  obtain ⟨e, he, left⟩ := List.mem_filterMap.mp hg
  refine ⟨remains_not_unique (granted.unopposed e he) left, ?_⟩
  rintro rfl
  obtain ⟨rfl, stays⟩ := remains_write left
  exact stays

/-- The frame that granted an access grants it again. -/
theorem Grants.again (distinct : (a.stack.map Frame.tag).Nodup)
    (granted : a.Grants t access below f above) :
    (a.apply (a.grantAt t access below.length above)).Grants t access below f
      (above.filterMap (a.remains t access)) where
  cut := stack_apply distinct granted
  tag_eq := granted.tag_eq
  topmost := by
    intro g hg
    obtain ⟨e, he, left⟩ := List.mem_filterMap.mp hg
    rw [(remains_eq_some left).1]
    exact granted.topmost e he
  unopposed := fun g hg unique => absurd unique (granted.settled hg).1
  enabled := granted.enabled
  writable := granted.writable

/-- Above the frame that granted an access nothing is left to invalidate. -/
theorem Grants.grantAt_again (granted : a.Grants t access below f above) :
    a.grantAt t access below.length (above.filterMap (a.remains t access)) =
      ⟨below.length, [], []⟩ := by
  cases access with
  | write =>
    have none : (above.filterMap (a.remains t .write)).filter (a.popsOnWrite t) = [] :=
      List.filter_eq_nil_iff.mpr fun g hg => by simp [(granted.settled hg).2 rfl]
    simp only [grantAt, none, List.map_nil]
  | read =>
    have none : (above.filterMap (a.remains t .read)).filter (a.disablesOnRead t) = [] :=
      List.filter_eq_nil_iff.mpr fun g hg => by simp [disablesOnRead, (granted.settled hg).1]
    simp only [grantAt, none, List.map_nil]

theorem Grants.judge_again (distinct : (a.stack.map Frame.tag).Nodup)
    (granted : a.Grants t access below f above) :
    (a.apply (a.grantAt t access below.length above)).judge (some t) access =
      .ok ⟨below.length, [], []⟩ := by
  have untouched : (a.apply (a.grantAt t access below.length above)).lineage = a.lineage := rfl
  refine judge_eq_ok.mpr ⟨below, f, _, granted.again distinct, ?_⟩
  rw [grantAt_congr untouched, granted.grantAt_again]

theorem Grants.footprint (distinct : (a.stack.map Frame.tag).Nodup) (acyclic : a.Acyclic)
    (granted : a.Grants t access below f above) :
    a.Footprint t access below.length
      (a.apply (a.grantAt t access below.length above)) := by
  have stack := stack_apply distinct granted
  have cut := granted.cut
  have upper : (a.apply (a.grantAt t access below.length above)).stack.drop (below.length + 1) =
      above.filterMap (a.remains t access) := by
    rw [stack, List.append_cons]
    exact List.drop_left' (by simp)
  -- what is left above is related frame by frame to what was there
  have identities : ((above.filterMap (a.remains t access)).map fun g => (g.tag, g.parent)).Sublist
      (above.map fun g => (g.tag, g.parent)) := by
    cases access with
    | write => exact (remaining_write a t above).map _
    | read => rw [remaining_read]
  refine ⟨?_, ?_, ?_, ?_, ?_, rfl, granted.judge_again distinct⟩
  · rw [stack, cut, List.append_cons, List.append_cons _ _ above]
    rw [List.take_left' (by simp), List.take_left' (by simp)]
  · rw [stack, cut, List.map_append, List.map_append, List.map_cons, List.map_cons]
    exact (identities.cons_cons _).append_left _
  · rw [upper]
    exact fun g hg => (granted.settled hg).1
  · rintro rfl
    rw [upper, stack, cut]
    refine ⟨((remaining_write a t above).cons_cons f).append_left below, fun g hg => ?_⟩
    have stays := (granted.settled hg).2 rfl
    simp only [popsOnWrite, Bool.or_eq_false_iff, decide_eq_false_iff_not] at stays
    refine ⟨stays.2, fun own => ?_⟩
    rw [(derives_iff_of_acyclic acyclic).mpr own] at stays
    cases stays.1
  · rintro rfl
    rw [stack, cut, List.map_append, List.map_append, List.map_cons, List.map_cons,
      remaining_read]

end Granted

/-- A write needs of the stack what a read needs, and that the frame which grants it is not
    read-only on plain data. -/
theorem grants_write_iff {a : Allocation} {t : Tag} {below above : List Frame} {f : Frame} :
    a.Grants t .write below f above ↔ a.Grants t .read below f above ∧
      (f.permission = .sharedReadOnly → a.interiorMutable = true) := by
  constructor
  · rintro ⟨cut, tag_eq, topmost, unopposed, enabled, writable⟩
    exact ⟨⟨cut, tag_eq, topmost, unopposed, enabled, nofun⟩, writable rfl⟩
  · rintro ⟨⟨cut, tag_eq, topmost, unopposed, enabled, -⟩, writable⟩
    exact ⟨cut, tag_eq, topmost, unopposed, enabled, fun _ => writable⟩

/-- The frame at the depth of a tag is the one that grants. -/
theorem Grants.at_find {a : Allocation} {t : Tag} {access : Access} {below above : List Frame}
    {f : Frame} (granted : a.Grants t access below f above) :
    ((a.find t).bind fun depth => a.stack[depth]?) = some f := by
  have found : a.find t = some below.length :=
    depthOf_eq_some.mpr ⟨below, f, above, granted.cut, rfl, granted.tag_eq, granted.topmost⟩
  rw [found, granted.cut]
  simp

/-- A granted access touches no more than its footprint, and a write is granted exactly where a
    read is and the frame of the tag is not read-only on plain data. -/
theorem footprint_of_granted {a : Allocation} (distinct : (a.stack.map Frame.tag).Nodup)
    (acyclic : a.Acyclic) (p : Pointer) (t : Tag) (tagged : p.tag = some t) :
    (∀ access grant, a.judge p.tag access = .ok grant →
      a.Footprint t access grant.depth (a.apply grant)) ∧
    ((∃ grant, a.judge p.tag .write = .ok grant) ↔
      (∃ grant, a.judge p.tag .read = .ok grant) ∧
      ¬ (a.interiorMutable = false ∧
        ∃ f, ((a.find t).bind fun depth => a.stack[depth]?) = some f ∧
          f.permission = .sharedReadOnly)) := by
  rw [tagged]
  constructor
  · intro access grant granted
    obtain ⟨below, f, above, grants, rfl⟩ := judge_eq_ok.mp granted
    have depth : (a.grantAt t access below.length above).depth = below.length := by
      cases access <;> rfl
    rw [depth]
    exact grants.footprint distinct acyclic
  · constructor
    · rintro ⟨grant, granted⟩
      obtain ⟨below, f, above, grants, -⟩ := judge_eq_ok.mp granted
      obtain ⟨reads, writable⟩ := grants_write_iff.mp grants
      refine ⟨⟨_, judge_eq_ok.mpr ⟨below, f, above, reads, rfl⟩⟩, ?_⟩
      rintro ⟨plain, g, here, readOnly⟩
      rw [reads.at_find, Option.some.injEq] at here
      rw [writable (here ▸ readOnly)] at plain
      cases plain
    · rintro ⟨⟨grant, granted⟩, writable⟩
      obtain ⟨below, f, above, grants, -⟩ := judge_eq_ok.mp granted
      have fit : f.permission = .sharedReadOnly → a.interiorMutable = true := fun readOnly => by
        by_contra interior
        exact writable ⟨Bool.eq_false_iff.mpr interior, f, grants.at_find, readOnly⟩
      exact ⟨_, judge_eq_ok.mpr ⟨below, f, above, grants_write_iff.mpr ⟨grants, fit⟩, rfl⟩⟩

/-- An allocation that no evaluation reaches: its tags decrease along the lineage, and a read-only
    frame stands between two frames of one derivation. -/
def reversed : Allocation :=
  { id := 0, name := "x", value := 7, isMutable := false, interiorMutable := false,
    stack := [⟨⟨9⟩, .unique, none⟩, ⟨⟨2⟩, .sharedReadOnly, none⟩, ⟨⟨5⟩, .unique, some ⟨9⟩⟩,
      ⟨⟨1⟩, .disabled, some ⟨5⟩⟩, ⟨⟨4⟩, .sharedReadWrite, none⟩],
    lineage := [(⟨9⟩, none), (⟨2⟩, none), (⟨5⟩, some ⟨9⟩), (⟨1⟩, some ⟨5⟩), (⟨4⟩, none)] }

theorem footprint_of_granted_reversed : ∃ grant,
    reversed.judge (some ⟨9⟩) .write = .ok grant ∧ grant.popped = [⟨2⟩, ⟨5⟩, ⟨1⟩] ∧
      reversed.Footprint ⟨9⟩ .write grant.depth (reversed.apply grant) := by
  have acyclic : reversed.Acyclic := acyclic_of_measure (fun t => (9 - t.serial).toNat) (by
    intro t p link
    have entry := mem_lineage_of_lookup (parentOf_eq_some.mp link)
    simp only [reversed, List.mem_cons, Prod.mk.injEq, reduceCtorEq, and_false, Option.some.injEq,
      false_or, List.not_mem_nil, or_false] at entry
    rcases entry with ⟨rfl, rfl⟩ | ⟨rfl, rfl⟩ <;> decide)
  refine ⟨⟨0, [⟨2⟩, ⟨5⟩, ⟨1⟩], []⟩, by decide, rfl, ?_⟩
  exact (footprint_of_granted (by decide) acyclic ⟨0, some ⟨9⟩⟩ ⟨9⟩ rfl).1 .write _ (by decide)

end Allocation

end PointerTrace
