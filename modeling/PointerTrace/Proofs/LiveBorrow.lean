import PointerTrace.Proofs.Run

/- Live unique borrows. A tag is live while its frame is on the stack with the unique permission; once
   lost, that never comes back (`Step.live_before`). It is lost only to an access through an ancestor
   (`Step.live_lost`), and on plain data an ancestor through which such an access is granted is itself
   live, before and after (`Step.live_ancestor`). What a frame grants is known from its push on: the
   same, unless it was unique and has been disabled (`Pushes.pushedAs`). -/
namespace PointerTrace

namespace Allocation

/-- The tag has a live unique frame. -/
def Live (a : Allocation) (t : Tag) : Prop := ∃ f ∈ a.stack, f.tag = t ∧ f.permission = .unique

theorem Live.mem {a : Allocation} (ha : a.Valid) {t : Tag} (h : a.Live t) : t ∈ a.tags := by
  obtain ⟨f, hf, rfl, -⟩ := h
  exact ha.tag_mem hf

/-- The tag was pushed with a permission, which it has kept unless it was unique and has been
    disabled. -/
structure PushedAs (a : Allocation) (t : Tag) (p : Permission) : Prop where
  mem : t ∈ a.tags
  frame : ∀ f ∈ a.stack, f.tag = t → f.permission = p ∨ p = .unique ∧ f.permission = .disabled

theorem Valid.pushedAs {a : Allocation} (ha : a.Valid) {f : Frame} (hf : f ∈ a.stack) :
    a.PushedAs f.tag f.permission :=
  ⟨ha.tag_mem hf, fun _ hg same => .inl (congrArg _ (ha.eq_of_tag hg hf same))⟩

/-- A read-only frame stays one. -/
theorem PushedAs.readOnly {a : Allocation} {t : Tag} (h : a.PushedAs t .sharedReadOnly) {f : Frame}
    (hf : f ∈ a.stack) (tag_eq : f.tag = t) : f.permission = .sharedReadOnly :=
  (h.frame f hf tag_eq).resolve_right nofun

/-- A read-only tag is not live. -/
theorem PushedAs.not_live {a : Allocation} {t : Tag} (h : a.PushedAs t .sharedReadOnly) :
    ¬ a.Live t := by
  rintro ⟨f, hf, tag_eq, unique⟩
  rw [h.readOnly hf tag_eq] at unique
  cases unique

namespace Step

variable {a a' : Allocation} {ev : Event} {t w : Tag} {access : Access}

theorem pushedAs (h : a.Step ev a') (ha : a.Valid) {p : Permission} (pushed : a.PushedAs t p) :
    a'.PushedAs t p := by
  refine ⟨h.mem_tags pushed.mem, ?_⟩
  intro g hg tag_eq
  obtain ⟨f, hf, same_tag, -, rfl | ⟨unique, off⟩⟩ := h.origin ha hg (tag_eq ▸ pushed.mem)
  · exact pushed.frame g hf tag_eq
  · refine .inr ⟨?_, off⟩
    rcases pushed.frame f hf (same_tag ▸ tag_eq) with same | ⟨same, -⟩
    · rw [← same, unique]
    · exact same

theorem live_before (h : a.Step ev a') (ha : a.Valid) (ht : t ∈ a.tags) (live : a'.Live t) :
    a.Live t := by
  obtain ⟨g, hg, rfl, unique⟩ := live
  obtain ⟨f, hf, same_tag, -, rfl | ⟨-, off⟩⟩ := h.origin ha hg ht
  · exact ⟨g, hf, rfl, unique⟩
  · rw [off] at unique
    cases unique

/-- A borrow is lost only to an access through an ancestor. -/
theorem live_lost (h : a.Step ev a') (ha : a.Valid) (live : a.Live t) :
    a'.Live t ∨ ∃ w access, ev = .access w access ∧ a.Descends t w := by
  obtain ⟨f, hf, rfl, unique⟩ := live
  rcases h.survives ha hf with stays | ⟨w, access, same, descends | ⟨-, readOnly, -⟩⟩
  · exact .inl ⟨f, stays, rfl, unique⟩
  · exact .inr ⟨w, access, same, descends⟩
  · rw [unique] at readOnly
    cases readOnly

/-- A live borrow that is older than another one is only accessed where the other is derived from
    it, and takes the authority of the other. -/
theorem not_live_younger (h : a.Step (.access w access) a') (ha : a.Valid) (live : a.Live t)
    (older : w.serial < t.serial) : ¬ a'.Live t := by
  rintro ⟨g, hg, rfl, unique⟩
  obtain ⟨f, hf, same_tag, live⟩ := live
  have descends := (h.accessed ha).2 f hf (same_tag ▸ older) live
  exact h.not_unique_of_descends ha hg (same_tag ▸ descends) unique

/-- On plain data an access is granted through a live unique frame, which stays live, or it is a
    read through a read-only frame. -/
theorem accessor (h : a.Step (.access w access) a') (ha : a.Valid)
    (plain : a.interiorMutable = false) :
    (a.Live w ∧ a'.Live w) ∨
      access = .read ∧ ∃ f ∈ a.stack, f.tag = w ∧ f.permission = .sharedReadOnly := by
  obtain ⟨⟨f, hf, tag_eq, stays, enabled, writable⟩, -⟩ := h.accessed ha
  cases grants : f.permission with
  | unique => exact .inl ⟨⟨f, hf, tag_eq, grants⟩, ⟨f, stays, tag_eq, grants⟩⟩
  | sharedReadWrite =>
    rw [ha.readWrite_interior f hf grants] at plain
    cases plain
  | sharedReadOnly =>
    cases access with
    | read => exact .inr ⟨rfl, f, hf, tag_eq, grants⟩
    | write =>
      rw [writable rfl grants] at plain
      cases plain
  | disabled => exact absurd grants enabled

/-- On plain data an ancestor of a live borrow through which an access is granted is live. -/
theorem live_ancestor (h : a.Step (.access w access) a') (ha : a.Valid)
    (plain : a.interiorMutable = false) (live : a.Live t) (descends : a.Descends t w) :
    a.Live w ∧ a'.Live w := by
  refine (h.accessor ha plain).resolve_right ?_
  rintro ⟨-, g, hg, rfl, readOnly⟩
  obtain ⟨f, hf, rfl, unique⟩ := live
  rw [ha.readOnly_of_descends hf hg descends readOnly] at unique
  cases unique

end Step

end Allocation

/-- What a frame grants after its push. -/
theorem Run.Pushes.pushedAs {r : Run} {i n : Nat} {id : AllocationId} {f : Frame} {a : Allocation}
    (h : r.Pushes i id f) (later : i < n) (found : r.allocation? n id = some a) :
    a.PushedAs f.tag f.permission := by
  obtain ⟨a₀, start, top⟩ := h.found
  exact carries start ((allocation_valid start).pushedAs top) later found
    fun _ _ _ _ _ _ moved held => moved.step.pushedAs moved.valid held

end PointerTrace
