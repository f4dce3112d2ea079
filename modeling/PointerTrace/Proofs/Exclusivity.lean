import PointerTrace.Proofs.LiveBorrow

/- Exclusivity of unique borrows. Between the push of a unique frame and a granted access through its
   tag, plain data are accessed through that tag, through tags derived from it, or read through
   younger read-only frames (`accesses_of_unique`). The proof goes backwards from the last access: it
   finds the borrow in force (`Exclusive`), and a borrow in force after a step was in force before it
   (`Step.exclusive_before`). A foreign live frame above the borrow could only be lost to an access
   through one of its ancestors: an older one would take the borrow's authority too, and a younger one
   is foreign itself and stays. -/
namespace PointerTrace

namespace Allocation

/-- A unique borrow is in force: its frame is live, and every younger live frame was derived from
    it. -/
structure Exclusive (a : Allocation) (t : Tag) : Prop where
  live : a.Live t
  younger : ∀ u, t.serial < u.serial → a.Live u → a.Descends u t

namespace Step

variable {a a' : Allocation} {ev : Event} {t w : Tag} {access : Access}

/-- A borrow through which an access is granted is in force. -/
theorem exclusive_of_access (h : a.Step (.access t access) a') (ha : a.Valid)
    (pushed : a.PushedAs t .unique) : a.Exclusive t := by
  obtain ⟨⟨f, hf, tag_eq, -, enabled, -⟩, unopposed⟩ := h.accessed ha
  have unique := (pushed.frame f hf tag_eq).resolve_right fun off => enabled off.2
  refine ⟨⟨f, hf, tag_eq, unique⟩, ?_⟩
  rintro u younger ⟨g, hg, rfl, unique⟩
  exact unopposed g hg younger unique

/-- A borrow in force after a step was in force before it. -/
theorem exclusive_before (h : a.Step ev a') (ha : a.Valid) (plain : a.interiorMutable = false)
    (ht : t ∈ a.tags) (after : a'.Exclusive t) : a.Exclusive t := by
  have live := h.live_before ha ht after.live
  refine ⟨live, ?_⟩
  intro u younger live_u
  rcases h.live_lost ha live_u with stays | ⟨w, access, rfl, descends⟩
  · exact (h.descends_iff ha (live_u.mem ha)).mp (after.younger u younger stays)
  · -- the younger borrow was lost to an access through its ancestor, which is live
    obtain ⟨live_w, stays⟩ := h.live_ancestor ha plain live_u descends
    rcases Int.lt_trichotomy w.serial t.serial with older | same | younger_w
    · exact absurd after.live (h.not_live_younger ha live older)
    · exact Tag.eq_of_serial same ▸ descends
    · have own := (h.descends_iff ha (live_w.mem ha)).mp (after.younger w younger_w stays)
      exact descends.trans own

/-- While a borrow stays in force, an access goes through its tag or a tag derived from it, or it
    reads through a younger read-only frame. -/
theorem access_under_exclusive (h : a.Step (.access w access) a') (ha : a.Valid)
    (plain : a.interiorMutable = false) (before : a.Exclusive t) (after : a'.Exclusive t) :
    w = t ∨ a.Descends w t ∨ access = .read ∧ t.serial < w.serial ∧
      ∃ f ∈ a.stack, f.tag = w ∧ f.permission = .sharedReadOnly := by
  rcases Int.lt_trichotomy w.serial t.serial with older | same | younger
  · exact absurd after.live (h.not_live_younger ha before.live older)
  · exact .inl (Tag.eq_of_serial same)
  · rcases h.accessor ha plain with ⟨live, -⟩ | ⟨read, readOnly⟩
    · exact .inr (.inl (before.younger w younger live))
    · exact .inr (.inr ⟨read, younger, readOnly⟩)

end Step

end Allocation

namespace Run

variable {r : Run}

/-- A borrow in force in a later state of a run was in force before. -/
theorem exclusive_earlier {i n : Nat} {id : AllocationId} {a b : Allocation} {t : Tag}
    (start : r.allocation? i id = some a) (plain : a.interiorMutable = false) (ht : t ∈ a.tags)
    (le : i ≤ n) (found : r.allocation? n id = some b) (last : b.Exclusive t) : a.Exclusive t := by
  refine carries_back (P := fun c => c.interiorMutable = false ∧ t ∈ c.tags)
    (Q := fun c => c.Exclusive t) start ⟨plain, ht⟩ le found last ?_
  rintro j ev c c' moved ⟨plain, ht⟩
  refine ⟨⟨moved.step.interiorMutable_eq.trans plain, moved.step.mem_tags ht⟩, ?_⟩
  exact moved.step.exclusive_before moved.valid plain ht

/-- A unique borrow that is still usable was exclusive all along. -/
theorem accesses_of_unique {i j k : Nat} {id : AllocationId} {f : Frame} {use access : Access}
    {p : Pointer} {a : Allocation} (pushed : r.Pushes i id f) (unique : f.permission = .unique)
    (used : r.Performs k use ⟨id, some f.tag⟩) (later : i < j) (earlier : j < k)
    (accessed : r.Performs j access p) (here : p.target = id)
    (found : r.allocation? j id = some a) (plain : a.interiorMutable = false) :
    ∃ t, p.tag = some t ∧
      (t = f.tag ∨ a.Descends t f.tag ∨ access = .read ∧ f.tag.serial < t.serial ∧
        ∃ g ∈ a.stack, g.tag = t ∧ g.permission = .sharedReadOnly) ∧
      (access = .write → t = f.tag ∨ a.Descends t f.tag) := by
  subst here
  obtain ⟨t, a₁, a', tagged, moved⟩ := accessed.moves
  have same := moved.before
  rw [found, Option.some.injEq] at same
  subst same
  obtain ⟨u, b, b', tag_eq, last⟩ := used.moves
  cases tag_eq
  -- in force at the last access, hence in force before and after the one between
  have final : b.Exclusive f.tag := by
    have held := pushed.pushedAs (by omega) last.before
    exact last.step.exclusive_of_access last.valid (unique ▸ held)
  have mem : f.tag ∈ a.tags := (pushed.pushedAs later found).mem
  have before := exclusive_earlier found plain mem (by omega) last.before final
  have after := exclusive_earlier moved.after (moved.step.interiorMutable_eq.trans plain)
    (moved.step.mem_tags mem) earlier last.before final
  have through := moved.step.access_under_exclusive moved.valid plain before after
  refine ⟨t, tagged, through, ?_⟩
  rintro rfl
  rcases through with own | derived | ⟨read, -⟩
  · exact .inl own
  · exact .inr derived
  · cases read

/-- A unique borrow, and another one that is derived from it and written through first. -/
def nested : Run := ofActions [.declare "x" 0 true false, .borrow "x" .unique "m",
  .reborrow "m" .unique "n", .write "n" 1, .write "m" 2]

theorem accesses_of_unique_nested : ∃ a t, nested.allocation? 3 0 = some a ∧
    some ⟨2⟩ = some t ∧ (t = ⟨1⟩ ∨ a.Descends t ⟨1⟩) := by
  have pushed : nested.Pushes 1 0 ⟨⟨1⟩, .unique, some ⟨0⟩⟩ := by decide
  have used : nested.Performs 4 .write ⟨0, some ⟨1⟩⟩ := by decide
  have accessed : nested.Performs 3 .write ⟨0, some ⟨2⟩⟩ := by decide
  obtain ⟨t, tagged, -, own⟩ :=
    accesses_of_unique pushed rfl used (by decide) (by decide) accessed rfl rfl rfl
  exact ⟨_, t, rfl, tagged, own rfl⟩

end Run

end PointerTrace
