import PointerTrace.Proofs.Exclusivity

/- Authority over plain data. On a valid stack the judge grants a write through a tag exactly when the
   borrow of the tag is in force (`Valid.write_granted_iff`), and where the tag was pushed as unique
   a read as well (`Valid.read_granted_iff`). A borrow in force after an operation was in force before
   it, so authority once lost is never regained, whether the tag's own frame was lost or a borrow
   that conflicts with it stood above: whatever takes the conflict away takes the frame's authority
   too (`Run.refused_later`). -/
namespace PointerTrace

namespace Allocation

/-- An access through a pointer's tag would be at fault. -/
def Refuses (a : Allocation) (tag : Option Tag) (access : Access) : Prop :=
  ∃ fault, a.judge tag access = .error fault

theorem not_refuses_iff {a : Allocation} {tag : Option Tag} {access : Access} :
    ¬ a.Refuses tag access ↔ ∃ grant, a.judge tag access = .ok grant := by
  unfold Refuses
  cases a.judge tag access <;> simp

theorem refuses_untagged (a : Allocation) (access : Access) : a.Refuses none access :=
  ⟨_, rfl⟩

namespace Valid

variable {a : Allocation} (ha : a.Valid) {t : Tag} {access : Access}
include ha

/-- What the judge looks at: the frame of the tag must be enabled, and fit for writing if the access
    is a write, and live unique frames above it must descend from the tag. -/
theorem granted_iff : (∃ grant, a.judge (some t) access = .ok grant) ↔
    (∃ f ∈ a.stack, f.tag = t ∧ f.permission ≠ .disabled ∧
      (access = .write → f.permission = .sharedReadOnly → a.interiorMutable = true)) ∧
    ∀ g ∈ a.stack, t.serial < g.tag.serial → g.permission = .unique → a.Descends g.tag t := by
  constructor
  · rintro ⟨grant, granted⟩
    exact ha.of_granted granted
  · rintro ⟨⟨f, hf, rfl, enabled, writable⟩, unopposed⟩
    obtain ⟨below, above, cut⟩ := List.append_of_mem hf
    have younger : ∀ g ∈ above, g ∈ a.stack ∧ f.tag.serial < g.tag.serial := fun g hg => by
      have inside : g ∈ a.stack := by simp [cut, hg]
      exact ⟨inside, (ha.mem_above_iff cut inside).mp hg⟩
    refine ⟨_, judge_eq_ok.mpr ⟨below, f, above, ⟨cut, rfl, ?_, ?_, enabled, writable⟩, rfl⟩⟩
    · intro g hg same
      have := (younger g hg).2
      rw [same] at this
      omega
    · intro g hg unique
      obtain ⟨inside, order⟩ := younger g hg
      exact (derives_iff ha.descending).mpr (unopposed g inside order unique)

/-- A borrow in force is granted every access. -/
theorem granted_of_exclusive (h : a.Exclusive t) (access : Access) :
    ∃ grant, a.judge (some t) access = .ok grant := by
  obtain ⟨f, hf, tag_eq, unique⟩ := h.live
  refine ha.granted_iff.mpr ⟨⟨f, hf, tag_eq, by simp [unique], by simp [unique]⟩, ?_⟩
  intro g hg younger unique
  exact h.younger g.tag younger ⟨g, hg, rfl, unique⟩

/-- An access through a unique frame is granted to a borrow in force. -/
theorem exclusive_of_granted {f : Frame} (hf : f ∈ a.stack) (unique : f.permission = .unique)
    (granted : ∃ grant, a.judge (some f.tag) access = .ok grant) : a.Exclusive f.tag := by
  obtain ⟨-, unopposed⟩ := ha.granted_iff.mp granted
  refine ⟨⟨f, hf, rfl, unique⟩, ?_⟩
  rintro u younger ⟨g, hg, rfl, unique⟩
  exact unopposed g hg younger unique

/-- Plain data are written through the borrows in force. -/
theorem write_granted_iff (plain : a.interiorMutable = false) :
    (∃ grant, a.judge (some t) .write = .ok grant) ↔ a.Exclusive t := by
  refine ⟨fun granted => ?_, fun h => ha.granted_of_exclusive h .write⟩
  obtain ⟨⟨f, hf, rfl, enabled, writable⟩, -⟩ := ha.granted_iff.mp granted
  refine ha.exclusive_of_granted hf ?_ granted
  cases grants : f.permission with
  | unique => rfl
  | sharedReadWrite =>
    rw [ha.readWrite_interior f hf grants] at plain
    cases plain
  | sharedReadOnly =>
    rw [writable rfl grants] at plain
    cases plain
  | disabled => exact absurd grants enabled

/-- What was pushed as unique is read through while its borrow is in force. -/
theorem read_granted_iff (pushed : a.PushedAs t .unique) :
    (∃ grant, a.judge (some t) .read = .ok grant) ↔ a.Exclusive t := by
  refine ⟨fun granted => ?_, fun h => ha.granted_of_exclusive h .read⟩
  obtain ⟨⟨f, hf, rfl, enabled, -⟩, -⟩ := ha.granted_iff.mp granted
  have unique := (pushed.frame f hf rfl).resolve_right fun off => enabled off.2
  exact ha.exclusive_of_granted hf unique granted

/-- A write to plain data is refused where the borrow is not in force. -/
theorem refuses_write_iff (plain : a.interiorMutable = false) :
    a.Refuses (some t) .write ↔ ¬ a.Exclusive t := by
  rw [← ha.write_granted_iff plain, ← not_refuses_iff, not_not]

/-- So is a read through what was pushed as unique. -/
theorem refuses_read_iff (pushed : a.PushedAs t .unique) :
    a.Refuses (some t) .read ↔ ¬ a.Exclusive t := by
  rw [← ha.read_granted_iff pushed, ← not_refuses_iff, not_not]

end Valid

end Allocation

namespace Machine

/-- The pointers that a state has: those that names are bound to, and for each allocation the one
    that its own name stands for. -/
def Available (m : Machine) (p : Pointer) : Prop :=
  (∃ name, (name, p) ∈ m.pointers) ∨ ∃ a, m.store.get? p.target = some a ∧ p = a.rootPointer

theorem Valid.knows {m : Machine} (hm : m.Valid) {p : Pointer} (h : m.Available p) :
    m.store.Knows p := by
  rcases h with ⟨name, bound⟩ | ⟨a, found, rfl⟩
  · exact hm.pointers (name, p) bound
  · exact .root hm.store found

end Machine

namespace Run

variable {r : Run}

/-- A write to plain data that is refused through a pointer is refused in every later state of the
    run. Where the pointer's frame was pushed as unique, a refused read means that every access
    through it is refused from then on. -/
theorem refused_later {n k : Nat} {m m' : Machine} {p : Pointer} {a : Allocation}
    (h : r.state? n = some m) (later : n ≤ k) (h' : r.state? k = some m')
    (available : m.Available p) (found : m.store.get? p.target = some a)
    (plain : a.interiorMutable = false) :
    ∃ b, m'.store.get? p.target = some b ∧
      (a.Refuses p.tag .write → b.Refuses p.tag .write) ∧
      ∀ i f, i < n → r.Pushes i p.target f → f.permission = .unique → p.tag = some f.tag →
        a.Refuses p.tag .read → ∀ access, b.Refuses p.tag access := by
  have start : r.allocation? n p.target = some a := allocation?_eq_some.mpr ⟨m, h, found⟩
  obtain ⟨b, last⟩ := allocation_later start later (by rw [h']; rfl)
  obtain ⟨m₂, same, found'⟩ := allocation?_eq_some.mp last
  rw [h', Option.some.injEq] at same
  subst same
  refine ⟨b, found', ?_⟩
  have ha := allocation_valid start
  have hb := allocation_valid last
  have plain_b := (interiorMutable_later start later last).trans plain
  obtain ⟨target, tag⟩ := p
  cases tag with
  | none => exact ⟨fun _ => b.refuses_untagged .write, fun _ _ _ _ _ => nofun⟩
  | some t =>
    obtain ⟨c, here, recorded⟩ := (reached h).valid.knows available
    rw [found, Option.some.injEq] at here
    subst here
    -- a borrow that is in force later was in force before
    have lost : ¬ a.Exclusive t → ¬ b.Exclusive t :=
      mt (exclusive_earlier start plain (recorded t rfl) later last)
    refine ⟨fun refused => ?_, ?_⟩
    · exact (hb.refuses_write_iff plain_b).mpr (lost ((ha.refuses_write_iff plain).mp refused))
    · rintro i f before pushed unique tagged refused access
      cases tagged
      have held := unique ▸ pushed.pushedAs before start
      have held_b := unique ▸ pushed.pushedAs (by omega) last
      have gone := lost ((ha.refuses_read_iff held).mp refused)
      cases access with
      | read => exact (hb.refuses_read_iff held_b).mpr gone
      | write => exact (hb.refuses_write_iff plain_b).mpr gone

/-- Two unique borrows side by side, and a read of the variable, which disables both. -/
def contested : Run := ofActions [.declare "x" 0 true false, .borrow "x" .unique "a",
  .borrow "x" .unique "b", .read "x" none]

theorem refused_later_contested : ∃ b, contested.allocation? 4 0 = some b ∧
    ∀ access, b.Refuses (some ⟨1⟩) access := by
  have pushed : contested.Pushes 1 0 ⟨⟨1⟩, .unique, some ⟨0⟩⟩ := by decide
  obtain ⟨b, last, -, refused⟩ := refused_later (r := contested) (n := 3) (k := 4)
    (p := ⟨0, some ⟨1⟩⟩) rfl (by decide) rfl (.inl ⟨"a", by decide⟩) rfl rfl
  exact ⟨b, last, refused 1 _ (by decide) pushed rfl rfl ⟨_, rfl⟩⟩

end Run

end PointerTrace
