import PointerTrace.Proofs.Authority
import PointerTrace.Proofs.ReachableStore

/- The stack discipline on plain data. The rules of access pop read-only frames and descendants and
   leave other disabled frames where they are; the plain discipline (`Access.leaves`) pops everything
   above the accessed frame on a write and disables every live unique frame above it on a read. In
   reachable states the two agree (`Run.stack_of_granted`), since no foreign disabled frame stands
   above a borrow in force (`Settled`): a read that disabled it while the borrow was in force found it
   live and hence derived from the borrow, and frames are never pushed disabled. -/
namespace PointerTrace

/-- What the stack discipline leaves of the frames above the accessed one: nothing after a write, all
    of them after a read, which disables those that are live and unique. -/
def Access.leaves : Access → List Frame → List Frame
  | .write, _ => []
  | .read, above => above.map fun f =>
    if f.permission = .unique then { f with permission := .disabled } else f

theorem Permission.derive_ne_disabled (p : Permission) (kind : BorrowKind) (interior : Bool) :
    p.derive kind interior ≠ .disabled := by
  cases kind <;> cases p <;> cases interior <;> simp [Permission.derive]

namespace Allocation

/-- An access through a tag whose frame is found at a depth follows the stack discipline: a write goes
    through a live unique frame, and the frames up to the depth are kept as they are. -/
structure Disciplined (a : Allocation) (t : Tag) (access : Access) (depth : Nat)
    (after : List Frame) : Prop where
  found : a.find t = some depth
  frame : ∃ f, a.stack[depth]? = some f ∧ f.tag = t ∧ (access = .write → f.permission = .unique)
  stack : after = a.stack.take (depth + 1) ++ access.leaves (a.stack.drop (depth + 1))

/-- Every disabled frame above a borrow in force was derived from it. -/
def Settled (a : Allocation) : Prop :=
  ∀ t, a.Exclusive t → ∀ g ∈ a.stack, t.serial < g.tag.serial → g.permission = .disabled →
    a.Descends g.tag t

/-- A stack of one frame has nothing above a borrow in force. -/
theorem settled_declared (s : Store) (name : String) (value : Int)
    (isMutable interiorMutable : Bool) :
    (s.declared name value isMutable interiorMutable).Settled := by
  rintro t ⟨⟨f, hf, rfl, -⟩, -⟩ g hg younger -
  rw [List.mem_singleton.mp hf, List.mem_singleton.mp hg] at younger
  omega

namespace Step

variable {a a' : Allocation} {ev : Event}

/-- The frame of a new tag is the youngest and not disabled. -/
theorem old_or_new (h : a.Step ev a') (ha : a.Valid) {g : Frame} (hg : g ∈ a'.stack) :
    g.tag ∈ a.tags ∨ ((∀ u ∈ a.tags, u.serial < g.tag.serial) ∧ g.permission ≠ .disabled) := by
  cases h with
  | idle => exact .inl (ha.tag_mem hg)
  | push kind fresh _ _ =>
    rcases List.mem_append.mp hg with hg | hg
    · exact .inl (ha.tag_mem hg)
    · rw [List.mem_singleton.mp hg]
      exact .inr ⟨fresh, Permission.derive_ne_disabled _ kind _⟩
  | access _ granted _ =>
    obtain ⟨f, hf, tag_eq, -⟩ := ha.origin granted hg
    exact .inl (tag_eq ▸ ha.tag_mem hf)

theorem settled (h : a.Step ev a') (ha : a.Valid) (plain : a.interiorMutable = false)
    (settled : a.Settled) : a'.Settled := by
  intro t after g hg younger disabled
  have old : g.tag ∈ a.tags :=
    (h.old_or_new ha hg).resolve_right fun new => new.2 disabled
  -- the borrow was there as well, since a new one has nothing above it
  have ht : t ∈ a.tags := by
    obtain ⟨e, he, rfl, -⟩ := after.live
    rcases h.old_or_new ha he with ht | ⟨youngest, -⟩
    · exact ht
    · have := youngest g.tag old
      omega
  have before := h.exclusive_before ha plain ht after
  rw [h.descends_iff ha old]
  obtain ⟨f, hf, tag_eq, -, rfl | ⟨unique, -⟩⟩ := h.origin ha hg old
  · exact settled t before g hf younger disabled
  · -- the step disabled it, so it was live under the borrow
    exact before.younger g.tag younger ⟨f, hf, tag_eq.symm, unique⟩

end Step

/-- Under the discipline, a write pops all frames above the accessed one, and a read disables the
    live unique ones. -/
theorem Valid.remains_above {a : Allocation} (ha : a.Valid) (plain : a.interiorMutable = false)
    (settled : a.Settled) {t : Tag} {access : Access} {below above : List Frame} {f : Frame}
    (granted : a.Grants t access below f above) :
    above.filterMap (a.remains t access) = access.leaves above := by
  obtain rfl := granted.tag_eq
  cases access with
  | read =>
    show _ = above.map _
    rw [← List.filterMap_eq_map]
    refine List.filterMap_congr fun g hg => ?_
    by_cases unique : g.permission = .unique
    · simp [remains, disablesOnRead, unique, granted.unopposed g hg unique]
    · simp [remains, disablesOnRead, unique]
  | write =>
    -- whatever its permission, a frame above a borrow in force is popped
    have inForce : a.Exclusive f.tag :=
      (ha.write_granted_iff plain).mp ⟨_, judge_eq_ok.mpr ⟨below, f, above, granted, rfl⟩⟩
    refine List.filterMap_eq_nil_iff.mpr fun g hg => ?_
    have inside : g ∈ a.stack := by simp [granted.cut, hg]
    have popped : a.popsOnWrite f.tag g = true := by
      cases grants : g.permission with
      | unique => simp [popsOnWrite, granted.unopposed g hg grants]
      | sharedReadWrite =>
        rw [ha.readWrite_interior g inside grants] at plain
        cases plain
      | sharedReadOnly => simp [popsOnWrite, grants]
      | disabled =>
        have younger := (ha.mem_above_iff granted.cut inside).mp hg
        have own := settled f.tag inForce g inside younger grants
        simp [popsOnWrite, (derives_iff ha.descending).mpr own]
    simp [remains, popped]

/-- A granted access to settled plain data follows the discipline. -/
theorem Valid.disciplined {a : Allocation} (ha : a.Valid) (plain : a.interiorMutable = false)
    (settled : a.Settled) {t : Tag} {access : Access} {grant : Grant}
    (granted : a.judge (some t) access = .ok grant) :
    a.Disciplined t access grant.depth (a.apply grant).stack := by
  obtain ⟨below, f, above, grants, rfl⟩ := judge_eq_ok.mp granted
  have depth : (a.grantAt t access below.length above).depth = below.length := by
    cases access <;> rfl
  have lower : a.stack = (below ++ [f]) ++ above := by rw [grants.cut, List.append_cons]
  have length : (below ++ [f]).length = below.length + 1 := by simp
  rw [depth]
  refine ⟨depthOf_eq_some.mpr ⟨below, f, above, grants.cut, rfl, grants.tag_eq, grants.topmost⟩,
    ⟨f, by simp [grants.cut], grants.tag_eq, ?_⟩, ?_⟩
  · rintro rfl
    have inForce := (ha.write_granted_iff plain).mp ⟨_, granted⟩
    obtain ⟨e, he, same, unique⟩ := inForce.live
    rwa [ha.eq_of_tag he (by simp [grants.cut]) (same.trans grants.tag_eq.symm)] at unique
  · rw [stack_apply ha.distinct grants, ha.remains_above plain settled grants, lower, ← length,
      List.take_left, List.drop_left, List.append_assoc]
    rfl

end Allocation

namespace Run

variable {r : Run}

theorem settled {n : Nat} {id : AllocationId} {a : Allocation} (h : r.allocation? n id = some a)
    (plain : a.interiorMutable = false) : a.Settled := by
  refine allocation_induction (P := fun c => c.interiorMutable = false → c.Settled)
    (fun s name value isMutable interiorMutable _ =>
      Allocation.settled_declared s name value isMutable interiorMutable) ?_ h plain
  intro j id ev c c' moved settled plain
  have before := moved.step.interiorMutable_eq.symm.trans plain
  exact moved.step.settled moved.valid before (settled before)

/-- In every state of a run, the accesses to plain data that are granted leave the stack that the
    discipline prescribes, and so do the reads, writes and calls that are carried out. -/
theorem stack_of_granted {n : Nat} {m : Machine} {id : AllocationId} {a : Allocation}
    (h : r.state? n = some m) (found : m.store.get? id = some a)
    (plain : a.interiorMutable = false) :
    (∀ t access grant, a.judge (some t) access = .ok grant →
      a.Disciplined t access grant.depth (a.apply grant).stack) ∧
    ∀ p access, r.Performs n access p → p.target = id → ∃ t depth after, p.tag = some t ∧
      r.stack? (n + 1) id = some after ∧ a.Disciplined t access depth after := by
  have here : r.allocation? n id = some a := allocation?_eq_some.mpr ⟨m, h, found⟩
  have disciplined : ∀ t access grant, a.judge (some t) access = .ok grant →
      a.Disciplined t access grant.depth (a.apply grant).stack := fun t access grant granted =>
    (allocation_valid here).disciplined plain (settled here plain) granted
  refine ⟨disciplined, ?_⟩
  rintro p access performs rfl
  obtain ⟨t, b, b', tagged, moved⟩ := performs.moves
  have same := moved.before
  rw [here, Option.some.injEq] at same
  subst same
  obtain ⟨m', next, placed⟩ := allocation?_eq_some.mp moved.after
  refine ⟨t, ?_⟩
  cases moved.step with
  | @access _ _ grant value granted _ =>
    refine ⟨grant.depth, (a.apply grant).stack, tagged, ?_, disciplined t access grant granted⟩
    simp [stack?, next, Machine.stackOf, placed]

/-- A borrow with a disabled and a read-only frame above it, both derived from it, and a write
    through it. -/
def layered : Run := ofActions [.declare "x" 0 true false, .borrow "x" .unique "m",
  .reborrow "m" .unique "n", .read "m" none, .reborrow "m" .shared "s", .write "m" 1]

theorem stack_of_granted_layered : ∃ a after, layered.allocation? 5 0 = some a ∧
    a.stack.map Frame.permission = [.unique, .unique, .disabled, .sharedReadOnly] ∧
    layered.stack? 6 0 = some after ∧ after = a.stack.take 2 := by
  have writes : layered.Performs 5 .write ⟨0, some ⟨1⟩⟩ := by decide
  obtain ⟨-, performed⟩ := stack_of_granted (r := layered) (n := 5) rfl
    (show Store.get? _ 0 = some _ from rfl) rfl
  obtain ⟨t, depth, after, tagged, next, found, -, rfl⟩ := performed _ _ writes rfl
  cases tagged
  cases found
  exact ⟨_, _, rfl, rfl, next, rfl⟩

end Run

end PointerTrace
