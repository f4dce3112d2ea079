import PointerTrace.Proofs.Run

/- Memory in every state of a run. The tags that were pushed, over all allocations, are distinct and
   are exactly those issued; each borrow stack is in order (`Allocation.Sound`), its lowest frame is
   the one that the declaration pushed, and no pointer name is bound to memory that does not exist.
   Everything but the origin of the lowest frame is read off the invariant that a run keeps; the
   origin is followed back along the run (`declared_at`). -/
namespace PointerTrace

/-! ## One allocation -/

/-- A borrow stack in order, frame by frame. -/
structure Allocation.Sound (a : Allocation) : Prop where
  /-- Tags increase from the bottom to the top. -/
  increasing : a.stack.Pairwise fun f g => f.tag.serial < g.tag.serial
  /-- The lineage has the parent of every frame. -/
  recorded : ∀ f ∈ a.stack, a.lineage.lookup f.tag = some f.parent
  /-- A recorded parent is an older tag of the same lineage. -/
  parent_older : ∀ t p, a.parentOf t = some p → p ∈ a.tags ∧ p.serial < t.serial
  /-- Every frame but the lowest has its parent's frame strictly below it. -/
  parent_below : ∀ (d : Nat) (f : Frame), a.stack[d + 1]? = some f →
    ∃ (e : Nat) (g : Frame), e ≤ d ∧ a.stack[e]? = some g ∧ f.parent = some g.tag
  /-- No live unique frame has a disabled parent. -/
  unique_parent : ∀ f ∈ a.stack, ∀ g ∈ a.stack, f.parent = some g.tag →
    f.permission = .unique → g.permission ≠ .disabled

/-- The frame at the bottom of a stack: it has no parent, grants what a declaration grants, and
    every chain of parents ends at its tag. -/
structure Allocation.Root (a : Allocation) (root : Frame) : Prop where
  bottom : a.stack[0]? = some root
  orphan : root.parent = none
  permission : root.permission = .ofRoot a.interiorMutable
  chains : ∀ t ∈ a.tags, Relation.ReflTransGen (fun t p => a.parentOf t = some p) t root.tag

namespace Allocation.Valid

variable {a : Allocation} (ha : a.Valid)
include ha

/-- Where one frame is older than another, it stands below it. -/
theorem index_lt {d e : Nat} {f g : Frame} (hf : a.stack[d]? = some f) (hg : a.stack[e]? = some g)
    (older : f.tag.serial < g.tag.serial) : d < e := by
  obtain ⟨hd, rfl⟩ := List.getElem?_eq_some_iff.mp hf
  obtain ⟨he, rfl⟩ := List.getElem?_eq_some_iff.mp hg
  have order := List.pairwise_iff_getElem.mp ha.increasing
  rcases Nat.lt_trichotomy d e with below | rfl | above
  · exact below
  · omega
  · have := order e d he hd above
    omega

/-- Every frame but the lowest has a parent. -/
theorem parent_of_not_lowest {d : Nat} {f : Frame} (h : a.stack[d + 1]? = some f) :
    ∃ p, f.parent = some p := by
  obtain ⟨root, above, bottom, -, -, chains⟩ := ha.rooted
  have hf := List.mem_of_getElem? h
  rcases chains f.tag (ha.tag_mem hf) with same | descends
  · have lowest : f = root := ha.eq_of_tag hf (by simp [bottom]) same
    have order := ha.increasing
    rw [bottom, List.pairwise_cons] at order
    rw [bottom, List.getElem?_cons_succ] at h
    have := order.1 f (List.mem_of_getElem? h)
    rw [lowest] at this
    omega
  · obtain ⟨p, link, -⟩ := descends_iff.mp descends
    exact ⟨p, by rw [← ha.parentOf_tag hf, link]⟩

theorem sound : a.Sound where
  increasing := ha.increasing
  recorded := ha.recorded
  parent_older := fun t p link => ⟨ha.closed t p link, ha.descending t p link⟩
  parent_below := by
    intro d f hd
    have hf := List.mem_of_getElem? hd
    obtain ⟨p, hp⟩ := ha.parent_of_not_lowest hd
    obtain ⟨g, hg, rfl⟩ := ha.parent_present f hf p hp
    obtain ⟨e, he⟩ := List.mem_iff_getElem?.mp hg
    exact ⟨e, g, Nat.lt_succ_iff.mp (ha.index_lt he hd (ha.parent_older hf hp)), he, hp⟩
  unique_parent := ha.unique_parent

theorem root : ∃ root, a.Root root := by
  obtain ⟨root, above, bottom, orphan, permission, chains⟩ := ha.rooted
  refine ⟨root, by rw [bottom]; rfl, orphan, permission, fun t ht => ?_⟩
  rcases chains t ht with rfl | descends
  · exact .refl
  · exact descends.to_reflTransGen

end Allocation.Valid

/-! ## Where allocations come from -/

/-- Only a declaration makes an allocation. -/
theorem Machine.Change.declares {m m' : Machine} {act : Action} (h : m.Change act m')
    {id : AllocationId} {a : Allocation} (absent : m.store.get? id = none)
    (found : m'.store.get? id = some a) :
    ∃ name value isMutable interiorMutable,
      act = .declare name value isMutable interiorMutable ∧
      a = m.store.declared name value isMutable interiorMutable := by
  have present : m'.store.get? id ≠ none := by
    rw [found]
    nofun
  cases h with
  | @declare name value isMutable interiorMutable id' store declared =>
    by_cases same : id = id'
    · rw [same, (Store.get?_declared declared).1, Option.some.injEq] at found
      exact ⟨name, value, isMutable, interiorMutable, rfl, found.symm⟩
    · exact absurd ((Store.get?_declare_of_ne declared same).trans absent) present
  | derive _ here => exact absurd (Store.get?_modify_eq_none here absent _) present
  | untagged => exact absurd absent present
  | toInteger => exact absurd absent present
  | read _ here => exact absurd (Store.get?_modify_eq_none here absent _) present
  | write _ here => exact absurd (Store.get?_modify_eq_none here absent _) present

/-- The stack of a new allocation is the frame that its declaration pushes. -/
theorem Machine.Change.created {m m' : Machine} {act : Action} (h : m.Change act m')
    {id : AllocationId} {a : Allocation} (absent : m.store.get? id = none)
    (found : m'.store.get? id = some a) :
    ∃ value isMutable f, act = .declare a.name value isMutable a.interiorMutable ∧
      a.stack = [f] := by
  obtain ⟨name, value, isMutable, interiorMutable, action, rfl⟩ := h.declares absent found
  exact ⟨value, isMutable, _, action, rfl⟩

namespace Run

variable {r : Run}

/-- What holds of declared allocations and is kept by every move holds of every allocation. -/
theorem allocation_induction {P : Allocation → Prop}
    (declared : ∀ (s : Store) (name : String) (value : Int) (isMutable interiorMutable : Bool),
      P (s.declared name value isMutable interiorMutable))
    (keeps : ∀ j id ev c c', r.Moves j id c ev c' → P c → P c') {n : Nat} {id : AllocationId}
    {a : Allocation} (h : r.allocation? n id = some a) : P a := by
  induction n generalizing a with
  | zero =>
    obtain ⟨m, found, placed⟩ := allocation?_eq_some.mp h
    rw [(state?_zero found).2] at placed
    simp [Machine.start, Store.empty, Store.get?] at placed
  | succ n ih =>
    obtain ⟨m', next, placed'⟩ := allocation?_eq_some.mp h
    obtain ⟨m, op, after, found, here, change, rfl⟩ := state?_succ next
    cases placed : m.store.get? id with
    | none =>
      obtain ⟨name, value, isMutable, interiorMutable, -, rfl⟩ := change.declares placed placed'
      exact declared m.store name value isMutable interiorMutable
    | some a₀ =>
      obtain ⟨ev, a₁, moved⟩ := moves (allocation?_eq_some.mpr ⟨m, found, placed⟩) (by rw [next]; rfl)
      have same := moved.after
      rw [h, Option.some.injEq] at same
      exact same ▸ keeps n id ev a₀ a₁ moved (ih moved.before)

/-- The frame at the bottom of a stack was pushed by the declaration of its allocation. -/
theorem declared_at {n : Nat} {id : AllocationId} {a : Allocation} {root : Frame}
    (h : r.allocation? n id = some a) (bottom : a.stack[0]? = some root) :
    ∃ i op value isMutable, i < n ∧ r.program.operations[i]? = some op ∧
      op.action = .declare a.name value isMutable a.interiorMutable ∧ r.Pushes i id root := by
  induction n generalizing a with
  | zero =>
    obtain ⟨m, found, placed⟩ := allocation?_eq_some.mp h
    rw [(state?_zero found).2] at placed
    simp [Machine.start, Store.empty, Store.get?] at placed
  | succ n ih =>
    obtain ⟨m', next, placed'⟩ := allocation?_eq_some.mp h
    obtain ⟨m, op, after, found, here, change, rfl⟩ := state?_succ next
    cases placed : m.store.get? id with
    | none =>
      -- the last operation is the declaration
      obtain ⟨value, isMutable, f, action, stack⟩ := change.created placed placed'
      rw [stack, List.getElem?_cons_zero, Option.some.injEq] at bottom
      have none_before : r.stack? n id = some [] := by simp [stack?, found, Machine.stackOf, placed]
      have one_after : r.stack? (n + 1) id = some [root] := by
        simp [stack?, next, Machine.stackOf, placed', stack, bottom]
      refine ⟨n, op, value, isMutable, Nat.lt_succ_self n, here, action, ?_⟩
      rw [Pushes, none_before, one_after]
      exact ⟨rfl, rfl⟩
    | some a₀ =>
      -- the allocation was there, on the same lowest frame
      obtain ⟨ev, a₁, moved⟩ := moves (allocation?_eq_some.mpr ⟨m, found, placed⟩) (by rw [next]; rfl)
      have same := moved.after
      rw [h, Option.some.injEq] at same
      subst same
      obtain ⟨root₀, above, stack, -⟩ := moved.valid.rooted
      obtain ⟨above', stack'⟩ := moved.step.bottom moved.valid stack
      rw [stack', List.getElem?_cons_zero, Option.some.injEq] at bottom
      subst bottom
      obtain ⟨i, op', value, isMutable, earlier, rest⟩ := ih moved.before (by rw [stack]; rfl)
      rw [moved.step.name_eq, moved.step.interiorMutable_eq]
      exact ⟨i, op', value, isMutable, Nat.lt_succ_of_lt earlier, rest⟩

/-- In every state of a run the pushed tags are distinct and exactly those issued, every borrow
    stack is in order on the frame that its declaration pushed, and every pointer name is bound to
    an allocation that recorded its tag. -/
theorem memory_sound {n : Nat} {m : Machine} (h : r.state? n = some m) :
    (m.store.allTags.Nodup ∧
      ∀ t, t ∈ m.store.allTags ↔ 0 ≤ t.serial ∧ t.serial < m.store.nextTag) ∧
    (∀ id a, m.store.get? id = some a → a.Sound ∧ ∃ root, a.Root root ∧
      ∃ i op value isMutable, i < n ∧ r.program.operations[i]? = some op ∧
        op.action = .declare a.name value isMutable a.interiorMutable ∧ r.Pushes i id root) ∧
    ∀ name p, (name, p) ∈ m.pointers →
      ∃ a, m.store.get? p.target = some a ∧ ∀ t, p.tag = some t → t ∈ a.tags := by
  have valid := (reached h).valid
  refine ⟨⟨valid.store.distinct, valid.store.issued⟩, ?_, ?_⟩
  · intro id a placed
    have ha := (valid.store.get? placed).1
    obtain ⟨root, isRoot⟩ := ha.root
    exact ⟨ha.sound, root, isRoot,
      declared_at (allocation?_eq_some.mpr ⟨m, h, placed⟩) isRoot.bottom⟩
  · intro name p bound
    exact valid.pointers (name, p) bound

/-- Two declarations, with a borrow between. -/
def twoVariables : Run := ofActions [.declare "x" 0 true false, .borrow "x" .unique "m",
  .declare "y" 0 false true]

theorem memory_sound_twoVariables : ∃ m a, twoVariables.state? 3 = some m ∧
    m.store.allTags.Nodup ∧ m.store.get? 0 = some a ∧ a.Sound := by
  obtain ⟨⟨distinct, -⟩, sound, -⟩ := memory_sound (r := twoVariables) (n := 3) rfl
  exact ⟨_, _, rfl, distinct, rfl, (sound 0 _ rfl).1⟩

end Run

end PointerTrace
