import PointerTrace.Proofs.ChainPermission
import PointerTrace.Proofs.FaultReport

/- Why a fault happens. The judge sees the stack as it is, and names a cause (`Allocation.Shown`: what
   the stack shows for each cause). What brought the stack there lies further back: every tag of an
   allocation was pushed by an operation (`Run.pushed_of_mem_tags`), a frame is only ever popped by a
   write through an older tag and only ever disabled by a read through an ancestor, so that a frame
   which is gone or disabled leads to such an access between its push and the fault
   (`Run.popped_between`, `Run.disabled_between`). A frame that is read-only was pushed as one, for a
   name whose chain has a shared link. -/
namespace PointerTrace

/-- Only a fault of a pointer without tag breaks the rule that accesses need one. -/
theorem FaultCause.untagged_iff (cause : FaultCause) :
    cause.rule = .untaggedAccess ↔ cause.tag = none := by
  cases cause <;> simp [rule, tag]

namespace Allocation

/-! ## What the judge sees -/

/-- What a borrow stack shows where a cause is named for an access. -/
def Shown (a : Allocation) (access : Access) : FaultCause → Prop
  | .untagged => True
  | .gone t | .parentGone t => ∀ f ∈ a.stack, f.tag ≠ t
  | .disabled t | .parentDisabled t => ∃ f ∈ a.stack, f.tag = t ∧ f.permission = .disabled
  | .conflict t holder => ∃ g ∈ a.stack, g.tag = holder ∧ g.permission = .unique ∧
      t.serial < g.tag.serial ∧ ¬ a.Descends g.tag t
  | .readOnly t => access = .write ∧ a.interiorMutable = false ∧
      ∃ f ∈ a.stack, f.tag = t ∧ f.permission = .sharedReadOnly

namespace Shown

variable {a : Allocation} {access : Access} {cause : FaultCause} {t : Tag}

theorem gone (h : a.Shown access cause) (rule : cause.rule = .tagNotFound)
    (tagged : cause.tag = some t) : ∀ f ∈ a.stack, f.tag ≠ t := by
  cases cause <;> cases rule <;> cases tagged <;> exact h

theorem disabled (h : a.Shown access cause) (rule : cause.rule = .disabled)
    (tagged : cause.tag = some t) : (∃ f ∈ a.stack, f.tag = t ∧ f.permission = .disabled) ∨
      ∃ g ∈ a.stack, g.permission = .unique ∧ t.serial < g.tag.serial ∧ ¬ a.Descends g.tag t := by
  cases cause with
  | disabled u | parentDisabled u =>
    cases tagged
    exact .inl h
  | conflict u holder =>
    cases tagged
    obtain ⟨g, hg, -, opposed⟩ := h
    exact .inr ⟨g, hg, opposed⟩
  | _ => cases rule

theorem readOnly (h : a.Shown access cause) (rule : cause.rule = .readOnlyViolation)
    (tagged : cause.tag = some t) : access = .write ∧ a.interiorMutable = false ∧
      ∃ f ∈ a.stack, f.tag = t ∧ f.permission = .sharedReadOnly := by
  cases cause with
  | readOnly u =>
    cases tagged
    exact h
  | _ => cases rule

end Shown

/-- A refused access finds on the stack what its cause says. -/
theorem Valid.shown_of_judge {a : Allocation} (ha : a.Valid) {t : Tag} {access : Access}
    {fault : AccessFault} (h : a.judge (some t) access = .error fault) :
    a.Shown access fault.cause := by
  unfold judge find at h
  cases found : depthOf a.stack t with
  | none =>
    simp only [found, Except.error.injEq] at h
    rw [← h]
    exact depthOf_eq_none.mp found
  | some d =>
    obtain ⟨below, f, above, cut, rfl, rfl, -⟩ := depthOf_eq_some.mp found
    have inside : f ∈ a.stack := by simp [cut]
    simp only [found] at h
    simp only [cut, List.drop_left] at h
    unfold judgeAt at h
    cases opposed : above.find? (a.isForeignUnique f.tag) with
    | some holder =>
      simp only [opposed, Except.error.injEq] at h
      have foreign := List.find?_some opposed
      have higher := List.mem_of_find?_eq_some opposed
      have present : holder ∈ a.stack := by simp [cut, higher]
      simp only [isForeignUnique, Bool.and_eq_true, decide_eq_true_eq, Bool.not_eq_true'] at foreign
      rw [← h]
      refine ⟨holder, present, rfl, foreign.1, (ha.mem_above_iff cut present).mp higher, ?_⟩
      intro own
      rw [(derives_iff ha.descending).mpr own] at foreign
      cases foreign.2
    | none =>
      simp only [opposed] at h
      split at h
      · next disabled =>
        cases h
        exact ⟨f, inside, rfl, disabled⟩
      · split at h
        · next readOnly =>
          cases h
          simp only [Bool.and_eq_true, decide_eq_true_eq, Bool.not_eq_true'] at readOnly
          exact ⟨readOnly.1.1, readOnly.2, f, inside, rfl, readOnly.1.2⟩
        · cases h

/-- A refused derivation finds on the stack what its cause says. -/
theorem shown_of_parentFault {a : Allocation} {tag : Option Tag} {access : Access}
    {fault : AccessFault} (h : a.parentFault? tag access = some fault) :
    a.Shown access fault.cause := by
  unfold parentFault? find at h
  cases tag with
  | none => cases h
  | some t =>
    cases found : depthOf a.stack t with
    | none =>
      simp only [found, Option.some.injEq] at h
      rw [← h]
      exact depthOf_eq_none.mp found
    | some d =>
      obtain ⟨below, f, above, cut, rfl, tag_eq, -⟩ := depthOf_eq_some.mp found
      have here : a.stack[below.length]? = some f := by simp [cut]
      simp only [found, here, Option.map_some, Option.some.injEq] at h
      split at h
      · next disabled =>
        cases h
        exact ⟨f, by simp [cut], tag_eq, disabled⟩
      · cases h

/-! ## What a step can take from a frame -/

namespace Step

variable {a a' : Allocation} {ev : Event} {t : Tag}

/-- A frame is popped only by a write through an older tag, which is an ancestor or finds the frame
    read-only. -/
theorem popped (h : a.Step ev a') (ha : a.Valid) {f : Frame} (hf : f ∈ a.stack)
    (gone : ∀ g ∈ a'.stack, g.tag ≠ f.tag) : ∃ w, ev = .access w .write ∧
      w.serial < f.tag.serial ∧ (a.Descends f.tag w ∨ f.permission = .sharedReadOnly) := by
  rcases h.survives ha hf with stays | ⟨w, access, rfl, reached⟩
  · exact absurd rfl (gone f stays)
  · have older : w.serial < f.tag.serial :=
      reached.elim (fun own => own.older ha.descending) fun readOnly => readOnly.2.2
    cases access with
    | write => exact ⟨w, rfl, older, reached.imp_right fun readOnly => readOnly.2.1⟩
    | read =>
      -- a read leaves every frame on the stack
      cases h with
      | access value granted _ =>
        have left : a.remains w .read f = some
            (if a.disablesOnRead w f then { f with permission := .disabled } else f) := rfl
        have stays := (ha.mem_apply_iff granted).mpr (.inr ⟨f, hf, older, left⟩)
        exact absurd (remains_eq_some left).1 (gone _ stays)

/-- A frame is disabled only by a read through an ancestor. -/
theorem disabled (h : a.Step ev a') (ha : a.Valid) (old : t ∈ a.tags)
    (enabled : ∀ f ∈ a.stack, f.tag = t → f.permission ≠ .disabled) {g : Frame}
    (hg : g ∈ a'.stack) (tag_eq : g.tag = t) (off : g.permission = .disabled) :
    ∃ w, ev = .access w .read ∧ a.Descends t w := by
  cases h with
  | idle => exact absurd off (enabled g hg tag_eq)
  | push _ fresh _ _ =>
    rcases List.mem_append.mp hg with hg | hg
    · exact absurd off (enabled g hg tag_eq)
    · rw [List.mem_singleton.mp hg] at tag_eq
      subst tag_eq
      exact absurd old (not_mem_of_fresh fresh)
  | access value granted _ =>
    obtain ⟨f, hf, same_tag, -, rfl | ⟨rfl, own, -, -⟩⟩ := ha.origin granted hg
    · exact absurd off (enabled g hf tag_eq)
    · exact ⟨_, rfl, tag_eq ▸ same_tag ▸ own⟩

end Step

end Allocation

namespace Machine

variable {m : Machine} {act : Action} {fault : AccessFault}

/-- A fault is one of the operand's pointer, and its allocation shows the cause. -/
theorem Faults.shown (hm : m.Valid) (h : m.Faults act fault) : ∃ p a access,
    m.store.Knows p ∧ m.store.get? p.target = some a ∧ fault.tag = p.tag ∧
      fault.allocation = a.name ∧ (p.tag = none ∨ a.Shown access fault.cause) ∧
      (access = .write → m.Accesses act .write p) := by
  rcases h.cases hm with
    ⟨source, kind, result, p, a, rfl, resolved, found, refused⟩ |
      ⟨access, p, a, accesses, found, refused⟩
  · refine ⟨p, a, .read, hm.resolve resolved, found, ?_⟩
    have shown := Allocation.shown_of_parentFault refused
    obtain ⟨t, tagged, rfl | rfl⟩ := Allocation.parentFault_cases refused
    · exact ⟨tagged.symm, rfl, .inr shown, nofun⟩
    · exact ⟨tagged.symm, rfl, .inr shown, nofun⟩
  · obtain ⟨source, -, resolved⟩ := id accesses
    refine ⟨p, a, access, hm.resolve resolved, found, ?_⟩
    obtain ⟨cause, refusal, same⟩ := Allocation.judge_refusal refused
    have shown : p.tag = none ∨ a.Shown access fault.cause := by
      cases tagged : p.tag with
      | none => exact .inl rfl
      | some t =>
        rw [tagged] at refused
        exact .inr ((hm.store.get? found).1.shown_of_judge refused)
    refine ⟨?_, ?_, shown, fun write => write ▸ accesses⟩
    · rw [same]
      exact refusal.tag_eq
    · rw [same]
      rfl

end Machine

namespace Run

variable {r : Run}

/-! ## What happened before -/

theorem stack?_of_allocation? {n : Nat} {id : AllocationId} {a : Allocation}
    (h : r.allocation? n id = some a) : r.stack? n id = some a.stack := by
  obtain ⟨m, found, placed⟩ := allocation?_eq_some.mp h
  rw [stack?, found, Option.map_some, Machine.stackOf_of_get? placed]

/-- Every tag that an allocation recorded was pushed by an operation. -/
theorem pushed_of_mem_tags {n : Nat} {id : AllocationId} {a : Allocation} {t : Tag}
    (h : r.allocation? n id = some a) (ht : t ∈ a.tags) :
    ∃ i f, i < n ∧ r.Pushes i id f ∧ f.tag = t := by
  induction n generalizing a with
  | zero =>
    obtain ⟨m, found, placed⟩ := allocation?_eq_some.mp h
    rw [(state?_zero found).2] at placed
    simp [Machine.start, Store.empty, Store.get?] at placed
  | succ n ih =>
    obtain ⟨m', next, placed'⟩ := allocation?_eq_some.mp h
    obtain ⟨m, op, after, found, here, change, rfl⟩ := state?_succ next
    have grown := stack?_of_allocation? h
    cases placed : m.store.get? id with
    | none =>
      -- the last operation is the declaration, and the tag is its own
      obtain ⟨name, value, isMutable, interiorMutable, -, rfl⟩ := change.declares placed placed'
      have empty : r.stack? n id = some [] := by simp [stack?, found, Machine.stackOf, placed]
      have own : ⟨m.store.nextTag⟩ = t := by
        simpa [Store.declared, Allocation.push, Allocation.tags, recordParent, eq_comm] using ht
      exact ⟨n, _, Nat.lt_succ_self n, ⟨by rw [empty]; rfl, by rw [empty]; exact grown⟩, own⟩
    | some a₀ =>
      have there : r.allocation? n id = some a₀ := allocation?_eq_some.mpr ⟨m, found, placed⟩
      obtain ⟨ev, a₁, moved⟩ := moves there (by rw [next]; rfl)
      have same := moved.after
      rw [h, Option.some.injEq] at same
      subst same
      have earlier : t ∈ a₀.tags → ∃ i f, i < n + 1 ∧ r.Pushes i id f ∧ f.tag = t := by
        intro old
        obtain ⟨i, f, before, pushes, tag_eq⟩ := ih there old
        exact ⟨i, f, Nat.lt_succ_of_lt before, pushes, tag_eq⟩
      have stack := stack?_of_allocation? there
      cases moved.step with
      | idle => exact earlier ht
      | access => exact earlier ht
      | push kind fresh present enabled =>
        rw [Allocation.tags_push (Allocation.not_mem_of_fresh fresh), List.mem_append,
          List.mem_singleton] at ht
        rcases ht with old | rfl
        · exact earlier old
        · exact ⟨n, _, Nat.lt_succ_self n, ⟨by rw [stack]; rfl, by rw [stack]; exact grown⟩, rfl⟩

/-- A property of an allocation that is lost is lost in one move. -/
theorem lost_between {id : AllocationId} {P : Allocation → Prop} {i n : Nat} {a b : Allocation}
    (start : r.allocation? i id = some a) (holds : P a) (le : i ≤ n)
    (found : r.allocation? n id = some b) (lost : ¬ P b) :
    ∃ j ev c c', i ≤ j ∧ j < n ∧ r.Moves j id c ev c' ∧ P c ∧ ¬ P c' := by
  by_contra never
  refine lost (carries start holds le found ?_)
  intro j ev c c' from_start before_end moved held
  by_contra broken
  exact never ⟨j, ev, c, c', from_start, before_end, moved, held, broken⟩

/-- A frame that a run pushes is not disabled. -/
theorem Pushes.enabled {i : Nat} {id : AllocationId} {f : Frame} (h : r.Pushes i id f) :
    f.permission ≠ .disabled := by
  obtain ⟨op, name, kinds, a, -, -, -, -, -, permission⟩ := h.derivation
  rw [permission, Permission.ofChain]
  split <;> split <;> decide

/-- A frame that was pushed and is gone was popped by a write through an older tag, which is an
    ancestor unless the frame was pushed read-only. -/
theorem popped_between {i n : Nat} {id : AllocationId} {f : Frame} {a : Allocation}
    (pushes : r.Pushes i id f) (later : i < n) (found : r.allocation? n id = some a)
    (gone : ∀ g ∈ a.stack, g.tag ≠ f.tag) :
    ∃ j w c c', i < j ∧ j < n ∧ r.Performs j .write ⟨id, some w⟩ ∧ w.serial < f.tag.serial ∧
      r.allocation? j id = some c ∧ r.allocation? (j + 1) id = some c' ∧
      (∃ g ∈ c.stack, g.tag = f.tag) ∧ (∀ g ∈ c'.stack, g.tag ≠ f.tag) ∧
      (a.Descends f.tag w ∨ f.permission = .sharedReadOnly) := by
  obtain ⟨a₀, start, top⟩ := pushes.found
  obtain ⟨j, ev, c, c', from_push, before, moved, ⟨g, hg, tag_eq⟩, absent⟩ :=
    lost_between (P := fun c => ∃ g ∈ c.stack, g.tag = f.tag) start ⟨f, top, rfl⟩ later found
      fun ⟨g, hg, tag_eq⟩ => gone g hg tag_eq
  have absent : ∀ e ∈ c'.stack, e.tag ≠ f.tag := fun e he same => absent ⟨e, he, same⟩
  obtain ⟨w, rfl, older, reached⟩ := moved.step.popped moved.valid hg (tag_eq ▸ absent)
  have performs := (moved.shows .write w).mp rfl
  refine ⟨j, w, c, c', from_push, before, performs, tag_eq ▸ older, moved.before, moved.after,
    ⟨g, hg, tag_eq⟩, absent, ?_⟩
  rcases reached with own | readOnly
  · have recorded := moved.valid.tag_mem hg
    rw [tag_eq] at own recorded
    exact .inl ((descends_later moved.before recorded (Nat.le_of_lt before) found).mpr own)
  · -- what is read-only was pushed read-only
    rcases (pushes.pushedAs from_push moved.before).frame g hg tag_eq with same | ⟨-, off⟩
    · exact .inr (same ▸ readOnly)
    · rw [readOnly] at off
      cases off

/-- A frame that was pushed and is disabled was disabled by a read through an ancestor. -/
theorem disabled_between {i n : Nat} {id : AllocationId} {f g : Frame} {a : Allocation}
    (pushes : r.Pushes i id f) (later : i < n) (found : r.allocation? n id = some a)
    (hg : g ∈ a.stack) (tag_eq : g.tag = f.tag) (off : g.permission = .disabled) :
    ∃ j w, i < j ∧ j < n ∧ r.Performs j .read ⟨id, some w⟩ ∧ a.Descends f.tag w := by
  obtain ⟨a₀, start, top⟩ := pushes.found
  have valid := allocation_valid start
  have enabled : ∀ e ∈ a₀.stack, e.tag = f.tag → e.permission ≠ .disabled := fun e he same =>
    valid.eq_of_tag he top same ▸ pushes.enabled
  obtain ⟨j, ev, c, c', from_push, before, moved, held, broken⟩ :=
    lost_between (P := fun c => ∀ e ∈ c.stack, e.tag = f.tag → e.permission ≠ .disabled) start
      enabled later found fun all => all g hg tag_eq off
  push Not at broken
  obtain ⟨e, he, same, off'⟩ := broken
  have recorded := (pushes.pushedAs from_push moved.before).mem
  obtain ⟨w, rfl, own⟩ := moved.step.disabled moved.valid recorded held he same off'
  exact ⟨j, w, from_push, before, (moved.shows .read w).mp rfl,
    (descends_later moved.before recorded (Nat.le_of_lt before) found).mpr own⟩

/-! ## Causes of violations -/

/-- The tag was pushed on the allocation, and before a state a write through an older tag popped its
    frame. That tag is an ancestor, unless the frame was pushed read-only. -/
def PoppedBefore (r : Run) (n : Nat) (a : Allocation) (t : Tag) : Prop :=
  ∃ i f, r.Pushes i a.id f ∧ f.tag = t ∧ ∃ j w c c', i < j ∧ j < n ∧
    r.Performs j .write ⟨a.id, some w⟩ ∧ w.serial < t.serial ∧
    r.allocation? j a.id = some c ∧ r.allocation? (j + 1) a.id = some c' ∧
    (∃ g ∈ c.stack, g.tag = t) ∧ (∀ g ∈ c'.stack, g.tag ≠ t) ∧
    (a.Descends t w ∨ f.permission = .sharedReadOnly)

/-- The tag's frame is disabled, and between its push and the state a read went through an
    ancestor. -/
def DisabledBefore (r : Run) (n : Nat) (a : Allocation) (t : Tag) : Prop :=
  (∃ g ∈ a.stack, g.tag = t ∧ g.permission = .disabled) ∧
    ∃ i f j w, r.Pushes i a.id f ∧ f.tag = t ∧ i < j ∧ j < n ∧
      r.Performs j .read ⟨a.id, some w⟩ ∧ a.Descends t w

/-- The tag was pushed on the allocation for a name whose chain has a shared link. -/
def SharedLink (r : Run) (a : Allocation) (t : Tag) : Prop :=
  ∃ i f op name, r.Pushes i a.id f ∧ f.tag = t ∧ r.program.operations[i]? = some op ∧
    op.action.result? = some name ∧ some .shared ∈ (r.program.derivation name).links

/-- A read-only frame of plain data was pushed for a name whose chain has a shared link. -/
theorem sharedLink_of_readOnly {i n : Nat} {f g : Frame} {a : Allocation}
    (pushes : r.Pushes i a.id f) (later : i < n) (found : r.allocation? n a.id = some a)
    (plain : a.interiorMutable = false) (hg : g ∈ a.stack) (tag_eq : g.tag = f.tag)
    (readOnly : g.permission = .sharedReadOnly) : r.SharedLink a f.tag := by
  obtain ⟨op, name, kinds, b, here, result, links, placed, -, permission⟩ := pushes.derivation
  refine ⟨i, f, op, name, pushes, rfl, here, result, ?_⟩
  have pushed_as : f.permission = .sharedReadOnly := by
    rcases (pushes.pushedAs later found).frame g hg tag_eq with same | ⟨-, off⟩
    · exact same ▸ readOnly
    · rw [readOnly] at off
      cases off
  rw [pushed_as, ← interiorMutable_later placed later found, plain] at permission
  have shared : BorrowKind.shared ∈ kinds := by
    by_contra none
    rw [Permission.ofChain, if_neg Bool.false_ne_true, if_neg none] at permission
    cases permission
  rw [links]
  exact List.mem_map_of_mem shared

end Run

namespace Program

variable {p : Program} {o : CheckOptions} {v : Violation}

/-- Every violation has the cause that its rule names. Where the tag is not found, it was pushed and
    a write through an older tag popped it. Where it is disabled, a read through an ancestor did
    that, or a live unique borrow that is younger and foreign stands on the stack. Where it grants
    reading only, the operation writes to plain data and the tag's chain has a shared link. -/
theorem cause_of_violation (h : p.check o = .ok (.violation v)) : ∃ m a,
    (p.run o).state? v.index = some m ∧ m.store.named? v.allocation = some a ∧
    (v.rule = .untaggedAccess ↔ v.fault.access.tag = none) ∧
    ∀ t, v.fault.access.tag = some t →
      (v.rule = .tagNotFound → (p.run o).PoppedBefore v.index a t) ∧
      (v.rule = .disabled → (p.run o).DisabledBefore v.index a t ∨
        ∃ g ∈ a.stack, g.permission = .unique ∧ t.serial < g.tag.serial ∧ ¬ a.Descends g.tag t) ∧
      (v.rule = .readOnlyViolation →
        ((∃ source value, v.fault.operation.action = .write source value) ∨
          ∃ source function, v.fault.operation.action = .call source function) ∧
        a.interiorMutable = false ∧ (p.run o).SharedLink a t) := by
  obtain ⟨m, found, here, faults⟩ := faults_of_check h
  have valid := (Run.reached found).valid
  obtain ⟨q, a, access, known, placed, tag_eq, name_eq, shown, writes⟩ := faults.shown valid
  refine ⟨m, a, found, ?_, ?_, ?_⟩
  · rw [Violation.allocation, name_eq]
    exact Store.named?_of_get? (Run.names_distinct found) placed
  · exact v.fault.access.cause.untagged_iff
  · intro t tagged
    rw [tag_eq] at tagged
    have shown := shown.resolve_left (by rw [tagged]; nofun)
    have noted : v.fault.access.cause.tag = some t := tag_eq.trans tagged
    -- the tag was pushed on the allocation where its pointer stands
    have place := (valid.store.get? placed).2
    have there : (p.run o).allocation? v.index a.id = some a :=
      Run.allocation?_eq_some.mpr ⟨m, found, place ▸ placed⟩
    obtain ⟨i, f, before, pushes, rfl⟩ :=
      Run.pushed_of_mem_tags there (known.recorded placed t tagged)
    refine ⟨?_, ?_, ?_⟩
    · intro rule
      exact ⟨i, f, pushes, rfl, Run.popped_between pushes before there (shown.gone rule noted)⟩
    · intro rule
      rcases shown.disabled rule noted with ⟨g, hg, same, off⟩ | opposed
      · obtain ⟨j, w, read⟩ := Run.disabled_between pushes before there hg same off
        exact .inl ⟨⟨g, hg, same, off⟩, i, f, j, w, pushes, rfl, read⟩
      · exact .inr opposed
    · intro rule
      obtain ⟨rfl, plain, g, hg, same, readOnly⟩ := shown.readOnly rule noted
      refine ⟨?_, plain, Run.sharedLink_of_readOnly pushes before there plain hg same readOnly⟩
      obtain ⟨source, through, -⟩ := writes rfl
      cases action : v.fault.operation.action with
      | write source value => exact .inl ⟨source, value, rfl⟩
      | call source function => exact .inr ⟨source, function, rfl⟩
      | _ =>
        rw [action] at through
        cases through

/-- A shared borrow is taken beside a unique one, which is then written through. -/
def overtaken : Program := ⟨[⟨.declare "x" 0 true false, none⟩, ⟨.borrow "x" .unique "m", none⟩,
  ⟨.borrow "x" .shared "r", none⟩, ⟨.write "m" 1, none⟩, ⟨.read "r" none, none⟩], "trace", none, 0⟩

theorem cause_of_violation_overtaken : ∃ v a, overtaken.check {} = .ok (.violation v) ∧
    v.rule = .tagNotFound ∧ ((overtaken.run {}).PoppedBefore v.index a ⟨2⟩) ∧
    (overtaken.run {}).Performs 3 .write ⟨0, some ⟨1⟩⟩ := by
  have checked : ∃ v, overtaken.check {} = .ok (.violation v) ∧ v.rule = .tagNotFound ∧
      v.fault.access.tag = some ⟨2⟩ := ⟨_, rfl, rfl, rfl⟩
  obtain ⟨v, violated, rule, tagged⟩ := checked
  obtain ⟨m, a, -, -, -, causes⟩ := cause_of_violation violated
  exact ⟨v, a, violated, rule, (causes ⟨2⟩ tagged).1 rule, by decide⟩

end Program

end PointerTrace
