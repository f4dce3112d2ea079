import PointerTrace.Proofs.Execution

/- Why operations are refused. `Refusal` lists the causes for which the judge can refuse an access
   through a pointer's tag: only a pointer without tag is refused for that, and only a write to plain
   data for a read-only frame. A derivation is refused for its parent's own frame, which is gone or
   disabled (`parentFault_cases`). What an operation of the machine can be at fault for follows. -/
namespace PointerTrace

namespace Allocation

/-- The causes for which an access through a pointer's tag can be refused. -/
inductive Refusal (a : Allocation) : Option Tag → Access → FaultCause → Prop where
  | untagged (access : Access) : a.Refusal none access .untagged
  | gone (t : Tag) (access : Access) : a.Refusal (some t) access (.gone t)
  | conflict (t holder : Tag) (access : Access) : a.Refusal (some t) access (.conflict t holder)
  | disabled (t : Tag) (access : Access) : a.Refusal (some t) access (.disabled t)
  | readOnly (t : Tag) (plain : a.interiorMutable = false) :
      a.Refusal (some t) .write (.readOnly t)

theorem Refusal.untagged_iff {a : Allocation} {tag : Option Tag} {access : Access}
    {cause : FaultCause} (h : a.Refusal tag access cause) :
    cause.rule = .untaggedAccess ↔ tag = none := by
  cases h <;> simp [FaultCause.rule]

/-- A refused access is reported with the tag of its pointer. -/
theorem Refusal.tag_eq {a : Allocation} {tag : Option Tag} {access : Access} {cause : FaultCause}
    (h : a.Refusal tag access cause) : cause.tag = tag := by
  cases h <;> rfl

theorem Refusal.readOnly_rule {a : Allocation} {tag : Option Tag} {access : Access}
    {cause : FaultCause} (h : a.Refusal tag access cause)
    (readOnly : cause.rule = .readOnlyViolation) :
    access = .write ∧ a.interiorMutable = false := by
  cases h with
  | readOnly t plain => exact ⟨rfl, plain⟩
  | _ => cases readOnly

theorem judgeAt_refusal {a : Allocation} {t : Tag} {access : Access} {d : Nat} {f : Frame}
    {above : List Frame} {fault : AccessFault}
    (h : a.judgeAt t access d f above = .error fault) :
    ∃ cause, a.Refusal (some t) access cause ∧ fault = a.faultOf access cause := by
  unfold judgeAt at h
  cases opposed : above.find? (a.isForeignUnique t) with
  | some holder =>
    simp only [opposed, Except.error.injEq] at h
    exact ⟨_, .conflict t holder.tag access, h.symm⟩
  | none =>
    simp only [opposed] at h
    split at h
    · cases h
      exact ⟨_, .disabled t access, rfl⟩
    · split at h
      · next readOnly =>
        cases h
        simp only [Bool.and_eq_true, decide_eq_true_eq, Bool.not_eq_true'] at readOnly
        obtain ⟨⟨rfl, -⟩, plain⟩ := readOnly
        exact ⟨_, .readOnly t plain, rfl⟩
      · cases h

/-- The fault of a refused access tells its cause. -/
theorem judge_refusal {a : Allocation} {tag : Option Tag} {access : Access} {fault : AccessFault}
    (h : a.judge tag access = .error fault) :
    ∃ cause, a.Refusal tag access cause ∧ fault = a.faultOf access cause := by
  unfold judge at h
  cases tag with
  | none =>
    cases h
    exact ⟨_, .untagged access, rfl⟩
  | some t =>
    cases found : a.find t with
    | none =>
      simp only [found, Except.error.injEq] at h
      exact ⟨_, .gone t access, h.symm⟩
    | some depth =>
      simp only [found] at h
      cases cut : a.stack.drop depth with
      | nil =>
        simp only [cut, Except.error.injEq] at h
        exact ⟨_, .gone t access, h.symm⟩
      | cons f above =>
        simp only [cut] at h
        exact judgeAt_refusal h

/-- A derivation is refused because its parent's frame is gone or disabled. -/
theorem parentFault_cases {a : Allocation} {tag : Option Tag} {access : Access}
    {fault : AccessFault} (h : a.parentFault? tag access = some fault) :
    ∃ t, tag = some t ∧ (fault = a.faultOf access (.parentGone t) ∨
      fault = a.faultOf access (.parentDisabled t)) := by
  unfold parentFault? at h
  cases tag with
  | none => cases h
  | some t =>
    refine ⟨t, rfl, ?_⟩
    cases found : a.find t with
    | none =>
      simp only [found, Option.some.injEq] at h
      exact .inl h.symm
    | some depth =>
      simp only [found] at h
      split at h
      · cases h
        exact .inr rfl
      · cases h

end Allocation

namespace Machine

variable {m : Machine} {act : Action} {fault : AccessFault}

/-- A fault is about an allocation of the store. -/
theorem Faults.named (h : m.Faults act fault) :
    ∃ id a, m.store.get? id = some a ∧ fault.allocation = a.name := by
  cases h with
  | @derive kind result p a _ derives found refused =>
    obtain ⟨t, -, rfl | rfl⟩ := Allocation.parentFault_cases refused <;> exact ⟨_, a, found, rfl⟩
  | @access access p a _ accesses found refused =>
    obtain ⟨cause, -, rfl⟩ := Allocation.judge_refusal refused
    exact ⟨_, a, found, rfl⟩

/-- Only an access through a pointer without tag breaks the rule that accesses need one. -/
theorem Faults.untagged_iff (h : m.Faults act fault) : fault.rule = .untaggedAccess ↔
    ∃ access p, m.Accesses act access p ∧ p.tag = none := by
  cases h with
  | derive derives found refused =>
    constructor
    · intro untagged
      obtain ⟨t, -, rfl | rfl⟩ := Allocation.parentFault_cases refused <;> cases untagged
    · rintro ⟨access, p, accesses, -⟩
      exact absurd accesses (not_accesses derives.access)
  | @access access p a _ accesses found refused =>
    obtain ⟨cause, refusal, rfl⟩ := Allocation.judge_refusal refused
    refine refusal.untagged_iff.trans ⟨fun noTag => ⟨access, p, accesses, noTag⟩, ?_⟩
    rintro ⟨other, q, accesses', noTag⟩
    obtain ⟨-, rfl⟩ := accesses.eq accesses'
    exact noTag

/-- Only a write to plain data breaks the rule of read-only frames. -/
theorem Faults.readOnly (h : m.Faults act fault) (readOnly : fault.rule = .readOnlyViolation) :
    ∃ p a, m.Accesses act .write p ∧ m.store.get? p.target = some a ∧
      a.interiorMutable = false ∧ fault.allocation = a.name := by
  cases h with
  | derive derives found refused =>
    obtain ⟨t, -, rfl | rfl⟩ := Allocation.parentFault_cases refused <;> cases readOnly
  | @access access p a _ accesses found refused =>
    obtain ⟨cause, refusal, rfl⟩ := Allocation.judge_refusal refused
    obtain ⟨rfl, plain⟩ := refusal.readOnly_rule readOnly
    exact ⟨p, a, accesses, found, plain, rfl⟩

end Machine

end PointerTrace
