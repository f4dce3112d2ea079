import PointerTrace.Proofs.DirectUse
import PointerTrace.Proofs.ReachableStore
import PointerTrace.Proofs.Verdict

/- What a fault leaves and what is reported of it. An operation that is at fault uses its operand:
   the fault has the tag of the operand's pointer, and it quotes the name and the borrow stack of
   the allocation that the pointer stands in (`Machine.Faults.quotes`). Since the step into a fault
   notes the fault and the end of the run and changes nothing else, what is quoted is what the
   machine holds afterwards, and the verdict on the run tells it (`Run.step_of_fault`). -/
namespace PointerTrace

namespace Machine

variable {m : Machine} {act : Action} {fault : AccessFault}

/-- What a fault quotes is the operand's pointer and its allocation. -/
theorem Faults.quotes (hm : m.Valid) (h : m.Faults act fault) : ∃ source p a,
    act.operand? = some source ∧ m.resolve source = .ok p ∧ m.store.get? p.target = some a ∧
      fault.tag = p.tag ∧ fault.allocation = a.name ∧ fault.stack = a.stackText := by
  rcases h.cases hm with
    ⟨source, kind, result, p, a, rfl, resolved, found, refused⟩ |
      ⟨access, p, a, accesses, found, refused⟩
  · refine ⟨source, p, a, rfl, resolved, found, ?_⟩
    obtain ⟨t, tagged, rfl | rfl⟩ := Allocation.parentFault_cases refused
    · exact ⟨tagged.symm, rfl, rfl⟩
    · exact ⟨tagged.symm, rfl, rfl⟩
  · obtain ⟨source, through, resolved⟩ := accesses
    obtain ⟨cause, refusal, rfl⟩ := Allocation.judge_refusal refused
    have operand := Action.operand_of_access through
    exact ⟨source, p, a, operand, resolved, found, refusal.tag_eq, rfl, rfl⟩

end Machine

namespace Run

variable {r : Run} {n : Nat} {m : Machine} {op : Operation}

/-- An allocation was declared by an earlier operation. -/
theorem declaration_of {id : AllocationId} {a : Allocation} (h : r.state? n = some m)
    (placed : m.store.get? id = some a) :
    ∃ i earlier value isMutable, i < n ∧ r.program.operations[i]? = some earlier ∧
      earlier.action = .declare a.name value isMutable a.interiorMutable := by
  obtain ⟨root, above, bottom, -⟩ := ((reached h).valid.store.get? placed).1.rooted
  have there : r.allocation? n id = some a := allocation?_eq_some.mpr ⟨m, h, placed⟩
  obtain ⟨i, earlier, value, isMutable, before, here, declares, -⟩ :=
    declared_at there (by rw [bottom, List.getElem?_cons_zero])
  exact ⟨i, earlier, value, isMutable, before, here, declares⟩

/-- The step of an operation that is at fault notes it and changes nothing else. The violation
    that is reported is at the program counter, with the label of the operand's tag, on an
    allocation that an earlier operation declared, and it shows the stack that the allocation is
    left with. -/
theorem step_of_fault (h : r.state? n = some m) (here : r.program.operations[n]? = some op) :
    ∃ m', m.step = .ok m' ∧ (m'.status = .haltedUb → ∃ v source p a,
      m' = { m with status := .haltedUb, fault := some v.fault } ∧
      r.program.evaluate r.options r.recording = .ok m' ∧ m'.verdict = .ok (.violation v) ∧
      v.program = r.program.name ∧ v.index = m.pc ∧ v.fault.operation = op ∧
      (∃ i earlier value isMutable interiorMutable, i < n ∧
        r.program.operations[i]? = some earlier ∧
        earlier.action = .declare v.allocation value isMutable interiorMutable) ∧
      op.action.operand? = some source ∧ m.resolve source = .ok p ∧ v.tag = tagLabel p.tag ∧
      m'.store.named? v.allocation = some a ∧ m'.store.get? p.target = some a ∧
      v.stack = a.stackText) := by
  have old := reached h
  rcases (ready (wellFormed h) h here).cases old.valid with ⟨after, change⟩ | ⟨fault, faults⟩
  · have executed := change.execute old.valid old.status
    refine ⟨_, step_of_execute h here executed, ?_⟩
    intro halted
    have running : (after.advance op).status = .running := change.running old.status
    rw [running] at halted
    cases halted
  · refine ⟨_, step_of_execute h here faults.execute, ?_⟩
    intro _
    obtain ⟨source, p, a, operand, resolved, placed, tag, name, stack⟩ := faults.quotes old.valid
    obtain ⟨i, earlier, value, isMutable, before, there, declares⟩ := declaration_of h placed
    have named : m.store.named? fault.allocation = some a :=
      name ▸ Store.named?_of_get? (names_distinct h) placed
    rw [← name] at declares
    have verdict : (m.faulted op fault).verdict =
        .ok (.violation ⟨r.program.name, m.pc, op, fault⟩) := by
      rw [← old.program]
      rfl
    exact ⟨_, source, p, a, rfl, evaluate_of_faults h here faults, verdict, rfl, rfl, rfl,
      ⟨i, earlier, value, isMutable, _, before, there, declares⟩, operand, resolved,
      congrArg tagLabel tag, named, placed, stack⟩

/-- A unique borrow is reborrowed after a write through the variable's own name. -/
def reborrowedLate : Run := ofActions [.declare "x" 0 true false, .borrow "x" .unique "m",
  .write "x" 1, .reborrow "m" .shared "n"]

theorem step_of_fault_reborrowedLate : ∃ m m' v, reborrowedLate.state? 3 = some m ∧
    m.step = .ok m' ∧ m'.status = .haltedUb ∧ m'.store = m.store ∧
    m'.verdict = .ok (.violation v) ∧ v.index = 3 ∧ v.rule = .tagNotFound ∧ v.allocation = "x" := by
  obtain ⟨m', stepped, faulted⟩ := step_of_fault (r := reborrowedLate) (n := 3) rfl rfl
  cases stepped
  obtain ⟨v, source, p, a, same, -, verdict, -⟩ := faulted rfl
  cases verdict
  exact ⟨_, _, _, rfl, rfl, rfl, by rw [same], rfl, rfl, rfl, rfl⟩

end Run

end PointerTrace
