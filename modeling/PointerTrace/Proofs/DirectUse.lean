import PointerTrace.Proofs.Authority
import PointerTrace.Proofs.Progress
import PointerTrace.Proofs.Refusal

/- Direct use of a variable, and what each operation can be at fault for. The lowest frame of a stack
   is never disabled and never read-only, and every other tag descends from its tag, so that an access
   through it is always granted and a write through it pops all the others
   (`Valid.stack_of_root_write`). The variable's own name stands for that frame: no operation whose
   operand is a declared name is at fault, nor is a borrow (`Machine.not_faults_of_declared`,
   `Machine.not_faults_borrow`). `Action.faultRules` lists the rules that an operation can break at
   all; `Run.direct_use` puts both together for every state of a run. -/
namespace PointerTrace

/-- The rules that an operation can break. -/
def Action.faultRules : Action → List Rule
  | .declare .. | .borrow .. | .toInteger .. => []
  | .reborrow .. => [.tagNotFound, .disabled]
  | .read .. => [.untaggedAccess, .tagNotFound, .disabled]
  | .write .. | .call .. => [.untaggedAccess, .tagNotFound, .disabled, .readOnlyViolation]

/-! ## The lowest frame -/

namespace Allocation.Valid

variable {a : Allocation} (ha : a.Valid) {root : Frame} {above : List Frame}
  (bottom : a.stack = root :: above)
include ha bottom

theorem root_permission : root.permission = .ofRoot a.interiorMutable := by
  obtain ⟨lowest, rest, cut, -, kept, -⟩ := ha.rooted
  rw [bottom, List.cons.injEq] at cut
  rw [cut.1, kept]

theorem descends_root {t : Tag} (ht : t ∈ a.tags) : t = root.tag ∨ a.Descends t root.tag := by
  obtain ⟨lowest, rest, cut, -, -, chains⟩ := ha.rooted
  rw [bottom, List.cons.injEq] at cut
  rw [cut.1]
  exact chains t ht

/-- An access through the lowest frame is granted. -/
theorem root_granted (access : Access) : ∃ grant, a.judge (some root.tag) access = .ok grant := by
  have kept := ha.root_permission bottom
  apply ha.granted_iff.mpr
  constructor
  · refine ⟨root, by simp [bottom], rfl, ?_, fun _ readOnly => ?_⟩
    · cases interior : a.interiorMutable <;> simp [kept, interior, Permission.ofRoot]
    · cases interior : a.interiorMutable with
      | true => rfl
      | false => simp [kept, interior, Permission.ofRoot] at readOnly
  · intro g hg younger unique
    rcases ha.descends_root bottom (ha.tag_mem hg) with same | descends
    · rw [same] at younger
      omega
    · exact descends

/-- The lowest frame is fit for derivation. -/
theorem root_fit (access : Access) : a.parentFault? (some root.tag) access = none := by
  have present : root ∈ a.stack := by simp [bottom]
  have enabled : root.permission ≠ .disabled := by
    rw [ha.root_permission bottom]
    cases a.interiorMutable <;> simp [Permission.ofRoot]
  exact parentFault?_eq_none.mpr ⟨root, present, rfl, enabled, ha.at_find present⟩

/-- A write through the lowest frame leaves nothing else on the stack. -/
theorem stack_of_root_write {grant : Grant} (granted : a.judge (some root.tag) .write = .ok grant) :
    (a.apply grant).stack = [root] := by
  obtain ⟨rest, after⟩ := ha.bottom_apply granted bottom
  have hb := ha.apply granted
  rw [after, List.cons.injEq]
  refine ⟨rfl, List.eq_nil_iff_forall_not_mem.mpr fun g hg => ?_⟩
  have inside : g ∈ (a.apply grant).stack := by simp [after, hg]
  -- a frame that the write leaves does not descend from the lowest, so that it would be the lowest
  rcases ha.descends_root bottom (hb.tag_mem inside) with same | descends
  · have apart := hb.distinct
    rw [after, List.map_cons, List.nodup_cons] at apart
    exact apart.1 (same ▸ List.mem_map_of_mem hg)
  · exact (ha.gone_of_write granted inside).1 descends

end Allocation.Valid

/-! ## The pointer of a variable's name -/

namespace Store.Valid

variable {s : Store} (hs : s.Valid) {a b : Allocation}
include hs

/-- The pointer of a variable is its lowest frame's. -/
theorem rootPointer_cases (found : s.get? b.id = some b)
    (target : s.get? b.rootPointer.target = some a) : a = b ∧ ∃ root above,
      a.stack = root :: above ∧ b.rootPointer.tag = some root.tag := by
  have same : a = b := Option.some.inj (target.symm.trans found)
  obtain ⟨root, above, bottom, -⟩ := (hs.get? found).1.rooted
  exact ⟨same, root, above, same ▸ bottom, by simp [Allocation.rootPointer, bottom]⟩

end Store.Valid

namespace Machine

variable {m : Machine} (hm : m.Valid) {act : Action} {fault : AccessFault}
include hm

/-- A variable's own name that is bound to no pointer stands for the variable. -/
theorem resolve_declared {name : String} {a : Allocation} (unbound : m.pointers.lookup name = none)
    (named : m.store.named? name = some a) : m.resolve name = .ok a.rootPointer := by
  have found := hm.store.get?_of_named named
  simp only [resolve, unbound]
  exact (Store.lookup_rootPointer hm.store).mpr ⟨a, named, found, rfl⟩

theorem not_faults_borrow {target result : String} {kind : BorrowKind} :
    ¬ m.Faults (.borrow target kind result) fault := by
  intro faults
  cases faults with
  | derive derives found refused =>
    cases derives with
    | borrow resolved =>
      obtain ⟨b, -, here, rfl⟩ := (Store.lookup_rootPointer hm.store).mp resolved
      obtain ⟨rfl, root, above, bottom, tagged⟩ := hm.store.rootPointer_cases here found
      rw [tagged, (hm.store.get? found).1.root_fit bottom] at refused
      cases refused
  | access accesses => exact absurd accesses (not_accesses rfl)

/-- A fault is one of a reborrow, whose parent is judged unfit, or one of an access. -/
theorem Faults.cases (h : m.Faults act fault) :
    (∃ source kind result p a, act = .reborrow source kind result ∧ m.resolve source = .ok p ∧
      m.store.get? p.target = some a ∧ a.parentFault? p.tag .read = some fault) ∨
    ∃ access p a, m.Accesses act access p ∧ m.store.get? p.target = some a ∧
      a.judge p.tag access = .error fault := by
  cases h with
  | @derive kind result p a _ derives found refused =>
    cases derives with
    | @borrow target _ _ _ resolved =>
      have faults : m.Faults (.borrow target kind result) fault :=
        .derive (.borrow resolved) found refused
      exact absurd faults (not_faults_borrow hm)
    | @reborrow source _ _ _ resolved =>
      exact .inl ⟨source, kind, result, p, a, rfl, resolved, found, refused⟩
  | @access access p a _ accesses found refused => exact .inr ⟨access, p, a, accesses, found, refused⟩

/-- An operation whose operand is a variable's own name is not at fault. -/
theorem not_faults_of_declared {name : String} {b : Allocation}
    (operand : act.operand? = some name) (unbound : m.pointers.lookup name = none)
    (named : m.store.named? name = some b) : ¬ m.Faults act fault := by
  have resolved := resolve_declared hm unbound named
  have here := hm.store.get?_of_named named
  intro faults
  cases faults with
  | derive derives found refused =>
    cases derives with
    | borrow => cases operand
    | reborrow resolved' =>
      cases operand
      rw [resolved, Except.ok.injEq] at resolved'
      subst resolved'
      obtain ⟨rfl, root, above, bottom, tagged⟩ := hm.store.rootPointer_cases here found
      rw [tagged, (hm.store.get? found).1.root_fit bottom] at refused
      cases refused
  | @access access p a _ accesses found refused =>
    obtain ⟨source, through, resolved'⟩ := accesses
    rw [Action.operand_of_access through, Option.some.injEq] at operand
    rw [operand, resolved, Except.ok.injEq] at resolved'
    subst resolved'
    -- the access is one through the lowest frame, which is granted
    obtain ⟨rfl, root, above, bottom, tagged⟩ := hm.store.rootPointer_cases here found
    obtain ⟨grant, granted⟩ := (hm.store.get? found).1.root_granted bottom access
    rw [tagged, granted] at refused
    cases refused

/-- An operation breaks no rule but its own. -/
theorem Faults.rule_mem (h : m.Faults act fault) : fault.rule ∈ act.faultRules := by
  rcases h.cases hm with
    ⟨source, kind, result, p, a, rfl, -, -, refused⟩ | ⟨access, p, a, accesses, -, refused⟩
  · obtain ⟨t, -, rfl | rfl⟩ := Allocation.parentFault_cases refused
    · exact List.mem_cons_self
    · exact List.mem_cons_of_mem _ List.mem_cons_self
  · obtain ⟨cause, refusal, rfl⟩ := Allocation.judge_refusal refused
    rcases accesses.cases with ⟨rfl, source, binding, rfl, -⟩ | ⟨rfl, value, writes⟩
    · cases rule : cause.rule with
      | readOnlyViolation => cases (refusal.readOnly_rule rule).1
      | _ => simp [AccessFault.rule, Allocation.faultOf, rule, Action.faultRules]
    · cases writes <;> cases rule : cause.rule <;>
        simp [AccessFault.rule, Allocation.faultOf, rule, Action.faultRules]

/-- After a write through a variable's own name the stack holds the lowest frame alone. -/
theorem stackOf_of_direct_write {m' : Machine} {name : String} {a : Allocation} {root : Frame}
    {above : List Frame} (change : m.Change act m') (through : act.access? = some (.write, name))
    (unbound : m.pointers.lookup name = none) (named : m.store.named? name = some a)
    (bottom : a.stack = root :: above) : m'.stackOf a.id = [root] := by
  have resolved := resolve_declared hm unbound named
  have found := hm.store.get?_of_named named
  obtain ⟨ev, a', found', step, shows⟩ := change.allocation hm found
  have accesses : m.Accesses act .write ⟨a.id, some root.tag⟩ := by
    refine ⟨name, through, resolved.trans ?_⟩
    simp [Allocation.rootPointer, bottom]
  have event := (shows .write root.tag).mpr accesses
  subst event
  cases step with
  | access value granted _ =>
    simp only [stackOf, found', Option.map_some, Option.getD_some]
    exact (hm.store.get? found).1.stack_of_root_write bottom granted

end Machine

namespace Run

variable {r : Run}

/-- In every state of a run, an operation whose operand is a declared name is carried out, and after a
    write or a call through the name the stack is the variable's lowest frame. An operation that is at
    fault breaks one of its own rules, and the operation that comes next is executed. -/
theorem direct_use {n : Nat} {m : Machine} (h : r.state? n = some m) (op : Operation) :
    (∀ name, op.action.operand? = some name → m.store.has name = true →
      ∃ m' a root above, m.execute op = .ok m' ∧ m'.status = .running ∧ m'.fault = none ∧
        m.store.named? name = some a ∧ a.stack = root :: above ∧
        (op.action.access? = some (.write, name) → m'.stackOf a.id = [root])) ∧
    (∀ m', m.execute op = .ok m' → (m'.status = .running ∧ m'.fault = none) ∨
      m'.status = .haltedUb ∧ ∃ fault, m'.fault = some fault ∧
        fault.access.rule ∈ op.action.faultRules) ∧
    (r.program.operations[n]? = some op → ∃ m', m.execute op = .ok m' ∧ m.step = .ok m') := by
  have old := reached h
  have kept : ∀ m', m.Change op.action m' → (m'.advance op).status = .running ∧
      (m'.advance op).fault = none := fun m' change =>
    ⟨change.running old.status, (congrArg Machine.fault change.frame).trans old.fault⟩
  refine ⟨?_, ?_, ?_⟩
  · intro name operand declared
    obtain ⟨a, named⟩ := Option.isSome_iff_exists.mp declared
    have unbound := unbound_of_declared h declared
    have resolved := Machine.resolve_declared old.valid unbound named
    have found := old.valid.store.get?_of_named named
    obtain ⟨root, above, bottom, -⟩ := (old.valid.store.get? found).1.rooted
    have ready : m.Ready op.action := by
      obtain ⟨action, location⟩ := op
      cases action <;> cases operand <;> exact ⟨_, resolved⟩
    rcases ready.cases old.valid with ⟨m', change⟩ | ⟨fault, faults⟩
    · refine ⟨_, a, root, above, change.execute old.valid old.status, (kept m' change).1,
        (kept m' change).2, named, bottom, fun through => ?_⟩
      have cleared := Machine.stackOf_of_direct_write old.valid change through unbound named bottom
      exact cleared
    · exact absurd faults (Machine.not_faults_of_declared old.valid operand unbound named)
  · intro m' executed
    rcases (Machine.ready_of_execute executed).cases old.valid with ⟨after, change⟩ | ⟨fault, faults⟩
    · rw [change.execute old.valid old.status, Except.ok.injEq] at executed
      exact .inl (executed ▸ kept after change)
    · rw [faults.execute, Except.ok.injEq] at executed
      subst executed
      exact .inr ⟨rfl, _, rfl, faults.rule_mem old.valid⟩
  · intro here
    rcases (ready (wellFormed h) h here).cases old.valid with ⟨after, change⟩ | ⟨fault, faults⟩
    · have executed := change.execute old.valid old.status
      exact ⟨_, executed, step_of_execute h here executed⟩
    · exact ⟨_, faults.execute, step_of_execute h here faults.execute⟩

/-- An interior-mutable variable under a shared and a unique borrow, written through its own name. -/
def reclaimed : Run := ofActions [.declare "c" 0 false true, .borrow "c" .shared "r",
  .borrow "c" .unique "m", .call "c" "f"]

theorem direct_use_reclaimed : ∃ m m' root, reclaimed.state? 3 = some m ∧
    m.stackOf 0 ≠ [root] ∧ m.execute ⟨.call "c" "f", none⟩ = .ok m' ∧ m'.stackOf 0 = [root] := by
  obtain ⟨direct, -, -⟩ := direct_use (r := reclaimed) (n := 3) rfl ⟨.call "c" "f", none⟩
  obtain ⟨m', a, root, above, executed, -, -, named, bottom, cleared⟩ := direct "c" rfl rfl
  cases named
  cases bottom
  exact ⟨_, m', _, rfl, by decide, executed, cleared rfl⟩

end Run

end PointerTrace
