import Mathlib.Logic.Equiv.Basic
import PointerTrace.Proofs.Numerals
import PointerTrace.Proofs.Recast
import PointerTrace.Proofs.Refusal
import PointerTrace.Proofs.Relabel
import PointerTrace.Proofs.Verdict

/- The shape of a trace. Judging looks at the stack and the lineage of an allocation and at whether
   it is interior-mutable, and an operation looks at names only to tell them apart. So the run of a
   program and that of one which differs from it in names, values, mutable flags, bindings and
   called functions go hand in hand (`Program.Alike.inStep`): their machines differ in names and
   values alone (`Machine.Alike`), with one case for each change and each fault. So the two checks
   agree (`Program.check_alike`), and so do the two reports, unless the value of the write at fault is
   too long to be quoted in one of them (`Program.report_of_shape`). -/
namespace PointerTrace

/-- The second action is the first with its names renamed, and with whatever values, mutable flags,
    bindings and functions; a write may stand for a call and a call for a write. -/
inductive Action.Alike (ρ : String → String) : Action → Action → Prop where
  | declare (name : String) (value value' : Int) (isMutable isMutable' interiorMutable : Bool) :
      Alike ρ (.declare name value isMutable interiorMutable)
        (.declare (ρ name) value' isMutable' interiorMutable)
  | borrow (target : String) (kind : BorrowKind) (result : String) :
      Alike ρ (.borrow target kind result) (.borrow (ρ target) kind (ρ result))
  | reborrow (source : String) (kind : BorrowKind) (result : String) :
      Alike ρ (.reborrow source kind result) (.reborrow (ρ source) kind (ρ result))
  | toInteger (source result : String) :
      Alike ρ (.toInteger source result) (.toInteger (ρ source) (ρ result))
  | read (source : String) (binding binding' : Option String) :
      Alike ρ (.read source binding) (.read (ρ source) binding')
  | write {act act' : Action} (source : String) (writes : act.access? = some (.write, source))
      (writes' : act'.access? = some (.write, ρ source)) : Alike ρ act act'

theorem Action.Alike.refl (act : Action) : act.Alike id act := by
  cases act with
  | declare name value isMutable interiorMutable =>
    exact .declare name value value isMutable isMutable interiorMutable
  | borrow target kind result => exact .borrow target kind result
  | reborrow source kind result => exact .reborrow source kind result
  | toInteger source result => exact .toInteger source result
  | read source binding => exact .read source binding binding
  | write source value => exact .write source rfl rfl
  | call source function => exact .write source rfl rfl

theorem Action.Alike.access {ρ : String → String} {act act' : Action} (h : act.Alike ρ act')
    {access : Access} {source : String} (through : act.access? = some (access, source)) :
    act'.access? = some (access, ρ source) := by
  cases h with
  | read => cases through; rfl
  | write other writes writes' =>
    rw [writes, Option.some.injEq, Prod.mk.injEq] at through
    obtain ⟨rfl, rfl⟩ := through
    exact writes'
  | _ => cases through

/-- The program binds a name. -/
def Program.Binds (p : Program) (name : String) : Prop :=
  ∃ op ∈ p.operations, op.action.result? = some name

/-! ## Names of a machine -/

/-- The machine knows what a name stands for. -/
def Machine.Names (m : Machine) (x : String) : Prop :=
  (m.pointers.lookup x).isSome = true ∨ m.store.has x = true

theorem Machine.names_of_pointer {m : Machine} {e : String × Pointer} (h : e ∈ m.pointers) :
    m.Names e.1 := by
  left
  by_contra absent
  have apart := List.lookup_eq_none_iff.mp (Option.not_isSome_iff_eq_none.mp absent) e h
  simp at apart

theorem Machine.names_of_allocation {m : Machine} {a : Allocation} (h : a ∈ m.store.allocations) :
    m.Names a.name :=
  .inr (Store.has_iff.mpr (List.mem_map_of_mem h))

/-- What a machine knows was bound by an operation. -/
theorem Run.binds_of_names {r : Run} {n : Nat} {m : Machine} (h : r.state? n = some m) {x : String}
    (known : m.Names x) : r.program.Binds x := by
  have shared := agrees (wellFormed h) h
  have bound : (Scope.empty.afterAll (r.program.operations.take n)).binds x = true := by
    rw [Scope.binds, shared.pointers, shared.allocations, Bool.or_eq_true]
    exact known
  rcases Scope.binds_afterAll bound with before | ⟨op, inside, binds⟩
  · cases before
  · exact ⟨op, List.mem_of_mem_take inside, binds⟩

/-! ## Machines alike -/

namespace Machine

/-- The machines hold the same stacks and the same pointers, under other names. -/
structure Alike (ρ : String → String) (m m' : Machine) : Prop where
  allocations : List.Forall₂ (Allocation.Alike ρ) m.store.allocations m'.store.allocations
  nextTag : m'.store.nextTag = m.store.nextTag
  pointers : m'.pointers = m.pointers.map (Prod.map ρ id)

/-- The renaming tells the names apart that a machine knows. -/
def ToldApart (m : Machine) (ρ : String → String) : Prop :=
  ∀ x y, m.Names x → m.Names y → ρ x = ρ y → x = y

namespace Alike

variable {ρ : String → String} {m m' after : Machine} {act act' : Action} (h : m.Alike ρ m')
include h

/-! ## What names stand for -/

theorem get? {id : AllocationId} {a : Allocation} (found : m.store.get? id = some a) :
    ∃ b, m'.store.get? id = some b ∧ a.Alike ρ b := by
  obtain ⟨n, rfl, here⟩ := Store.get?_eq_some.mp found
  obtain ⟨b, here', alike⟩ := forall₂_getElem? h.allocations here
  exact ⟨b, Store.get?_eq_some.mpr ⟨n, rfl, here'⟩, alike⟩

/-- A variable stands for the same pointer. -/
theorem variable_root (hm : m.Valid) (hm' : m'.Valid) (apart : m.ToldApart ρ) {x : String}
    {p : Pointer} (resolved : (m.store.lookup x >>= m.store.rootPointer) = .ok p) :
    (m'.store.lookup (ρ x) >>= m'.store.rootPointer) = .ok p := by
  obtain ⟨a, named, -, rfl⟩ := (Store.lookup_rootPointer hm.store).mp resolved
  have known : m.Names x := .inr (by rw [Store.has, named]; rfl)
  obtain ⟨b, named', value, isMutable, rfl⟩ := find?_alike h.allocations
    (fun c inside collide => apart _ _ (names_of_allocation inside) known collide) named
  exact (Store.lookup_rootPointer hm'.store).mpr
    ⟨_, named', hm'.store.get?_of_named named', rfl⟩

/-- A name stands for the same pointer. -/
theorem resolve (hm : m.Valid) (hm' : m'.Valid) (apart : m.ToldApart ρ) {x : String} {p : Pointer}
    (resolved : m.resolve x = .ok p) : m'.resolve (ρ x) = .ok p := by
  have bound : m.Names x → m'.pointers.lookup (ρ x) = m.pointers.lookup x := by
    intro known
    rw [h.pointers, lookup_map ρ id m.pointers x fun e inside collide =>
      apart _ _ known (names_of_pointer inside) collide]
    exact Option.map_id_fun ▸ rfl
  unfold Machine.resolve at resolved ⊢
  cases found : m.pointers.lookup x with
  | some q =>
    rw [bound (.inl (by rw [found]; rfl)), found]
    rw [found] at resolved
    exact resolved
  | none =>
    rw [found] at resolved
    obtain ⟨a, named, -⟩ := (Store.lookup_rootPointer hm.store).mp resolved
    rw [bound (.inr (by rw [Store.has, named]; rfl)), found]
    exact h.variable_root hm hm' apart resolved

theorem derives (hm : m.Valid) (hm' : m'.Valid) (apart : m.ToldApart ρ) (like : act.Alike ρ act')
    {kind : BorrowKind} {result : String} {p : Pointer} (derives : m.Derives act kind result p) :
    m'.Derives act' kind (ρ result) p := by
  cases derives with
  | borrow resolved =>
    cases like with
    | borrow => exact .borrow (h.variable_root hm hm' apart resolved)
    | write source writes => cases writes
  | reborrow resolved =>
    cases like with
    | reborrow => exact .reborrow (h.resolve hm hm' apart resolved)
    | write source writes => cases writes

theorem accesses (hm : m.Valid) (hm' : m'.Valid) (apart : m.ToldApart ρ) (like : act.Alike ρ act')
    {access : Access} {p : Pointer} (accesses : m.Accesses act access p) :
    m'.Accesses act' access p := by
  obtain ⟨source, through, resolved⟩ := accesses
  exact ⟨ρ source, like.access through, h.resolve hm hm' apart resolved⟩

/-! ## Steps -/

/-- An operation at fault is at fault in the other machine too, and the faults differ in the name
    of the allocation. -/
theorem faults (hm : m.Valid) (hm' : m'.Valid) (apart : m.ToldApart ρ) (like : act.Alike ρ act')
    {fault : AccessFault} (faults : m.Faults act fault) :
    m'.Faults act' { fault with allocation := ρ fault.allocation } := by
  cases faults with
  | @derive kind result p a _ derives found refused =>
    obtain ⟨b, found', value, isMutable, rfl⟩ := h.get? found
    have name : fault.allocation = a.name := by
      obtain ⟨t, -, rfl | rfl⟩ := Allocation.parentFault_cases refused <;> rfl
    refine .derive (h.derives hm hm' apart like derives) found' ?_
    rw [Allocation.parentFault?_recast, refused, name]
    rfl
  | @access access p a _ accesses found refused =>
    obtain ⟨b, found', value, isMutable, rfl⟩ := h.get? found
    have name : fault.allocation = a.name := by
      obtain ⟨cause, -, rfl⟩ := Allocation.judge_refusal refused
      rfl
    refine .access (h.accesses hm hm' apart like accesses) found' ?_
    rw [Allocation.judge_recast, refused, name]
    rfl

theorem pointers_append (result : String) (p : Pointer) : m'.pointers ++ [(ρ result, p)] =
    (m.pointers ++ [(result, p)]).map (Prod.map ρ id) := by
  rw [h.pointers, List.map_append]
  rfl

/-- A change of one machine is a change of the other, and the machines are alike again. -/
theorem change (hm : m.Valid) (hm' : m'.Valid) (apart : m.ToldApart ρ) (like : act.Alike ρ act')
    (ready : m'.Ready act') (change : m.Change act after) :
    ∃ after', m'.Change act' after' ∧ after.Alike ρ after' := by
  cases change with
  | @declare name value isMutable interiorMutable id store declared =>
    obtain ⟨-, -, rfl⟩ := Store.declare_eq_ok.mp declared
    cases like with
    | write source writes => cases writes
    | declare _ _ value' _ isMutable' =>
      refine ⟨_, .declare (Store.declare_eq_ok.mpr ⟨ready, rfl, rfl⟩), ?_, ?_, h.pointers⟩
      · have place : m'.store.allocations.length = m.store.allocations.length :=
          h.allocations.length_eq.symm
        refine List.rel_append h.allocations (.cons ⟨value', isMutable', ?_⟩ .nil)
        simp only [Store.declared, place, h.nextTag]
        rfl
      · exact congrArg (· + 1) h.nextTag
  | @derive _ kind result p a f derives found present tagged enabled =>
    obtain ⟨b, found', value, isMutable, rfl⟩ := h.get? found
    refine ⟨_, .derive (h.derives hm hm' apart like derives) found' present tagged enabled, ?_⟩
    refine ⟨?_, congrArg (· + 1) h.nextTag, ?_⟩
    · refine forall₂_modify h.allocations p.target.toNat ?_
      rintro c d ⟨value, isMutable, rfl⟩
      exact ⟨value, isMutable, by rw [h.nextTag]; rfl⟩
    · have longer := h.pointers_append result ⟨p.target, some ⟨m'.store.nextTag⟩⟩
      exact longer.trans (by rw [h.nextTag]; rfl)
  | @untagged _ kind result p derives noTag =>
    exact ⟨_, .untagged (h.derives hm hm' apart like derives) noTag, h.allocations, h.nextTag,
      h.pointers_append ..⟩
  | @toInteger source result p resolved =>
    cases like with
    | write source writes => cases writes
    | toInteger =>
      exact ⟨_, .toInteger (h.resolve hm hm' apart resolved), h.allocations, h.nextTag,
        h.pointers_append ..⟩
  | @read source binding p a t grant resolved found tagged granted =>
    obtain ⟨b, found', value, isMutable, rfl⟩ := h.get? found
    have granted' := (a.judge_recast (ρ a.name) value isMutable (some t) .read).trans
      (congrArg _ granted)
    cases like with
    | write source writes => cases writes
    | read =>
      refine ⟨_, .read (h.resolve hm hm' apart resolved) found' tagged granted', ?_, h.nextTag,
        h.pointers⟩
      refine forall₂_modify h.allocations p.target.toNat ?_
      rintro c d ⟨value, isMutable, rfl⟩
      exact ⟨value, isMutable, rfl⟩
  | @write _ p value a t grant writes found tagged granted =>
    obtain ⟨b, found', value', isMutable, rfl⟩ := h.get? found
    have granted' := (a.judge_recast (ρ a.name) value' isMutable (some t) .write).trans
      (congrArg _ granted)
    rcases (h.accesses hm hm' apart like writes.accesses).cases with ⟨no, -⟩ | ⟨-, written, writes'⟩
    · cases no
    · refine ⟨_, .write writes' found' tagged granted', ?_, h.nextTag, h.pointers⟩
      refine forall₂_modify h.allocations p.target.toNat ?_
      rintro c d ⟨_, flag, rfl⟩
      exact ⟨written, flag, rfl⟩

end Alike

end Machine

/-! ## Runs -/

namespace Program

/-- The programs agree operation by operation under a renaming that tells the names apart. -/
structure Alike (ρ : String → String) (p q : Program) : Prop where
  apart : ∀ a b, p.Binds a → p.Binds b → ρ a = ρ b → a = b
  operations : List.Forall₂ (fun op op' => op.action.Alike ρ op'.action) p.operations q.operations

variable {p q : Program} {ρ : String → String} {x y : Int}

theorem Alike.refl (p : Program) : p.Alike id p :=
  ⟨fun _ _ _ _ same => same, List.forall₂_same.mpr fun op _ => .refl op.action⟩

theorem Alike.toldApart (like : p.Alike ρ q) {n : Nat} {m : Machine}
    (found : (p.run ⟨x, false⟩).state? n = some m) : m.ToldApart ρ := by
  intro a b known known'
  exact like.apart a b (Run.binds_of_names found known) (Run.binds_of_names found known')

/-- Where the machines are alike, they are so after the next operation, or neither goes on. -/
theorem Alike.next (like : p.Alike ρ q) {n : Nat} {m m' : Machine}
    (found : (p.run ⟨x, false⟩).state? n = some m) (found' : (q.run ⟨y, false⟩).state? n = some m')
    (alike : m.Alike ρ m') : Option.Rel (Machine.Alike ρ) ((p.run ⟨x, false⟩).state? (n + 1))
      ((q.run ⟨y, false⟩).state? (n + 1)) := by
  have valid := (Run.reached found).valid
  have valid' := (Run.reached found').valid
  have told := like.toldApart found
  cases here : p.operations[n]? with
  | none =>
    have short : q.operations.length ≤ n := by
      rw [← like.operations.length_eq]
      exact List.getElem?_eq_none_iff.mp here
    rw [Run.state?_of_end (r := p.run ⟨x, false⟩) here,
      Run.state?_of_end (r := q.run ⟨y, false⟩) (List.getElem?_eq_none short)]
    exact .none
  | some op =>
    obtain ⟨op', here', likeOp⟩ := forall₂_getElem? like.operations here
    have ready := Run.ready (Run.wellFormed found) found here
    have ready' := Run.ready (Run.wellFormed found') found' here'
    rcases ready.cases valid with ⟨after, change⟩ | ⟨fault, faults⟩
    · obtain ⟨after', change', alike'⟩ := alike.change valid valid' told likeOp ready' change
      rw [Run.state?_of_change found here change, Run.state?_of_change found' here' change']
      exact .some ⟨alike'.allocations, alike'.nextTag, alike'.pointers⟩
    · have faults' := alike.faults valid valid' told likeOp faults
      rw [Run.state?_of_faults found here faults, Run.state?_of_faults found' here' faults']
      exact .none

/-- The runs of two programs alike go hand in hand. -/
theorem Alike.inStep (like : p.Alike ρ q) (clean : p.WellFormed false)
    (clean' : q.WellFormed false) (n : Nat) :
    Option.Rel (Machine.Alike ρ) ((p.run ⟨x, false⟩).state? n) ((q.run ⟨y, false⟩).state? n) := by
  induction n with
  | zero =>
    rw [Run.state?_start (r := p.run ⟨x, false⟩) clean,
      Run.state?_start (r := q.run ⟨y, false⟩) clean']
    exact .some ⟨.nil, rfl, rfl⟩
  | succ n ih =>
    cases found : (p.run ⟨x, false⟩).state? n <;> cases found' : (q.run ⟨y, false⟩).state? n <;>
      rw [found, found'] at ih
    case none.none =>
      rw [Run.state?, Run.state?, found, found']
      exact .none
    case none.some => cases ih
    case some.none => cases ih
    case some.some =>
      cases ih with
      | some alike => exact like.next found found' alike

/-- Where the first program's run has a machine, the second's has one that is alike. -/
theorem Alike.follows (like : p.Alike ρ q) (clean : p.WellFormed false) (clean' : q.WellFormed false)
    {n : Nat} {m : Machine} (found : (p.run ⟨x, false⟩).state? n = some m) :
    ∃ m', (q.run ⟨y, false⟩).state? n = some m' ∧ m.Alike ρ m' := by
  have both := like.inStep (x := x) (y := y) clean clean' n
  rw [found] at both
  cases found' : (q.run ⟨y, false⟩).state? n <;> rw [found'] at both <;> cases both
  case some m' alike => exact ⟨m', rfl, alike⟩

end Program

/-- The violations are of the same operation and the same rule, with the same tag and stack, and the
    variable of the second is the renamed one of the first. -/
structure Violation.Alike (ρ : String → String) (v w : Violation) : Prop where
  index : w.index = v.index
  rule : w.rule = v.rule
  tag : w.tag = v.tag
  stack : w.stack = v.stack
  allocation : w.allocation = ρ v.allocation

/-- The reports agree: both are sound, or both are of violations that are alike. -/
def ReportedAlike (ρ : String → String) (r r' : Except ReportFailure Verdict) : Prop :=
  (∃ v w, r = .ok v ∧ r' = .ok w ∧ v.isSound = true ∧ w.isSound = true) ∨
    ∃ v w, r = .ok (.violation v) ∧ r' = .ok (.violation w) ∧ v.Alike ρ w

namespace Program

variable {p q : Program} {ρ : String → String} {x y : Int}

/-- Programs alike have the same borrow stacks after every operation. -/
theorem Alike.sameStacks (like : p.Alike ρ q) (clean : p.WellFormed false) (clean' : q.WellFormed false)
    (n : Nat) :
    ((q.run ⟨y, false⟩).state? n).map (fun m => m.store.allocations.map fun a => (a.name, a.stack)) =
      ((p.run ⟨x, false⟩).state? n).map fun m => m.store.allocations.map fun a =>
        (ρ a.name, a.stack) := by
  have both := like.inStep (x := x) (y := y) clean clean' n
  cases found : (p.run ⟨x, false⟩).state? n <;> cases found' : (q.run ⟨y, false⟩).state? n <;>
    rw [found, found'] at both <;> cases both
  case none.none => rfl
  case some.some m m' alike => exact congrArg some (stacks_alike alike.allocations)

/-- What is found of programs alike: both are sound, or the same operation breaks the same rule in
    both. -/
theorem check_alike (x y : Int) (clean : p.WellFormed false) (clean' : q.WellFormed false)
    (like : p.Alike ρ q) :
    (∃ v w, p.check ⟨x, false⟩ = .ok v ∧ q.check ⟨y, false⟩ = .ok w ∧ v.isSound = true ∧
        w.isSound = true) ∨
      ∃ v w, p.check ⟨x, false⟩ = .ok (.violation v) ∧ q.check ⟨y, false⟩ = .ok (.violation w) ∧
        v.Alike ρ w := by
  rcases check_cases (o := ⟨x, false⟩) clean with
    ⟨last, done⟩ | ⟨n, m, op, fault, found, here, faults⟩
  · obtain ⟨last', done', -⟩ := like.follows (y := y) clean clean' done
    have length : p.length = q.length := like.operations.length_eq
    rw [length] at done'
    exact .inl ⟨_, _, check_of_done done, check_of_done done', rfl, rfl⟩
  · obtain ⟨m', found', alike⟩ := like.follows (y := y) clean clean' found
    obtain ⟨op', here', likeOp⟩ := forall₂_getElem? like.operations here
    have faults' := alike.faults (Run.reached found).valid (Run.reached found').valid
      (like.toldApart found) likeOp faults
    exact .inr ⟨_, _, check_of_faults found here faults, check_of_faults found' here' faults',
      rfl, rfl, rfl, rfl, rfl⟩

/-- What is stated of violations agrees exactly if both can be stated. -/
theorem reportedAlike_iff {v w : Violation} (alike : v.Alike ρ w) :
    ReportedAlike ρ (Verdict.violation v).stated (Verdict.violation w).stated ↔
      (Verdict.violation v).stated ≠ .error .unquotable ∧
        (Verdict.violation w).stated ≠ .error .unquotable := by
  constructor
  · rintro (⟨v', w', stated, stated', -⟩ | ⟨v', w', stated, stated', -⟩) <;>
      rw [stated, stated'] <;> exact ⟨nofun, nofun⟩
  · rintro ⟨stated, stated'⟩
    rw [Verdict.stated] at stated stated'
    split at stated
    · split at stated'
      · next quotable quotable' =>
        rw [Verdict.stated, Verdict.stated, if_pos quotable, if_pos quotable']
        exact .inr ⟨v, w, rfl, rfl, alike⟩
      · exact absurd rfl stated'
    · exact absurd rfl stated

/-- The report depends on the shape of a trace alone, but for what it quotes. Two programs that agree
    operation by operation under a renaming, whatever their values, mutable flags, bindings and called
    functions and whatever calls write, are both reported sound, or the same operation breaks the same
    rule in both, with the same tag and on the same stack, and each report states that if it can quote
    the operation. So the reports agree except where one of them cannot; and after every operation the
    programs have the same borrow stacks. -/
theorem report_of_shape (x y : Int) (clean : p.WellFormed false) (clean' : q.WellFormed false)
    (like : p.Alike ρ q) :
    ((∃ v w, p.report ⟨x, false⟩ = .ok v ∧ q.report ⟨y, false⟩ = .ok w ∧ v.isSound = true ∧
        w.isSound = true) ∨
      ∃ v w, p.report ⟨x, false⟩ = (Verdict.violation v).stated ∧
        q.report ⟨y, false⟩ = (Verdict.violation w).stated ∧ v.Alike ρ w ∧
        p.operations[v.index]? = some v.fault.operation ∧
        q.operations[v.index]? = some w.fault.operation) ∧
    (ReportedAlike ρ (p.report ⟨x, false⟩) (q.report ⟨y, false⟩) ↔
      p.report ⟨x, false⟩ ≠ .error .unquotable ∧ q.report ⟨y, false⟩ ≠ .error .unquotable) ∧
    ∀ n, ((q.run ⟨y, false⟩).state? n).map (fun m => m.store.allocations.map fun a =>
        (a.name, a.stack)) =
      ((p.run ⟨x, false⟩).state? n).map fun m => m.store.allocations.map fun a =>
        (ρ a.name, a.stack) := by
  have same := like.sameStacks (x := x) (y := y) clean clean'
  rcases check_alike x y clean clean' like with
    ⟨v, w, checked, checked', sound, sound'⟩ | ⟨v, w, checked, checked', alike⟩
  · obtain ⟨v', reported, sound₁⟩ := report_sound.mpr ⟨v, checked, sound⟩
    obtain ⟨w', reported', sound₂⟩ := report_sound.mpr ⟨w, checked', sound'⟩
    rw [reported, reported']
    exact ⟨.inl ⟨v', w', rfl, rfl, sound₁, sound₂⟩,
      iff_of_true (.inl ⟨v', w', rfl, rfl, sound₁, sound₂⟩) ⟨nofun, nofun⟩, same⟩
  · obtain ⟨-, -, here, -⟩ := faults_of_check checked
    obtain ⟨-, -, here', -⟩ := faults_of_check checked'
    rw [report_of_check checked, report_of_check checked']
    exact ⟨.inr ⟨v, w, rfl, rfl, alike, here, alike.index ▸ here'⟩, reportedAlike_iff alike, same⟩

/-- A write through a unique borrow, a call on the variable itself, and a read of the borrow. -/
def reclaimed : Program := (Run.ofActions [.declare "x" 0 true false, .borrow "x" .unique "m",
  .write "m" 1, .call "x" "f", .read "m" none]).program

/-- The same on an immutable variable, with the two names exchanged and a call for the write. -/
def reclaimedElsewhere : Program := (Run.ofActions [.declare "m" 7 false false,
  .borrow "m" .unique "x", .call "x" "g", .write "m" 5, .read "x" (some "seen")]).program

theorem report_of_shape_reclaimed : ∃ v w, reclaimed.report ⟨1, false⟩ = .ok (.violation v) ∧
    reclaimedElsewhere.report ⟨2, false⟩ = .ok (.violation w) ∧ v.index = 4 ∧ w.index = 4 ∧
    w.rule = v.rule ∧ v.allocation = "x" ∧ w.allocation = "m" := by
  have exchanged : reclaimed.Alike (Equiv.swap "x" "m") reclaimedElsewhere := by
    refine ⟨fun _ _ _ _ same => (Equiv.swap "x" "m").injective same, ?_⟩
    exact .cons (.declare "x" 0 7 true false false) <| .cons (.borrow "x" .unique "m") <|
      .cons (.write "m" rfl rfl) <| .cons (.write "x" rfl rfl) <|
      .cons (.read "m" none (some "seen")) .nil
  obtain ⟨v, checked, index, about, action⟩ : ∃ v,
      reclaimed.check ⟨1, false⟩ = .ok (.violation v) ∧ v.index = 4 ∧ v.allocation = "x" ∧
      v.fault.operation.action = .read "m" none := ⟨_, rfl, rfl, rfl, rfl⟩
  obtain ⟨w, checked', action'⟩ : ∃ w,
      reclaimedElsewhere.check ⟨2, false⟩ = .ok (.violation w) ∧
      w.fault.operation.action = .read "x" (some "seen") := ⟨_, rfl, rfl⟩
  have reported := report_violation.mpr ⟨checked, by rw [action]; rfl⟩
  have reported' := report_violation.mpr ⟨checked', by rw [action']; rfl⟩
  obtain ⟨-, agree, -⟩ :=
    report_of_shape (p := reclaimed) (q := reclaimedElsewhere) 1 2 rfl rfl exchanged
  rw [reported, reported'] at agree
  rcases agree.mpr ⟨nofun, nofun⟩ with ⟨v', w', same, -, sound, -⟩ | ⟨v', w', same, same', alike⟩
  · cases same
    cases sound
  · cases same
    cases same'
    have name := alike.allocation
    rw [about] at name
    exact ⟨v, w, reported, reported', index, alike.index.trans index, alike.rule, about, name⟩

/-- An integer in place of a pointer, and a number written through it. -/
def erased (n : Int) : Program :=
  (Run.ofActions [.declare "x" 0 true false, .toInteger "x" "i", .write "i" n]).program

/-- Such programs have the same shape, and the operation at fault is the write: with a short number there
    is a report, with one that is too long there is none. -/
theorem not_forall_reportedAlike : ¬ ∀ (p q : Program) (ρ : String → String) (x y : Int),
    p.WellFormed false → q.WellFormed false → p.Alike ρ q →
      ReportedAlike ρ (p.report ⟨x, false⟩) (q.report ⟨y, false⟩) := by
  intro all
  have same : ∀ n n', (erased n).Alike id (erased n') := fun n n' =>
    ⟨fun _ _ _ _ same => same, .cons (.declare "x" 0 0 true true false) <|
      .cons (.toInteger "x" "i") <| .cons (.write "i" rfl rfl) .nil⟩
  have clean : ∀ n, (erased n).WellFormed false := fun n => rfl
  have found : ∀ n, ∃ v, (erased n).check ⟨1, false⟩ = .ok (.violation v) ∧
      v.fault.operation.action = .write "i" n := fun n => ⟨_, rfl, rfl⟩
  obtain ⟨w, checked, long⟩ := found Decimal.tooLong
  have missing : (erased Decimal.tooLong).report ⟨1, false⟩ = .error .unquotable :=
    report_eq_unquotable.mpr ⟨w, checked, long ▸ Decimal.isWritable_tooLong⟩
  rcases all _ _ _ 1 1 (clean 1) (clean Decimal.tooLong) (same ..) with
    ⟨v, u, -, reported, -⟩ | ⟨v, u, -, reported, -⟩ <;>
    cases missing.symm.trans reported

end Program

end PointerTrace
