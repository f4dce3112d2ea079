import PointerTrace.Proofs.Beside
import PointerTrace.Proofs.Extension
import PointerTrace.Proofs.LastWrite
import PointerTrace.Proofs.Projection
import PointerTrace.Proofs.Shape

/- Pointers that are made and never used. A shared borrow of a variable and a cast to an integer are
   never at fault, access no memory and leave behind an idle tag at most (`Inert.change_beside`). So a
   program may have one of them anywhere, under a name of its own: before it the two runs are the same,
   and from there on one is beside the other (`beside_insert`). The checks differ in the steps and the
   indices (`check_insert`). -/
namespace PointerTrace

/-! ## Names -/

namespace Scope

variable {s s' : Scope} {checkBindings : Bool} {n : String}

theorem binds_afterAll_of_mem {l : List Operation} {name : String}
    (bound : s.binds name = true ∨ ∃ op ∈ l, op.action.result? = some name) :
    (s.afterAll l).binds name = true := by
  induction l generalizing s with
  | nil => exact bound.resolve_right nofun
  | cons op l ih =>
    refine ih ?_
    rw [binds_after]
    rcases bound with before | ⟨op', inside, binds⟩
    · exact .inl (.inr before)
    · rcases List.mem_cons.mp inside with rfl | inside
      · exact .inl (.inl binds)
      · exact .inr ⟨op', inside, binds⟩

theorem hasAllocation_after {name : String} (has : s.hasAllocation name = true) (act : Action) :
    (s.after act).hasAllocation name = true := by
  unfold after
  cases result : act.result? with
  | none => exact has
  | some bound =>
    dsimp only
    split
    · exact has
    · cases act with
      | declare =>
        show (List.lookup name ((bound, _) :: s.allocations)).isSome = true
        rw [List.lookup_cons]
        split
        · rfl
        · exact has
      | _ => exact has

theorem hasAllocation_afterAll {l : List Operation} {index : Nat}
    (clean : issuesFrom checkBindings s index l = []) {name : String}
    (declared : s.hasAllocation name = true ∨ ∃ op ∈ l, ∃ value isMutable interiorMutable,
      op.action = .declare name value isMutable interiorMutable) :
    (s.afterAll l).hasAllocation name = true := by
  induction l generalizing s index with
  | nil => exact declared.resolve_right nofun
  | cons op l ih =>
    obtain ⟨here, later⟩ := List.append_eq_nil_iff.mp clean
    refine ih later ?_
    rcases declared with has | ⟨op', inside, value, isMutable, interiorMutable, declares⟩
    · exact .inl (hasAllocation_after has op.action)
    · rcases List.mem_cons.mp inside with rfl | inside
      · left
        have result : op'.action.result? = some name := by rw [declares]; rfl
        have free := result_free here result
        show (s.after op'.action).hasAllocation name = true
        rw [declares, after_of_free rfl free]
        simp [hasAllocation]
      · exact .inr ⟨op', inside, value, isMutable, interiorMutable, declares⟩

/-- The second scope has one more pointer name. -/
structure Besides (n : String) (s s' : Scope) : Prop where
  allocations : s'.allocations = s.allocations
  pointers : ∀ x, s'.pointers.contains x = (x == n || s.pointers.contains x)

namespace Besides

variable (h : s.Besides n s') {act : Action}
include h

theorem hasAllocation (x : String) : s'.hasAllocation x = s.hasAllocation x := by
  rw [Scope.hasAllocation, h.allocations, Scope.hasAllocation]

theorem isImmutable (x : String) : s'.isImmutable x = s.isImmutable x := by
  rw [Scope.isImmutable, h.allocations, Scope.isImmutable]

theorem binds (x : String) : s'.binds x = (x == n || s.binds x) := by
  rw [Scope.binds, h.pointers, h.hasAllocation, Bool.or_assoc, ← Scope.binds]

/-- What is allowed in the scope is allowed in the larger one, unless it binds the name. -/
theorem allows (allowed : s.Allows checkBindings act) (unbound : act.result? ≠ some n) :
    s'.Allows checkBindings act where
  target := by
    intro x kind result borrows
    rw [h.hasAllocation, h.isImmutable]
    exact allowed.target x kind result borrows
  operand := by
    intro x operand
    obtain ⟨bound, guarded⟩ := allowed.operand x operand
    rw [h.binds, bound, h.isImmutable]
    exact ⟨Bool.or_true _, guarded⟩
  result := by
    intro x result
    have other : x ≠ n := fun same => unbound (same ▸ result)
    rw [h.binds, allowed.result x result, beq_eq_false_iff_ne.mpr other]
    rfl

theorem after (allowed : s.Allows checkBindings act) (unbound : act.result? ≠ some n) :
    (s.after act).Besides n (s'.after act) := by
  cases result : act.result? with
  | none =>
    rw [after_of_no_result result, after_of_no_result result]
    exact h
  | some x =>
    rw [after_of_free result (allowed.result x result),
      after_of_free result ((h.allows allowed unbound).result x result)]
    have pointer : Besides n { s with pointers := x :: s.pointers }
        { s' with pointers := x :: s'.pointers } := by
      refine ⟨h.allocations, fun y => ?_⟩
      rw [List.contains_cons, List.contains_cons, h.pointers, Bool.or_left_comm]
    cases act with
    | declare _ _ isMutable interiorMutable =>
      exact ⟨congrArg ((x, isMutable || interiorMutable) :: ·) h.allocations, h.pointers⟩
    | _ => exact pointer

theorem issuesFrom {l : List Operation} {index : Nat}
    (clean : Scope.issuesFrom checkBindings s index l = [])
    (unbound : ∀ op ∈ l, op.action.result? ≠ some n) (index' : Nat) :
    Scope.issuesFrom checkBindings s' index' l = [] := by
  induction l generalizing s s' index index' with
  | nil => rfl
  | cons op l ih =>
    obtain ⟨here, later⟩ := List.append_eq_nil_iff.mp clean
    obtain ⟨first, rest⟩ := List.forall_mem_cons.mp unbound
    have allowed := issues_eq_nil.mp here
    rw [Scope.issuesFrom, List.append_eq_nil_iff]
    exact ⟨issues_eq_nil.mpr (h.allows allowed first), ih (h.after allowed first) later rest _⟩

end Besides

/-- A pass that reports nothing still reports nothing when a pointer is made under a new name. -/
theorem issuesFrom_insertIdx {l : List Operation} {index k : Nat} {op : Operation}
    (clean : issuesFrom checkBindings s index l = [])
    (allowed : (s.afterAll (l.take k)).Allows checkBindings op.action)
    (grows : ∀ t : Scope, t.Allows checkBindings op.action → t.Besides n (t.after op.action))
    (unbound : ∀ op ∈ l, op.action.result? ≠ some n) :
    issuesFrom checkBindings s index (l.insertIdx k op) = [] := by
  induction l generalizing s index k with
  | nil =>
    cases k with
    | zero => exact List.append_eq_nil_iff.mpr ⟨issues_eq_nil.mpr allowed, rfl⟩
    | succ k => rfl
  | cons first l ih =>
    cases k with
    | zero =>
      exact List.append_eq_nil_iff.mpr
        ⟨issues_eq_nil.mpr allowed, (grows s allowed).issuesFrom clean unbound (index + 1)⟩
    | succ k =>
      obtain ⟨here, later⟩ := List.append_eq_nil_iff.mp clean
      exact List.append_eq_nil_iff.mpr
        ⟨here, ih later allowed fun op inside => unbound op (List.mem_cons_of_mem _ inside)⟩

end Scope

namespace Program

/-- The program with one more operation, at an index. -/
def insert (p : Program) (k : Nat) (op : Operation) : Program :=
  { p with operations := p.operations.insertIdx k op }

/-- The operation makes a pointer under a name that cannot change memory: a shared borrow of a variable
    that is declared before an index, or a cast to an integer of what is bound before it. -/
inductive Inert (p : Program) (k : Nat) (n : String) : Action → Prop
  | borrow {x : String} (declared : (p.take k).Declares x) : p.Inert k n (.borrow x .shared n)
  | toInteger {source : String} (bound : (p.take k).Binds source) : p.Inert k n (.toInteger source n)

variable {p : Program} {o : CheckOptions} {k : Nat} {n : String} {op : Operation}

theorem Inert.result {act : Action} (inert : p.Inert k n act) : act.result? = some n := by
  cases inert <;> rfl

/-- A new name is bound neither by an operation nor used by one. -/
theorem unused_of_fresh {checkBindings : Bool} (clean : p.WellFormed checkBindings)
    (fresh : ¬ p.Binds n) {i : Nat} {act : Operation} (here : p.operations[i]? = some act) :
    act.action.operand? ≠ some n ∧ act.action.result? ≠ some n := by
  refine ⟨fun operand => fresh ?_, fun result => fresh ⟨act, List.mem_of_getElem? here, result⟩⟩
  have bound := Scope.operand_bound (Scope.issues_of_issuesFrom clean here) operand
  rcases Scope.binds_afterAll bound with before | ⟨op, inside, binds⟩
  · cases before
  · exact ⟨op, List.mem_of_mem_take inside, binds⟩

theorem Inert.allowed {checkBindings : Bool} {act : Action} (inert : p.Inert k n act)
    (clean : p.WellFormed checkBindings) (fresh : ¬ p.Binds n) :
    (Scope.empty.afterAll (p.operations.take k)).Allows checkBindings act := by
  have free : (Scope.empty.afterAll (p.operations.take k)).binds n = false := by
    by_contra bound
    rcases Scope.binds_afterAll (Bool.eq_true_of_not_eq_false bound) with before | ⟨op, inside, binds⟩
    · cases before
    · exact fresh ⟨op, List.mem_of_mem_take inside, binds⟩
  have result : ∀ x, act.result? = some x →
      (Scope.empty.afterAll (p.operations.take k)).binds x = false := by
    intro x binds
    rw [inert.result, Option.some.injEq] at binds
    exact binds ▸ free
  cases inert with
  | borrow declared =>
    refine ⟨?_, nofun, result⟩
    rintro x kind _ same
    cases same
    exact ⟨Scope.hasAllocation_afterAll (clean.take k) (.inr declared), nofun⟩
  | toInteger bound =>
    refine ⟨nofun, ?_, result⟩
    rintro x same
    cases same
    exact ⟨Scope.binds_afterAll_of_mem (.inr bound), nofun⟩

theorem Inert.grows {checkBindings : Bool} {act : Action} (inert : p.Inert k n act) (s : Scope)
    (allowed : s.Allows checkBindings act) : s.Besides n (s.after act) := by
  rw [Scope.after_of_free inert.result (allowed.result n inert.result)]
  cases inert <;> exact ⟨rfl, fun x => List.contains_cons⟩

/-- The program stays well formed. -/
theorem Inert.wellFormed_insert {checkBindings : Bool} (inert : p.Inert k n op.action)
    (clean : p.WellFormed checkBindings) (fresh : ¬ p.Binds n) :
    (p.insert k op).WellFormed checkBindings :=
  Scope.issuesFrom_insertIdx clean (inert.allowed clean fresh) inert.grows
    fun op inside result => fresh ⟨op, inside, result⟩

end Program

/-! ## The operation itself -/

namespace Program

variable {p : Program} {o : CheckOptions} {k : Nat} {n : String} {op : Operation} {m m' : Machine}

/-- The operation is carried out, and the machine after it is beside the machine before. -/
theorem Inert.change_beside {after : Machine} (inert : p.Inert k n op.action) (hm : m.Valid)
    (unbound : ∀ x ∈ m.pointers, x.1 ≠ n) (past : ∀ o ∈ m.reads, o.index < m.pc)
    (change : m.Change op.action after) : ∃ e ρ, m.Beside n m.pc e ρ (after.advance op) := by
  obtain ⟨action, location⟩ := op
  cases inert with
  | borrow declared =>
    cases change with
    | @derive _ kind result q a f derives found present tagged enabled =>
      cases derives with
      | borrow resolved =>
        have shared : f.permission.derive .shared a.interiorMutable ≠ .unique := by
          cases a.interiorMutable <;> simp [Permission.derive]
        exact ⟨_, _, hm.beside_derived unbound past found present shared _⟩
    | untagged derives noTag =>
      cases derives with
      | borrow resolved => exact ⟨_, _, hm.beside_bind unbound past _ _⟩
    | write writes => cases writes
  | toInteger bound =>
    cases change with
    | derive derives => cases derives
    | untagged derives => cases derives
    | toInteger resolved => exact ⟨_, _, hm.beside_bind unbound past _ _⟩
    | write writes => cases writes

theorem Inert.not_faults (inert : p.Inert k n op.action) (hm : m.Valid) {fault : AccessFault} :
    ¬ m.Faults op.action fault := by
  obtain ⟨action, location⟩ := op
  cases inert with
  | borrow declared => exact Machine.not_faults_borrow hm
  | toInteger bound =>
    intro faults
    have broken := faults.rule_mem hm
    cases broken

end Program

/-! ## Runs -/

/-- What was read before was read by an earlier operation. -/
theorem Run.reads_past {r : Run} {n : Nat} {m : Machine} (h : r.state? n = some m) :
    ∀ o ∈ m.reads, o.index < n := by
  induction n generalizing m with
  | zero =>
    rw [(state?_zero h).2]
    nofun
  | succ n ih =>
    obtain ⟨before, op, after, found, -, change, rfl⟩ := state?_succ h
    intro o inside
    rcases change.reads with ⟨-, same⟩ | ⟨source, binding, p, a, -, -, -, grown⟩
    · exact Nat.lt_succ_of_lt (ih found o (same ▸ inside))
    · rcases List.mem_append.mp (grown ▸ inside) with old | new
      · exact Nat.lt_succ_of_lt (ih found o old)
      · rw [List.mem_singleton.mp new, (reached found).pc]
        exact Nat.lt_succ_self n

namespace Program

variable {p : Program} {o : CheckOptions} {k : Nat} {n : String} {op : Operation} {m : Machine}

/-- Up to the inserted operation the runs are the same. -/
theorem state?_insert (clean : (p.insert k op).WellFormed o.checkBindings) {i : Nat} (before : i ≤ k)
    (found : (p.run o).state? i = some m) :
    ∃ trail, ((p.insert k op).run o).state? i = some (m.within (p.insert k op) false trail) :=
  Run.state?_within (r := p.run o) (s := (p.insert k op).run o) clean rfl
    (fun _ earlier => List.getElem?_insertIdx_of_lt (Nat.lt_of_lt_of_le earlier before)) found

/-- From the inserted operation on, the run is beside the run without it. -/
theorem beside_insert (clean : p.WellFormed o.checkBindings) (place : k ≤ p.length)
    (fresh : ¬ p.Binds n) (inert : p.Inert k n op.action) : ∃ e ρ, ∀ i m, k ≤ i →
      (p.run o).state? i = some m →
      ∃ m', ((p.insert k op).run o).state? (i + 1) = some m' ∧ m.Beside n k e ρ m' := by
  have clean' := inert.wellFormed_insert clean fresh
  cases reaches : (p.run o).state? k with
  | none =>
    refine ⟨⟨-1⟩, Equiv.refl Tag, fun i m later found => ?_⟩
    have reaches' := Run.state?_earlier later (by rw [found]; rfl)
    rw [reaches] at reaches'
    cases reaches'
  | some start =>
    have old := Run.reached reaches
    -- the operation is carried out in the state before it
    obtain ⟨trail, before⟩ := state?_insert clean' (Nat.le_refl k) reaches
    have valid : (start.within (p.insert k op) false trail).Valid := (Run.reached before).valid
    have here : (p.insert k op).operations[k]? = some op :=
      List.getElem?_insertIdx_self.trans (if_pos place)
    have first : ∃ e ρ m', ((p.insert k op).run o).state? (k + 1) = some m' ∧
        start.Beside n k e ρ m' := by
      rcases (Run.ready clean' before here).cases valid with ⟨after, change⟩ | ⟨fault, faults⟩
      · have unbound : ∀ x ∈ start.pointers, x.1 ≠ n := fun x inside same =>
          fresh (same ▸ Run.binds_of_names reaches (Machine.names_of_pointer inside))
        have past : ∀ o ∈ start.reads, o.index < start.pc := by
          rw [old.pc]
          exact Run.reads_past reaches
        obtain ⟨e, ρ, beside⟩ := inert.change_beside valid unbound past change
        refine ⟨e, ρ, _, Run.state?_of_change before here change, ?_⟩
        have pc : start.pc = k := old.pc
        have passed := beside.passed
        exact ⟨beside.allocations, beside.pointers, pc ▸ beside.reads, beside.supply, beside.older,
          beside.externalValue, beside.pc, Nat.le_of_eq pc.symm⟩
      · exact absurd faults (inert.not_faults valid)
    obtain ⟨e, ρ, m', found', beside⟩ := first
    refine ⟨e, ρ, fun i m later found => ?_⟩
    induction i, later using Nat.le_induction generalizing m with
    | base =>
      rw [reaches, Option.some.injEq] at found
      exact ⟨m', found', found ▸ beside⟩
    | succ i later ih =>
      obtain ⟨before, act, after, reached, here, change, rfl⟩ := Run.state?_succ found
      obtain ⟨m', found', beside⟩ := ih before reached
      have here' : (p.insert k op).operations[i + 1]? = some act := by
        rw [insert, List.getElem?_insertIdx_of_gt (by omega)]
        exact here
      obtain ⟨unused, unbound⟩ := unused_of_fresh clean fresh here
      obtain ⟨after', change', beside'⟩ := beside.change (Run.reached reached).valid
        (Run.reached found').valid unused unbound (Run.ready clean' found' here') change
      exact ⟨_, Run.state?_of_change found' here' change', beside'.allocations, beside'.pointers,
        beside'.reads, beside'.supply, beside'.older, beside'.externalValue,
        congrArg (· + 1) beside'.pc, Nat.le_succ_of_le beside'.passed⟩

/-- Pointers that are not used are invisible. A shared borrow of a variable that is declared before, or
    a cast to an integer of what is bound before, may be inserted anywhere in a well-formed program,
    under a name that the program does not bind: the program stays well formed, up to there its run
    stays the same, and from there on the two runs differ in the names of tags and in one idle tag.
    Both programs are sound, with the same final values and the same observations, or the same
    operation breaks the same rule on the same allocation in both; indices are one higher from the
    inserted operation on. -/
theorem check_insert (clean : p.WellFormed o.checkBindings) (place : k ≤ p.length)
    (fresh : ¬ p.Binds n) (inert : p.Inert k n op.action) :
    (p.insert k op).WellFormed o.checkBindings ∧
    (∀ i m, i ≤ k → (p.run o).state? i = some m →
      ∃ trail, ((p.insert k op).run o).state? i = some (m.within (p.insert k op) false trail)) ∧
    ∃ e ρ, (∀ i m, k ≤ i → (p.run o).state? i = some m →
        ∃ m', ((p.insert k op).run o).state? (i + 1) = some m' ∧ m.Beside n k e ρ m') ∧
      ((∃ values reads, p.check o = .ok (.sound p.name p.length values reads) ∧
          (p.insert k op).check o =
            .ok (.sound p.name (p.length + 1) values (reads.map (Observation.shift k)))) ∨
        ∃ v w, p.check o = .ok (.violation v) ∧ (p.insert k op).check o = .ok (.violation w) ∧
          w.rule = v.rule ∧ w.allocation = v.allocation ∧
          w.fault.operation = v.fault.operation ∧
          w.index = (if k ≤ v.index then v.index + 1 else v.index) ∧
          (v.index < k → w.fault = v.fault) ∧
          (k ≤ v.index → v.fault.access.Beside e ρ w.fault.access)) := by
  have clean' := inert.wellFormed_insert clean fresh
  obtain ⟨e, ρ, follows⟩ := beside_insert clean place fresh inert
  refine ⟨clean', fun i m before found => state?_insert clean' before found, e, ρ, follows, ?_⟩
  have length : (p.insert k op).length = p.length + 1 := List.length_insertIdx_of_le_length place op
  rcases check_cases clean with ⟨last, done⟩ | ⟨i, m, act, fault, found, here, faults⟩
  · obtain ⟨last', done', beside⟩ := follows _ _ place done
    have values : last'.store.values = last.store.values := by
      have same : List.Forall₂ (· = ·) last.store.values last'.store.values :=
        List.forall₂_map_left_iff.mpr <| List.forall₂_map_right_iff.mpr <|
          beside.allocations.imp fun a b side => Prod.ext side.name.symm side.value.symm
      exact (List.forall₂_eq_eq_eq ▸ same).symm
    rw [← length] at done'
    have sound' := check_of_done done'
    rw [values, beside.reads, length] at sound'
    exact .inl ⟨_, _, check_of_done done, sound'⟩
  · right
    by_cases before : i < k
    · obtain ⟨trail, found'⟩ := state?_insert clean' (Nat.le_of_lt before) found
      have here' : (p.insert k op).operations[i]? = some act :=
        (List.getElem?_insertIdx_of_lt before).trans here
      exact ⟨_, _, check_of_faults found here faults,
        check_of_faults found' here' (faults.within _ _ _), rfl, rfl, rfl,
        (if_neg (Nat.not_le.mpr before)).symm, fun _ => rfl,
        fun later => absurd before (Nat.not_lt.mpr later)⟩
    · have later : k ≤ i := Nat.le_of_not_lt before
      obtain ⟨m', found', beside⟩ := follows i m later found
      have here' : (p.insert k op).operations[i + 1]? = some act := by
        rw [insert, List.getElem?_insertIdx_of_gt (by omega)]
        exact here
      obtain ⟨unused, -⟩ := unused_of_fresh clean fresh here
      obtain ⟨fault', faults', a, b, side, quoted, quoted'⟩ := beside.faults (Run.reached found).valid
        (Run.reached found').valid unused faults
      refine ⟨_, _, check_of_faults found here faults, check_of_faults found' here' faults', ?_, ?_,
        rfl, (if_pos later).symm, fun early => absurd early before, fun _ =>
          ⟨a, b, side, quoted, quoted'⟩⟩
      · show fault'.cause.rule = fault.cause.rule
        rw [quoted', ← FaultCause.rule_relabel ρ fault.cause]
        rfl
      · show fault'.allocation = fault.allocation
        rw [quoted', quoted]
        exact side.name

/-- A unique borrow that a read of its variable disables before it is written. -/
def disabledBorrow : Program := (Run.ofActions [.declare "x" 0 true false, .borrow "x" .unique "m",
  .read "x" none, .write "m" 1]).program

/-- A borrow that nothing uses. -/
def sharedBorrow : Operation := ⟨.borrow "x" .shared "r", none⟩

theorem check_insert_disabledBorrow : ∃ v w, disabledBorrow.check {} = .ok (.violation v) ∧
    (disabledBorrow.insert 2 sharedBorrow).check {} = .ok (.violation w) ∧
    v.index = 3 ∧ w.index = 4 ∧ w.rule = v.rule := by
  have fresh : ¬ disabledBorrow.Binds "r" := by
    unfold Binds
    decide
  have clean : disabledBorrow.WellFormed ({} : CheckOptions).checkBindings := rfl
  have inert : disabledBorrow.Inert 2 "r" sharedBorrow.action :=
    .borrow ⟨_, List.mem_cons_self, _, _, _, rfl⟩
  obtain ⟨-, -, e, ρ, -, ⟨values, reads, sound, -⟩ | ⟨v, w, violated, violated', rule, -, -, index,
    -⟩⟩ := check_insert (o := {}) clean (by decide) fresh inert
  · cases sound
  · cases violated
    exact ⟨_, w, rfl, violated', rfl, index, rule⟩

end Program

end PointerTrace
