import Mathlib.Data.Nat.Find
import PointerTrace.Proofs.Mirror
import PointerTrace.Proofs.Numerals
import PointerTrace.Proofs.ReachableStore
import PointerTrace.Proofs.Verdict

/- Variables do not interfere. Along the run of a program, the run of its restriction to a name goes
   through the states that mirror it (`Program.mirrored`): it makes a step where the operation is about
   the variable and stands still otherwise. So the two get to their ends together, and the fault of a
   program is the first among the faults of its restrictions (`Program.FirstFault`). What is reported
   of them agrees with that unless the first fault cannot be quoted (`Program.report_restrict`). -/
namespace PointerTrace

/-! ## Declared variables -/

theorem Machine.Change.has {m m' : Machine} {act : Action} (change : m.Change act m') {name : String}
    (has : m.store.has name = true) : m'.store.has name = true := by
  rw [Store.has_iff, change.names]
  exact List.mem_append_left _ (Store.has_iff.mp has)

/-- A variable is there once its declaration was carried out. -/
theorem Run.has_of_declare {r : Run} {k n : Nat} {m : Machine} {op : Operation} {name : String}
    {value : Int} {isMutable interiorMutable : Bool} (h : r.state? n = some m)
    (here : r.program.operations[k]? = some op) (earlier : k < n)
    (declares : op.action = .declare name value isMutable interiorMutable) :
    m.store.has name = true := by
  induction earlier generalizing m with
  | refl =>
    obtain ⟨before, op', after, -, here', change, rfl⟩ := state?_succ h
    rw [here, Option.some.injEq] at here'
    subst here'
    have names := change.names
    rw [declares] at names
    have inside : name ∈ after.store.names := names ▸ List.mem_append_right _ List.mem_cons_self
    exact Store.has_iff.mpr inside
  | step earlier ih =>
    obtain ⟨before, op', after, found, -, change, rfl⟩ := state?_succ h
    exact change.has (ih found)

/-- The values of a store, by name. -/
theorem Store.lookup_values (s : Store) (name : String) :
    s.values.lookup name = (s.named? name).map Allocation.value := by
  unfold values named?
  induction s.allocations with
  | nil => rfl
  | cons a l ih =>
    rw [List.map_cons, List.lookup_cons, ih, List.find?_cons]
    by_cases same : a.name = name
    · simp [same]
    · have apart : (name == a.name) = false := beq_eq_false_iff_ne.mpr (Ne.symm same)
      simp [same, apart]

namespace Program

variable {p : Program} {o : CheckOptions} {name : String} {n : Nat} {m : Machine} {op : Operation}

/-! ## The run of a restriction -/

/-- The number of operations about a variable among the first ones. -/
def countBefore (p : Program) (name : String) (n : Nat) : Nat :=
  p.operations.countPBefore (p.concerns name) n

theorem countBefore_length (p : Program) (name : String) :
    p.countBefore name p.length = (p.restrict name).length := by
  show p.operations.countPBefore (p.concerns name) p.operations.length =
    (p.operations.filter (p.concerns name)).length
  rw [List.countPBefore_length, List.countP_eq_length_filter]

theorem indexOf_countBefore (here : p.operations[n]? = some op) (own : p.concerns name op = true) :
    p.indexOf name (p.countBefore name n) = n := by
  obtain ⟨short, rfl⟩ := List.getElem?_eq_some_iff.mp here
  exact List.findIdxNth_countPBefore_of_lt_length_of_pos own

/-- The operation at an index of a restriction. -/
theorem getElem?_indexOf {k : Nat} (here : (p.restrict name).operations[k]? = some op) :
    p.countBefore name (p.indexOf name k) = k ∧ p.operations[p.indexOf name k]? = some op ∧
      p.concerns name op = true := by
  have short : k < p.operations.countP (p.concerns name) := by
    rw [List.countP_eq_length_filter]
    exact (List.getElem?_eq_some_iff.mp here).1
  have inside : p.indexOf name k < p.operations.length :=
    List.findIdxNth_lt_length_of_lt_countP short
  have own : p.concerns name (p.operations[p.indexOf name k]) = true := List.pos_findIdxNth_getElem
  have count : p.countBefore name (p.indexOf name k) = k :=
    List.countPBefore_findIdxNth_of_lt_countP short
  have kept := getElem?_filter_countPBefore (List.getElem?_eq_getElem inside) own
  rw [show p.operations.countPBefore (p.concerns name) (p.indexOf name k) = k from count,
    show (p.operations.filter (p.concerns name))[k]? = some op from here, Option.some.injEq] at kept
  exact ⟨count, by rw [List.getElem?_eq_getElem inside, kept], kept ▸ own⟩

/-- Along the run of a program the run of a restriction goes through the states that mirror it. -/
theorem mirrored (name : String) (h : (p.run o).state? n = some m) :
    ∃ ρ m', ((p.restrict name).run o).state? (p.countBefore name n) = some m' ∧
      m'.Mirrors m p.derivation name ρ := by
  have clean : p.WellFormed o.checkBindings := Run.wellFormed h
  induction n generalizing m with
  | zero =>
    rw [(Run.state?_zero h).2]
    refine ⟨Equiv.refl Tag, .start (p.restrict name) o.externalValue false, ?_, rfl, rfl, rfl, rfl⟩
    have none_before : p.countBefore name 0 = 0 := List.countPBefore_zero
    rw [none_before]
    exact Run.state?_start (r := (p.restrict name).run o) (restrict_wellFormed clean name)
  | succ n ih =>
    obtain ⟨before, op, after, found, here, change, rfl⟩ := Run.state?_succ h
    obtain ⟨ρ, m', found', mirrors⟩ := ih found
    have valid := (Run.reached found).valid
    have traced := Run.traced found
    have fits : ∀ x d, op.action.derived? p.derivation = some (x, d) → p.derivation x = d :=
      fun _ _ derived => derivation_eq clean (List.mem_of_getElem? here) derived
    have count : p.countBefore name (n + 1) = _ := countPBefore_next here
    cases own : p.concerns name op with
    | true =>
      -- the operation is the next one of the restriction
      have subject : op.action.subject p.derivation = name := by simpa [concerns] using own
      obtain ⟨σ, after', change', mirrors'⟩ := mirrors.change_own valid (Run.reached found').valid
        traced (Run.names_distinct found) fits subject change
      have here' := getElem?_filter_countPBefore here own
      rw [count, own, if_pos rfl]
      exact ⟨σ, _, Run.state?_of_change found' here' change', mirrors'.allocations,
        mirrors'.pointers, mirrors'.reads, mirrors'.externalValue⟩
    | false =>
      have other : op.action.subject p.derivation ≠ name := by simpa [concerns] using own
      have mirrors' := mirrors.change_other valid traced fits other change
      rw [count, own, if_neg Bool.false_ne_true]
      exact ⟨ρ, m', found', mirrors'.allocations, mirrors'.pointers, mirrors'.reads,
        mirrors'.externalValue⟩

/-! ## Ends -/

/-- Where a program gets behind its last operation, so does its restriction, with the same final
    value of the variable and the same values read from it. -/
theorem restrict_of_done {last : Machine} (h : (p.run o).state? p.length = some last)
    (declares : p.Declares name) : ∃ value reads,
      (p.restrict name).check o =
        .ok (.sound p.name (p.restrict name).length [(name, value)] reads) ∧
      last.store.values.lookup name = some value ∧
      (last.reads.filter fun seen => seen.allocation = name).map Observation.value =
        reads.map Observation.value := by
  obtain ⟨ρ, m', found, mirrors⟩ := mirrored name h
  rw [countBefore_length] at found
  obtain ⟨op, inside, value, isMutable, interiorMutable, declare⟩ := declares
  obtain ⟨k, here⟩ := List.mem_iff_getElem?.mp inside
  have has := Run.has_of_declare h here (List.getElem?_eq_some_iff.mp here).1 declare
  obtain ⟨a, named⟩ := Option.isSome_iff_exists.mp has
  have values : m'.store.values = [(name, a.value)] := by
    rw [Store.values, mirrors.allocations, named]
    exact congrArg (fun x => [(x, a.value)]) (show a.name = name from Store.name_of_named? named)
  refine ⟨a.value, m'.reads, ?_, ?_, mirrors.reads.symm⟩
  · rw [check_of_done found, values]
    rfl
  · rw [Store.lookup_values, named]
    rfl

/-- Where a program comes to an operation at fault, so does the restriction to the variable that
    the operation is about. -/
theorem restrict_of_faults {fault : AccessFault} (h : (p.run o).state? n = some m)
    (here : p.operations[n]? = some op) (faults : m.Faults op.action fault) :
    p.Declares fault.allocation ∧ p.concerns fault.allocation op = true ∧
      ∃ w, (p.restrict fault.allocation).check o = .ok (.violation w) ∧
        p.indexOf fault.allocation w.index = n ∧ w.rule = fault.rule ∧ w.fault.operation = op := by
  have old := Run.reached h
  have traced := Run.traced h
  have distinct := Run.names_distinct h
  obtain ⟨ρ, m', found, mirrors⟩ := mirrored (op.action.subject p.derivation) h
  obtain ⟨about, fault', faults', rule⟩ :=
    mirrors.faults old.valid (Run.reached found).valid traced distinct rfl faults
  have own : p.concerns fault.allocation op = true := by simp [concerns, about]
  rw [← about] at found
  have here' := getElem?_filter_countPBefore here own
  refine ⟨?_, own, _, check_of_faults found here' faults', indexOf_countBefore here own, rule, rfl⟩
  obtain ⟨id, a, placed, same⟩ := faults.named
  obtain ⟨root, above, bottom, -⟩ := (old.valid.store.get? placed).1.rooted
  obtain ⟨i, declaring, value, isMutable, -, there, declares, -⟩ := Run.declared_at
    (Run.allocation?_eq_some.mpr ⟨m, h, placed⟩) (by rw [bottom]; rfl)
  exact ⟨declaring, List.mem_of_getElem? there, value, isMutable, a.interiorMutable, same ▸ declares⟩

/-- No restriction is at fault for an operation that the program gets through. -/
theorem le_indexOf (h : (p.run o).state? n = some m) {w : Violation}
    (violated : (p.restrict name).check o = .ok (.violation w)) : n ≤ p.indexOf name w.index := by
  by_contra beyond
  -- the program goes on after that operation, and so would the restriction after its fault
  obtain ⟨m₁, found, here, faults⟩ := faults_of_check violated
  obtain ⟨count, there, own⟩ := getElem?_indexOf here
  obtain ⟨later, next⟩ := Option.isSome_iff_exists.mp
    (Run.state?_earlier (n := p.indexOf name w.index + 1) (k := n) (by omega) (by rw [h]; rfl))
  obtain ⟨ρ, m', found', -⟩ := mirrored name next
  have following : p.countBefore name (p.indexOf name w.index + 1) = _ := countPBefore_next there
  rw [following, own, if_pos rfl, show List.countPBefore _ _ _ = w.index from count,
    Run.state?_of_stepped found (Run.step_of_execute found here faults.execute)] at found'
  cases found'

/-! ## The first fault -/

/-- The restriction to a variable has the first of the faults that the restrictions have. -/
def FirstFault (p : Program) (o : CheckOptions) (a : String) (w : Violation) : Prop :=
  p.Declares a ∧ (p.restrict a).check o = .ok (.violation w) ∧
    ∀ b w', p.Declares b → (p.restrict b).check o = .ok (.violation w') →
      p.indexOf a w.index ≤ p.indexOf b w'.index

/-- The fault of a program is the first of its restrictions, on the same variable. -/
theorem firstFault_of_check {v : Violation} (checked : p.check o = .ok (.violation v)) :
    ∃ w, p.FirstFault o v.allocation w ∧ p.indexOf v.allocation w.index = v.index ∧
      w.rule = v.rule ∧ w.fault.operation = v.fault.operation := by
  obtain ⟨m, found, here, faults⟩ := faults_of_check checked
  obtain ⟨declares, -, w, violated, index, rule, operation⟩ := restrict_of_faults found here faults
  refine ⟨w, ⟨declares, violated, fun b w' _ violated' => ?_⟩, index, rule, operation⟩
  exact index ▸ le_indexOf found violated'

/-- The first fault of the restrictions is the fault of the program. -/
theorem check_of_firstFault (clean : p.WellFormed o.checkBindings) {a : String} {w : Violation}
    (first : p.FirstFault o a w) : ∃ v, p.check o = .ok (.violation v) ∧
      v.index = p.indexOf a w.index ∧ v.allocation = a ∧ v.rule = w.rule ∧
      v.fault.operation = w.fault.operation := by
  obtain ⟨declares, violated, least⟩ := first
  rcases check_cases clean with ⟨last, done⟩ | ⟨n, m, op, fault, found, here, faults⟩
  · obtain ⟨value, reads, sound, -, -⟩ := restrict_of_done done declares
    rw [violated] at sound
    cases sound
  · -- the program's own fault comes first as well, so that the two are of one operation
    obtain ⟨declares₀, own₀, w₀, violated₀, index, rule, operation⟩ :=
      restrict_of_faults found here faults
    have same : n = p.indexOf a w.index :=
      Nat.le_antisymm (le_indexOf found violated) (index ▸ least _ w₀ declares₀ violated₀)
    obtain ⟨m', -, here', -⟩ := faults_of_check violated
    obtain ⟨-, there, own⟩ := getElem?_indexOf here'
    rw [← same, here, Option.some.injEq] at there
    rw [← there] at own
    have about : fault.allocation = a := by
      simp only [concerns, decide_eq_true_eq] at own₀ own
      exact own₀.symm.trans own
    subst about
    rw [violated, Except.ok.injEq, Verdict.violation.injEq] at violated₀
    subst violated₀
    exact ⟨_, check_of_faults found here faults, same, rfl, rule.symm, operation.symm⟩

/-- A program is found sound exactly if its restriction to every declared variable is. -/
theorem sound_iff_restrict (clean : p.WellFormed o.checkBindings) :
    (∃ v, p.check o = .ok v ∧ v.isSound = true) ↔
      ∀ name, p.Declares name → ∃ v, (p.restrict name).check o = .ok v ∧ v.isSound = true := by
  constructor
  · rintro ⟨v, checked, sound⟩ name declares
    cases v with
    | violation => cases sound
    | sound program steps values reads =>
      obtain ⟨last, done, -, -⟩ := done_of_check checked
      obtain ⟨value, reads', checked', -, -⟩ := restrict_of_done done declares
      exact ⟨_, checked', rfl⟩
  · intro all
    rcases check_cases clean with ⟨last, done⟩ | ⟨n, m, op, fault, found, here, faults⟩
    · exact ⟨_, check_of_done done, rfl⟩
    · obtain ⟨declares, -, w, violated, -, -, -⟩ := restrict_of_faults found here faults
      obtain ⟨v, checked, sound⟩ := all _ declares
      rw [violated, Except.ok.injEq] at checked
      subst checked
      cases sound

/-! ## Reports -/

/-- The program is reported to break a rule with the operation at an index, on a variable. -/
def Reports (p : Program) (o : CheckOptions) (i : Nat) (a : String) (rule : Rule) : Prop :=
  ∃ v, p.report o = .ok (.violation v) ∧ v.index = i ∧ v.allocation = a ∧ v.rule = rule

/-- The restriction to a variable is reported to break a rule with the operation that stands at an
    index of the program, and no restriction is reported for an earlier one. -/
def ReportsFirst (p : Program) (o : CheckOptions) (i : Nat) (a : String) (rule : Rule) : Prop :=
  p.Declares a ∧
    (∃ w, (p.restrict a).report o = .ok (.violation w) ∧ p.indexOf a w.index = i ∧ w.rule = rule) ∧
    ∀ b w, p.Declares b → (p.restrict b).report o = .ok (.violation w) → i ≤ p.indexOf b w.index

/-- The program is reported for the first fault if the restriction that has it is. -/
theorem reports_iff_firstFault (clean : p.WellFormed o.checkBindings) (i : Nat) (a : String)
    (rule : Rule) : p.Reports o i a rule ↔ ∃ w, p.FirstFault o a w ∧
      (p.restrict a).report o = .ok (.violation w) ∧ p.indexOf a w.index = i ∧ w.rule = rule := by
  constructor
  · rintro ⟨v, reported, rfl, rfl, rfl⟩
    obtain ⟨checked, writable⟩ := report_violation.mp reported
    obtain ⟨w, first, index, rule, operation⟩ := firstFault_of_check checked
    exact ⟨w, first, report_violation.mpr ⟨first.2.1, operation ▸ writable⟩, index, rule⟩
  · rintro ⟨w, first, reported, rfl, rfl⟩
    obtain ⟨v, checked, index, about, rule, operation⟩ := check_of_firstFault clean first
    have writable := (report_violation.mp reported).2
    exact ⟨v, report_violation.mpr ⟨checked, operation ▸ writable⟩, index, about, rule⟩

/-- The program is not reported on if the restriction with the first fault is not. -/
theorem unquotable_iff_firstFault (clean : p.WellFormed o.checkBindings) :
    p.report o = .error .unquotable ↔
      ∃ a w, p.FirstFault o a w ∧ (p.restrict a).report o = .error .unquotable := by
  constructor
  · intro missing
    obtain ⟨v, checked, unwritable⟩ := report_eq_unquotable.mp missing
    obtain ⟨w, first, -, -, operation⟩ := firstFault_of_check checked
    exact ⟨_, w, first, report_eq_unquotable.mpr ⟨w, first.2.1, operation ▸ unwritable⟩⟩
  · rintro ⟨a, w, first, missing⟩
    obtain ⟨v, checked, -, -, -, operation⟩ := check_of_firstFault clean first
    obtain ⟨w', violated, unwritable⟩ := report_eq_unquotable.mp missing
    rw [first.2.1, Except.ok.injEq, Verdict.violation.injEq] at violated
    subst violated
    exact report_eq_unquotable.mpr ⟨v, checked, operation ▸ unwritable⟩

/-- If a restriction is reported to break a rule, one of them is reported first. -/
theorem exists_reportsFirst {a : String} {w : Violation} (declares : p.Declares a)
    (reported : (p.restrict a).report o = .ok (.violation w)) :
    ∃ i b rule, p.ReportsFirst o i b rule := by
  classical
  have some : ∃ i b w, p.Declares b ∧ (p.restrict b).report o = .ok (.violation w) ∧
      p.indexOf b w.index = i := ⟨_, a, w, declares, reported, rfl⟩
  obtain ⟨b, w₀, declares₀, reported₀, index⟩ := Nat.find_spec some
  exact ⟨_, b, w₀.rule, declares₀, ⟨w₀, reported₀, index, rfl⟩, fun c w' declares' reported' =>
    Nat.find_min' some ⟨c, w', declares', reported', rfl⟩⟩

/-- What is reported first of the restrictions is reported of the program, unless nothing is. -/
theorem reports_of_reportsFirst (clean : p.WellFormed o.checkBindings) {i : Nat} {a : String}
    {rule : Rule} (first : p.ReportsFirst o i a rule) (stated : p.report o ≠ .error .unquotable) :
    p.Reports o i a rule := by
  obtain ⟨declares, ⟨w, reported, rfl, rfl⟩, least⟩ := first
  have violated := (report_violation.mp reported).1
  refine (reports_iff_firstFault clean _ _ _).mpr ⟨w, ⟨declares, violated, ?_⟩, reported, rfl, rfl⟩
  intro b w' declares' violated'
  -- the program has a fault, and what it is reported for is reported of a restriction
  cases checked : p.check o with
  | error failure =>
    rcases check_cases clean with ⟨last, done⟩ | ⟨n, m, op, fault, found, here, faults⟩
    · rw [check_of_done done] at checked
      cases checked
    · rw [check_of_faults found here faults] at checked
      cases checked
  | ok v =>
    cases v with
    | sound =>
      obtain ⟨v, checked', sound⟩ := (sound_iff_restrict clean).mp ⟨_, checked, rfl⟩ a declares
      rw [violated, Except.ok.injEq] at checked'
      subst checked'
      cases sound
    | violation v =>
      obtain ⟨w₀, first₀, index₀, -, operation₀⟩ := firstFault_of_check checked
      have writable : v.fault.operation.action.isWritable = true := by
        by_contra unwritable
        exact stated (report_eq_unquotable.mpr ⟨v, checked, by simpa using unwritable⟩)
      have reported₀ := report_violation.mpr ⟨first₀.2.1, operation₀ ▸ writable⟩
      exact Nat.le_trans (least _ w₀ first₀.1 reported₀) (first₀.2.2 b w' declares' violated')

/-- Every restriction of a well-formed program is well formed. The program is reported sound exactly
    if its restriction to every declared variable is, and then it ends with the same values and has
    read the same values. It is reported for the first of the faults that its restrictions have, on the
    same variable and for the same rule, where that one can be quoted, and not reported on where it
    cannot. So what is reported of the program is what is reported first of its restrictions, except
    where the program is not reported on and one of them is. -/
theorem report_restrict (clean : p.WellFormed o.checkBindings) :
    (∀ name, (p.restrict name).WellFormed o.checkBindings) ∧
    ((∃ v, p.report o = .ok v ∧ v.isSound = true) ↔
      ∀ name, p.Declares name → ∃ v, (p.restrict name).report o = .ok v ∧ v.isSound = true) ∧
    (∀ program steps values reads name, p.report o = .ok (.sound program steps values reads) →
      p.Declares name → ∃ steps' value reads',
        (p.restrict name).report o = .ok (.sound program steps' [(name, value)] reads') ∧
        values.lookup name = some value ∧
        (reads.filter fun seen => seen.allocation = name).map Observation.value =
          reads'.map Observation.value) ∧
    (∀ i a rule, p.Reports o i a rule ↔ ∃ w, p.FirstFault o a w ∧
      (p.restrict a).report o = .ok (.violation w) ∧ p.indexOf a w.index = i ∧ w.rule = rule) ∧
    (p.report o = .error .unquotable ↔
      ∃ a w, p.FirstFault o a w ∧ (p.restrict a).report o = .error .unquotable) ∧
    ((∀ i a rule, p.Reports o i a rule ↔ p.ReportsFirst o i a rule) ↔
      (p.report o = .error .unquotable →
        ∀ a w, p.Declares a → (p.restrict a).report o ≠ .ok (.violation w))) := by
  refine ⟨restrict_wellFormed clean, ?_, ?_, reports_iff_firstFault clean,
    unquotable_iff_firstFault clean, ?_⟩
  · simpa only [report_sound] using sound_iff_restrict clean
  · intro program steps values reads name reported declares
    have checked := (report_eq_ok.mp reported).1
    obtain ⟨last, done, rfl, rfl⟩ := done_of_check checked
    obtain ⟨value, reads', checked', final, seen⟩ := restrict_of_done done declares
    rw [check_of_done done] at checked
    cases checked
    exact ⟨_, value, reads', report_eq_ok.mpr ⟨checked', rfl⟩, final, seen⟩
  · constructor
    · intro agree missing a w declares reported
      obtain ⟨i, b, rule, first⟩ := exists_reportsFirst declares reported
      obtain ⟨v, stated, -⟩ := (agree i b rule).mpr first
      rw [missing] at stated
      cases stated
    · intro silent i a rule
      constructor
      · intro reports
        obtain ⟨w, first, reported, index, same⟩ := (reports_iff_firstFault clean i a rule).mp reports
        exact ⟨first.1, ⟨w, reported, index, same⟩, fun b w' declares' reported' =>
          index ▸ first.2.2 b w' declares' (report_violation.mp reported').1⟩
      · intro first
        obtain ⟨declares, ⟨w, reported, -⟩, -⟩ := id first
        exact reports_of_reportsFirst clean first fun missing => silent missing a w declares reported

/-- Two variables whose unique borrows are disabled by reads and then written through, the second
    variable's first. -/
def twoFaults : Program := (Run.ofActions [.declare "x" 0 true false, .declare "y" 0 true false,
  .borrow "x" .unique "a", .borrow "y" .unique "b", .read "y" none, .read "x" none, .write "b" 1,
  .write "a" 1]).program

theorem report_restrict_twoFaults :
    (∃ w, (twoFaults.restrict "y").report {} = .ok (.violation w) ∧
      twoFaults.indexOf "y" w.index = 6 ∧ w.rule = .disabled) ∧
    ∃ w, (twoFaults.restrict "x").report {} = .ok (.violation w) ∧ w.index = 3 ∧
      6 ≤ twoFaults.indexOf "x" w.index := by
  obtain ⟨-, -, -, first, -, -⟩ := report_restrict (p := twoFaults) (o := {}) rfl
  have short : ∀ name, (Action.write name 1).isWritable = true := fun _ =>
    show Decimal.isWritable 1 = true by decide +kernel
  obtain ⟨v, checked, index, about, rule, operation⟩ : ∃ v, twoFaults.check {} = .ok (.violation v) ∧
      v.index = 6 ∧ v.allocation = "y" ∧ v.rule = .disabled ∧
      v.fault.operation.action = .write "b" 1 := ⟨_, rfl, rfl, rfl, rfl, rfl⟩
  have reported := report_violation.mpr ⟨checked, operation ▸ short "b"⟩
  obtain ⟨w, ⟨-, -, least⟩, reported', index', rule'⟩ :=
    (first 6 "y" .disabled).mp ⟨v, reported, index, about, rule⟩
  obtain ⟨w', checked', place, operation'⟩ : ∃ w',
      (twoFaults.restrict "x").check {} = .ok (.violation w') ∧ w'.index = 3 ∧
      w'.fault.operation.action = .write "a" 1 := ⟨_, rfl, rfl, rfl⟩
  refine ⟨⟨w, reported', index', rule'⟩, w', ?_, place, ?_⟩
  · exact report_violation.mpr ⟨checked', operation' ▸ short "a"⟩
  · exact index' ▸ least "x" w' ⟨_, List.mem_cons_self, 0, true, false, rfl⟩ checked'

/-- Integers in place of two pointers, written through: a number through the first, one through the
    second. -/
def erasedTwice (n : Int) : Program := (Run.ofActions [.declare "x" 0 true false,
  .declare "y" 0 true false, .toInteger "x" "i", .toInteger "y" "j", .write "i" n,
  .write "j" 1]).program

/-- With a number that is too long to be written, the first fault of that program cannot be quoted: there
    is no report on the program, and the restriction to the other variable is reported. -/
theorem not_forall_reports_iff : ¬ ∀ (p : Program) (o : CheckOptions),
    p.WellFormed o.checkBindings →
      ∀ i a rule, p.Reports o i a rule ↔ p.ReportsFirst o i a rule := by
  intro all
  -- what is run does not depend on the number
  have found : ∀ n, ∃ v, (erasedTwice n).check {} = .ok (.violation v) ∧
      v.fault.operation.action = .write "i" n := fun n => ⟨_, rfl, rfl⟩
  have found' : ∀ n, ∃ w, ((erasedTwice n).restrict "y").check {} = .ok (.violation w) ∧
      w.fault.operation.action = .write "j" 1 := fun n => ⟨_, rfl, rfl⟩
  have clean : ∀ n, (erasedTwice n).WellFormed false := fun n => rfl
  have declares : ∀ n, (erasedTwice n).Declares "y" := fun n =>
    ⟨_, List.mem_cons_of_mem _ List.mem_cons_self, 0, true, false, rfl⟩
  obtain ⟨v, checked, long⟩ := found Decimal.tooLong
  obtain ⟨w, checked', short⟩ := found' Decimal.tooLong
  have missing : (erasedTwice Decimal.tooLong).report {} = .error .unquotable :=
    report_eq_unquotable.mpr ⟨v, checked, long ▸ Decimal.isWritable_tooLong⟩
  have writable : Decimal.isWritable 1 = true := by decide +kernel
  have reported : ((erasedTwice Decimal.tooLong).restrict "y").report {} = .ok (.violation w) :=
    report_violation.mpr ⟨checked', short ▸ writable⟩
  obtain ⟨i, b, rule, first⟩ := exists_reportsFirst (declares _) reported
  obtain ⟨u, stated, -⟩ := (all _ {} (clean _) i b rule).mpr first
  rw [missing] at stated
  cases stated

end Program

end PointerTrace
