import Mathlib.Data.List.Basic
import PointerTrace.Proofs.Derivation
import PointerTrace.Proofs.Relabel

/- The part of a program that is about one variable. Every operation has a subject, the variable that
   its names go back to, and the restriction of a program to a name keeps the operations with that
   subject in their order. The pass over the names of the restriction binds what the pass over the
   program binds that goes back to the name (`Scope.after_restrict`), so that it has nothing to report
   where the other has not (`Program.restrict_wellFormed`). -/
namespace PointerTrace

/-- The variable that an action is about, when the names are derived as given. -/
def Action.subject (of : String → Derivation) : Action → String
  | .declare name .. | .borrow name .. => name
  | .reborrow source .. | .toInteger source _ | .read source _ | .write source _
  | .call source _ => (of source).origin

namespace Program

/-- Whether an operation is about a variable. -/
def concerns (p : Program) (name : String) (op : Operation) : Bool :=
  op.action.subject p.derivation = name

/-- The program of the operations about one variable. -/
def restrict (p : Program) (name : String) : Program :=
  { p with operations := p.operations.filter (p.concerns name) }

/-- The index in the program of an operation of its restriction. -/
def indexOf (p : Program) (name : String) (n : Nat) : Nat :=
  p.operations.findIdxNth (p.concerns name) n

/-- The program declares a variable. -/
def Declares (p : Program) (name : String) : Prop :=
  ∃ op ∈ p.operations, ∃ value isMutable interiorMutable,
    op.action = .declare name value isMutable interiorMutable

end Program

theorem countPBefore_next {α : Type} {l : List α} {q : α → Bool} {n : Nat} {x : α}
    (here : l[n]? = some x) :
    l.countPBefore q (n + 1) = l.countPBefore q n + if q x then 1 else 0 := by
  rw [List.countPBefore_eq_countP_take, List.countPBefore_eq_countP_take, List.take_add_one, here,
    Option.toList_some, List.countP_append, List.countP_singleton]

/-- Where an element that is kept stands among those that are kept. -/
theorem getElem?_filter_countPBefore {α : Type} {l : List α} {q : α → Bool} {n : Nat} {x : α}
    (here : l[n]? = some x) (kept : q x = true) :
    (l.filter q)[l.countPBefore q n]? = some x := by
  obtain ⟨short, rfl⟩ := List.getElem?_eq_some_iff.mp here
  have before : l.countPBefore q n = ((l.take n).filter q).length := by
    rw [List.countPBefore_eq_countP_take, List.countP_eq_length_filter]
  have cut : l.filter q = (l.take n).filter q ++ l[n] :: (l.drop (n + 1)).filter q :=
    calc l.filter q = (l.take n ++ l.drop n).filter q := by rw [List.take_append_drop]
      _ = (l.take n).filter q ++ (l[n] :: l.drop (n + 1)).filter q := by
        rw [List.filter_append, List.drop_eq_getElem_cons short]
      _ = (l.take n).filter q ++ l[n] :: (l.drop (n + 1)).filter q := by
        rw [List.filter_cons_of_pos kept]
  rw [before, cut, List.getElem?_append_right (Nat.le_refl _), Nat.sub_self,
    List.getElem?_cons_zero]

variable {of : String → Derivation} {name : String}

/-- What an operation derives goes back to its subject. -/
theorem Action.derived?_origin {act : Action} {x : String} {d : Derivation}
    (derived : act.derived? of = some (x, d)) : d.origin = act.subject of := by
  cases act <;> cases derived <;> rfl

theorem Action.origin_of_operand {act : Action} {source : String}
    (operand : act.operand? = some source) : (of source).origin = act.subject of := by
  cases act <;> cases operand <;> rfl

/-- What an operation binds goes back to its subject. -/
theorem Action.origin_of_fits {act : Action} {result : String} (bound : act.result? = some result)
    (fits : ∀ x d, act.derived? of = some (x, d) → of x = d) :
    (of result).origin = act.subject of := by
  cases act <;> cases bound <;> rw [fits result _ rfl] <;> rfl

namespace Scope

/-- The bound names that go back to one variable. -/
def restrict (s : Scope) (of : String → Derivation) (name : String) : Scope :=
  ⟨s.allocations.filter fun e => e.1 = name, s.pointers.filter fun x => (of x).origin = name⟩

variable {s : Scope} {checkBindings : Bool}

theorem lookup_restrict (s : Scope) (of : String → Derivation) (name x : String) :
    (s.restrict of name).allocations.lookup x =
      if x = name then s.allocations.lookup x else none := by
  rw [restrict, lookup_filter fun x => decide (x = name)]
  simp

theorem hasAllocation_restrict_self (s : Scope) (of : String → Derivation) (name : String) :
    (s.restrict of name).hasAllocation name = s.hasAllocation name := by
  simp [hasAllocation, lookup_restrict]

theorem isImmutable_restrict {x : String} (h : s.isImmutable x = false) :
    (s.restrict of name).isImmutable x = false := by
  rw [isImmutable, lookup_restrict]
  by_cases same : x = name
  · rw [if_pos same]
    exact h
  · simp [same]

theorem unbound_restrict {x : String} (h : s.binds x = false) :
    (s.restrict of name).binds x = false := by
  rw [binds, Bool.or_eq_false_iff] at h ⊢
  constructor
  · have absent : x ∉ s.pointers := by simpa using h.1
    simp [restrict, absent]
  · rw [hasAllocation, lookup_restrict]
    by_cases same : x = name
    · rw [if_pos same]
      exact h.2
    · simp [same]

/-- A bound name that goes back to the variable stays bound. -/
theorem binds_restrict (variable_root : ∀ x, s.hasAllocation x = true → of x = .root x) {x : String}
    (bound : s.binds x = true) (origin : (of x).origin = name) :
    (s.restrict of name).binds x = true := by
  rw [binds, Bool.or_eq_true] at bound ⊢
  rcases bound with pointer | allocation
  · left
    simp only [restrict, List.contains_iff_mem, List.mem_filter, decide_eq_true_eq] at pointer ⊢
    exact ⟨pointer, origin⟩
  · right
    rw [variable_root x allocation] at origin
    rw [← show x = name from origin, hasAllocation_restrict_self]
    exact allocation

theorem after_of_free {act : Action} {x : String} (result : act.result? = some x)
    (free : s.binds x = false) : s.after act = match act with
      | .declare _ _ isMutable interiorMutable =>
        { s with allocations := (x, isMutable || interiorMutable) :: s.allocations }
      | _ => { s with pointers := x :: s.pointers } := by
  unfold after
  rw [result]
  simp only [free, Bool.false_eq_true, if_false]
  cases act <;> rfl

/-- An operation about the variable does to the restricted scope what it does to the scope, and any
    other operation leaves it as it is. -/
theorem after_restrict {act : Action} (free : ∀ x, act.result? = some x → s.binds x = false)
    (fits : ∀ x d, act.derived? of = some (x, d) → of x = d) :
    (s.after act).restrict of name =
      if act.subject of = name then (s.restrict of name).after act else s.restrict of name := by
  cases result : act.result? with
  | none => rw [after_of_no_result result, after_of_no_result result, ite_self]
  | some x =>
    have origin := Action.origin_of_fits result fits
    rw [after_of_free result (free x result),
      after_of_free result (unbound_restrict (free x result))]
    by_cases own : act.subject of = name
    · rw [if_pos own]
      cases act with
      | declare =>
        cases result
        simp [restrict, show x = name from own]
      | _ => simp [restrict, origin, own]
    · rw [if_neg own]
      cases act with
      | declare =>
        cases result
        simp [restrict, show x ≠ name from own]
      | _ => simp [restrict, origin, own]

/-- What the pass allows an operation about the variable it allows in the restricted scope. -/
theorem Allows.restrict {act : Action} (h : s.Allows checkBindings act)
    (variable_root : ∀ x, s.hasAllocation x = true → of x = .root x)
    (own : act.subject of = name) : (s.restrict of name).Allows checkBindings act where
  target := by
    intro x kind result borrows
    obtain ⟨declared, guarded⟩ := h.target x kind result borrows
    have same : x = name := by rw [← own, borrows]; rfl
    refine ⟨?_, fun checked unique => isImmutable_restrict (guarded checked unique)⟩
    rw [same, hasAllocation_restrict_self, ← same, declared]
  operand := by
    intro x operand
    obtain ⟨bound, guarded⟩ := h.operand x operand
    have origin : (of x).origin = name := (Action.origin_of_operand operand).trans own
    exact ⟨binds_restrict variable_root bound origin,
      fun checked writes => isImmutable_restrict (guarded checked writes)⟩
  result := fun x result => unbound_restrict (h.result x result)

theorem variable_root_after {act : Action}
    (variable_root : ∀ x, s.hasAllocation x = true → of x = .root x)
    (fits : ∀ x d, act.derived? of = some (x, d) → of x = d) {x : String}
    (has : (s.after act).hasAllocation x = true) : of x = .root x := by
  cases result : act.result? with
  | none =>
    rw [after_of_no_result result] at has
    exact variable_root x has
  | some y =>
    cases bound : s.binds y with
    | true =>
      have same : s.after act = s := by simp [after, result, bound]
      exact variable_root x (same ▸ has)
    | false =>
      rw [after_of_free result bound] at has
      cases act with
      | declare z value isMutable interiorMutable =>
        cases result
        by_cases own : x = y
        · rw [own]
          exact fits y _ rfl
        · simp only [hasAllocation, List.lookup_cons, beq_eq_false_iff_ne.mpr own] at has
          exact variable_root x has
      | _ => exact variable_root x has

/-- The pass reports nothing for the operations about a variable, in the restricted scope, where it
    reports nothing for all. -/
theorem issuesFrom_restrict {l : List Operation} {index : Nat}
    (clean : issuesFrom checkBindings s index l = [])
    (variable_root : ∀ x, s.hasAllocation x = true → of x = .root x)
    (fits : ∀ op ∈ l, ∀ x d, op.action.derived? of = some (x, d) → of x = d) (index' : Nat) :
    issuesFrom checkBindings (s.restrict of name) index'
      (l.filter fun op => op.action.subject of = name) = [] := by
  induction l generalizing s index index' with
  | nil => rfl
  | cons op l ih =>
    obtain ⟨here, later⟩ := List.append_eq_nil_iff.mp clean
    have allowed := issues_eq_nil.mp here
    have own_fits := fits op List.mem_cons_self
    have step : (s.after op.action).restrict of name = if op.action.subject of = name then
        (s.restrict of name).after op.action else s.restrict of name :=
      after_restrict allowed.result own_fits
    have rest := ih later (fun x => variable_root_after variable_root own_fits)
      (fun op' inside => fits op' (List.mem_cons_of_mem _ inside))
    by_cases own : op.action.subject of = name
    · rw [if_pos own] at step
      rw [List.filter_cons_of_pos (by simpa using own), issuesFrom, List.append_eq_nil_iff]
      exact ⟨issues_eq_nil.mpr (allowed.restrict variable_root own), step ▸ rest (index' + 1)⟩
    · rw [if_neg own] at step
      rw [List.filter_cons_of_neg (by simpa using own)]
      exact step ▸ rest index'

end Scope

/-- The restriction of a well-formed program is well formed. -/
theorem Program.restrict_wellFormed {p : Program} {checkBindings : Bool}
    (clean : p.WellFormed checkBindings) (name : String) :
    (p.restrict name).WellFormed checkBindings := by
  have fits : ∀ op ∈ p.operations, ∀ x d, op.action.derived? p.derivation = some (x, d) →
      p.derivation x = d := fun _ inside _ _ derived => Program.derivation_eq clean inside derived
  exact Scope.issuesFrom_restrict clean nofun fits 0

end PointerTrace
