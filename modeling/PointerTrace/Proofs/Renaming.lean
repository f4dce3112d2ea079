import PointerTrace.Proofs.NameProblems
import PointerTrace.Proofs.Shape

/- Programs whose names are changed. The pass over the names and the machine look at names only to tell
   them apart. So a program whose names are changed, no two of them to the same one, has the same
   problems under the new names (`Program.Renamed.causes`) and gets the same verdict
   (`Program.Renamed.check`). -/
namespace PointerTrace

/-! ## Operations with other names -/

namespace Action

/-- An operation with the names of variables and pointers changed. -/
def rename (ρ : String → String) : Action → Action
  | .declare name value isMutable interiorMutable =>
    .declare (ρ name) value isMutable interiorMutable
  | .borrow target kind result => .borrow (ρ target) kind (ρ result)
  | .reborrow source kind result => .reborrow (ρ source) kind (ρ result)
  | .toInteger source result => .toInteger (ρ source) (ρ result)
  | .read source binding => .read (ρ source) binding
  | .write source value => .write (ρ source) value
  | .call source function => .call (ρ source) function

/-- The names of variables and pointers in an operation. -/
def mentioned : Action → List String
  | .declare name .. => [name]
  | .borrow target _ result => [target, result]
  | .reborrow source _ result | .toInteger source result => [source, result]
  | .read source _ | .write source _ | .call source _ => [source]

variable (ρ : String → String) (a : Action)

@[simp] theorem operand?_rename : (a.rename ρ).operand? = a.operand?.map ρ := by
  cases a <;> rfl

@[simp] theorem result?_rename : (a.rename ρ).result? = a.result?.map ρ := by
  cases a <;> rfl

theorem Alike.rename : a.Alike ρ (a.rename ρ) := by
  cases a with
  | declare name value isMutable interiorMutable =>
    exact .declare name value value isMutable isMutable interiorMutable
  | borrow target kind result => exact .borrow target kind result
  | reborrow source kind result => exact .reborrow source kind result
  | toInteger source result => exact .toInteger source result
  | read source binding => exact .read source binding binding
  | write source value => exact .write source rfl rfl
  | call source function => exact .write source rfl rfl

variable {a} {name : String}

theorem result_mem (binds : a.result? = some name) : name ∈ a.mentioned := by
  cases a <;> simp_all [result?, mentioned]

theorem operand_mem (takes : a.operand? = some name) : name ∈ a.mentioned := by
  cases a <;> simp_all [operand?, mentioned]

end Action

/-- A problem under other names. -/
def IssueCause.rename (ρ : String → String) : IssueCause → IssueCause
  | .unknownAllocation name index => .unknownAllocation (ρ name) index
  | .unknownPointer name index => .unknownPointer (ρ name) index
  | .duplicateName name index => .duplicateName (ρ name) index
  | .immutableBinding name use index => .immutableBinding (ρ name) use index
  | .syntaxFault fault => .syntaxFault fault

/-! ## Resolution -/

namespace Scope

/-- A scope with its names changed. -/
def rename (ρ : String → String) (s : Scope) : Scope :=
  ⟨s.allocations.map (Prod.map ρ id), s.pointers.map ρ⟩

/-- The names of a scope are among some names. -/
structure Within (known : String → Prop) (s : Scope) : Prop where
  allocations : ∀ e ∈ s.allocations, known e.1
  pointers : ∀ x ∈ s.pointers, known x

variable {known : String → Prop} {ρ : String → String} {s : Scope} {a : Action} {x : String}

theorem Within.after (within : s.Within known) (named : ∀ x ∈ a.mentioned, known x) :
    (s.after a).Within known := by
  unfold Scope.after
  cases binds : a.result? with
  | none => exact within
  | some name =>
    have new : known name := named name (Action.result_mem binds)
    dsimp only
    split
    · exact within
    · split
      · exact ⟨List.forall_mem_cons.mpr ⟨new, within.allocations⟩, within.pointers⟩
      · exact ⟨within.allocations, List.forall_mem_cons.mpr ⟨new, within.pointers⟩⟩

section Apart

variable (apart : ∀ x y, known x → known y → ρ x = ρ y → x = y) (within : s.Within known)
include apart within

theorem lookup_rename (here : known x) :
    (s.rename ρ).allocations.lookup (ρ x) = s.allocations.lookup x := by
  rw [rename, lookup_map ρ id s.allocations x fun e inside same =>
    apart _ _ here (within.allocations e inside) same]
  exact Option.map_id_fun ▸ rfl

theorem binds_rename (here : known x) : (s.rename ρ).binds (ρ x) = s.binds x := by
  have pointers : (s.rename ρ).pointers.contains (ρ x) = s.pointers.contains x := by
    rw [Bool.eq_iff_iff, List.contains_iff_mem, List.contains_iff_mem, rename, List.mem_map]
    constructor
    · rintro ⟨y, inside, same⟩
      rwa [← apart _ _ (within.pointers y inside) here same]
    · exact fun inside => ⟨x, inside, rfl⟩
  rw [binds, pointers, hasAllocation, lookup_rename apart within here]
  rfl

theorem after_rename (named : ∀ x ∈ a.mentioned, known x) :
    (s.rename ρ).after (a.rename ρ) = (s.after a).rename ρ := by
  unfold after
  rw [Action.result?_rename]
  cases binds : a.result? with
  | none => rfl
  | some name =>
    have taken := binds_rename apart within (named name (Action.result_mem binds))
    dsimp only [Option.map_some]
    rw [taken]
    split
    · rfl
    · cases a <;> rfl

theorem isImmutable_rename (here : known x) : (s.rename ρ).isImmutable (ρ x) = s.isImmutable x := by
  rw [isImmutable, lookup_rename apart within here]
  rfl

theorem targetIssue?_rename (named : ∀ x ∈ a.mentioned, known x) (checkBindings : Bool) (index : Nat) :
    (s.rename ρ).targetIssue? checkBindings index (a.rename ρ) =
      (s.targetIssue? checkBindings index a).map (IssueCause.rename ρ) := by
  cases a with
  | borrow target kind result =>
    have here : known target := named target (by simp [Action.mentioned])
    have declared : (s.rename ρ).hasAllocation (ρ target) = s.hasAllocation target := by
      rw [hasAllocation, lookup_rename apart within here, hasAllocation]
    simp only [Action.rename, targetIssue?, declared, isImmutable_rename apart within here]
    split_ifs <;> rfl
  | _ => rfl

theorem operandIssue?_rename (named : ∀ x ∈ a.mentioned, known x) (checkBindings : Bool)
    (index : Nat) : (s.rename ρ).operandIssue? checkBindings index (a.rename ρ) =
      (s.operandIssue? checkBindings index a).map (IssueCause.rename ρ) := by
  have use : operandUse? (a.rename ρ) = operandUse? a := by cases a <;> rfl
  unfold operandIssue?
  rw [Action.operand?_rename, use]
  cases takes : a.operand? with
  | none => rfl
  | some name =>
    have here : known name := named name (Action.operand_mem takes)
    simp only [Option.map_some, binds_rename apart within here, isImmutable_rename apart within here]
    cases operandUse? a <;> dsimp only <;> split_ifs <;> rfl

theorem resultIssue?_rename (named : ∀ x ∈ a.mentioned, known x) (index : Nat) :
    (s.rename ρ).resultIssue? index (a.rename ρ) =
      (s.resultIssue? index a).map (IssueCause.rename ρ) := by
  unfold resultIssue?
  rw [Action.result?_rename]
  cases binds : a.result? with
  | none => rfl
  | some name =>
    simp only [Option.map_some, binds_rename apart within (named name (Action.result_mem binds))]
    split_ifs <;> rfl

/-- An operation with changed names has the same problems with changed names. -/
theorem causes_rename (named : ∀ x ∈ a.mentioned, known x) (checkBindings : Bool) (index : Nat)
    (place place' : Option Location) :
    ((s.rename ρ).issues checkBindings index ⟨a.rename ρ, place'⟩).map Issue.cause =
      (s.issues checkBindings index ⟨a, place⟩).map fun issue => issue.cause.rename ρ := by
  have causes (s : Scope) (op : Operation) : (s.issues checkBindings index op).map Issue.cause =
      (s.targetIssue? checkBindings index op.action).toList ++
        (s.operandIssue? checkBindings index op.action).toList ++
        (s.resultIssue? index op.action).toList := by
    simp [issues, Function.comp_def]
  have single (o : Option IssueCause) : (o.map (IssueCause.rename ρ)).toList =
      o.toList.map (IssueCause.rename ρ) := by
    cases o <;> rfl
  calc ((s.rename ρ).issues checkBindings index ⟨a.rename ρ, place'⟩).map Issue.cause
      = ((s.issues checkBindings index ⟨a, place⟩).map Issue.cause).map (IssueCause.rename ρ) := by
        rw [causes, causes, targetIssue?_rename apart within named,
          operandIssue?_rename apart within named, resultIssue?_rename apart within named]
        simp only [single, List.map_append]
    _ = (s.issues checkBindings index ⟨a, place⟩).map fun issue => issue.cause.rename ρ := by
        simp

/-- Operations with changed names have the same problems with changed names. -/
theorem causesFrom_rename {l k : List Operation} (named : ∀ op ∈ l, ∀ x ∈ op.action.mentioned, known x)
    (changed : k.map Operation.action = l.map fun op => op.action.rename ρ) (checkBindings : Bool)
    (index : Nat) : (issuesFrom checkBindings (s.rename ρ) index k).map Issue.cause =
      (issuesFrom checkBindings s index l).map fun issue => issue.cause.rename ρ := by
  induction l generalizing s index k with
  | nil =>
    rw [List.map_eq_nil_iff.mp changed]
    rfl
  | cons op l ih =>
    obtain ⟨op', k, rfl, own, others⟩ := List.map_eq_cons_iff.mp changed
    obtain ⟨here, later⟩ := List.forall_mem_cons.mp named
    obtain ⟨a, place⟩ := op
    obtain ⟨a', place'⟩ := op'
    obtain rfl : a' = a.rename ρ := own
    rw [issuesFrom, issuesFrom, List.map_append, List.map_append,
      causes_rename apart within here checkBindings index place place',
      after_rename apart within here, ih (within.after here) later others]

end Apart

end Scope

/-! ## Verdicts -/

/-- Two outcomes of a check that say the same, but for names and values: the problems that a program is
    refused for, that it is sound, or which rule is broken and where. -/
inductive SameOutcome (ρ : String → String) :
    Except CheckFailure Verdict → Except CheckFailure Verdict → Prop
  | refused {issues issues' : List Issue}
      (same : issues'.map Issue.cause = issues.map fun issue => issue.cause.rename ρ) :
      SameOutcome ρ (.error (.malformed issues)) (.error (.malformed issues'))
  | sound {v w : Verdict} (first : v.isSound = true) (second : w.isSound = true) :
      SameOutcome ρ (.ok v) (.ok w)
  | violation {v w : Violation} (index : w.index = v.index) (rule : w.rule = v.rule) :
      SameOutcome ρ (.ok (.violation v)) (.ok (.violation w))

namespace Program

variable {p : Program}

/-- A program with name problems is refused. -/
theorem check_of_issues {o : CheckOptions} (some : p.issues o.checkBindings ≠ []) :
    p.check o = .error (.malformed (p.issues o.checkBindings)) := by
  rw [check, evaluate, Machine.load]
  cases found : p.issues o.checkBindings with
  | nil => exact absurd found some
  | cons => rfl

/-- The check of bindings changes nothing for a program that passes it. -/
theorem check_unchecked {x : Int} {checkBindings : Bool} (clean : p.WellFormed checkBindings) :
    p.check ⟨x, checkBindings⟩ = p.check ⟨x, false⟩ := by
  have found : p.issues checkBindings = [] := clean
  have found' : p.issues false = [] := clean.unchecked
  simp only [check, evaluate, Machine.load, found, found']

/-- The second program is the first with its names changed, which stay apart. -/
structure Renamed (ρ : String → String) (p q : Program) : Prop where
  actions : q.actions = p.actions.map (Action.rename ρ)
  apart : ∀ a ∈ p.actions, ∀ b ∈ p.actions, ∀ x ∈ a.mentioned, ∀ y ∈ b.mentioned, ρ x = ρ y → x = y

namespace Renamed

variable {p q : Program} {ρ : String → String} (renamed : p.Renamed ρ q)
include renamed

/-- A program with changed names has the same problems with changed names. -/
theorem causes (checkBindings : Bool) : (q.issues checkBindings).map Issue.cause =
    (p.issues checkBindings).map fun issue => issue.cause.rename ρ := by
  have apart : ∀ x y, (∃ a ∈ p.actions, x ∈ a.mentioned) → (∃ b ∈ p.actions, y ∈ b.mentioned) →
      ρ x = ρ y → x = y := by
    rintro x y ⟨a, here, mentions⟩ ⟨b, here', mentions'⟩ same
    exact renamed.apart a here b here' x mentions y mentions' same
  have named : ∀ op ∈ p.operations, ∀ x ∈ op.action.mentioned,
      ∃ a ∈ p.actions, x ∈ a.mentioned :=
    fun op inside x mentions => ⟨op.action, List.mem_map_of_mem inside, mentions⟩
  have changed : q.operations.map Operation.action =
      p.operations.map fun op => op.action.rename ρ := by
    rw [show q.operations.map Operation.action = _ from renamed.actions, Program.actions, List.map_map]
    rfl
  exact Scope.causesFrom_rename apart (s := .empty) ⟨nofun, nofun⟩ named changed checkBindings 0

theorem wellFormed (checkBindings : Bool) : q.WellFormed checkBindings ↔ p.WellFormed checkBindings := by
  have causes := renamed.causes checkBindings
  constructor
  · intro clean
    rw [show q.issues checkBindings = [] from clean] at causes
    exact List.map_eq_nil_iff.mp causes.symm
  · intro clean
    rw [show p.issues checkBindings = [] from clean] at causes
    exact List.map_eq_nil_iff.mp causes

theorem alike : p.Alike ρ q := by
  constructor
  · rintro x y ⟨op, inside, binds⟩ ⟨op', inside', binds'⟩ same
    exact renamed.apart _ (List.mem_map_of_mem inside) _ (List.mem_map_of_mem inside') x
      (Action.result_mem binds) y (Action.result_mem binds') same
  · have related : List.Forall₂ (Action.Alike ρ) p.actions q.actions := by
      rw [renamed.actions, List.forall₂_map_right_iff]
      exact List.forall₂_same.mpr fun a _ => .rename ρ a
    rwa [Program.actions, Program.actions, List.forall₂_map_left_iff,
      List.forall₂_map_right_iff] at related

/-- A program with changed names gets the same verdict. -/
theorem check (o : CheckOptions) : SameOutcome ρ (p.check o) (q.check o) := by
  obtain ⟨x, checkBindings⟩ := o
  cases found : p.issues checkBindings with
  | cons issue issues =>
    have some : p.issues checkBindings ≠ [] := by simp [found]
    have some' : q.issues checkBindings ≠ [] := fun none => some ((renamed.wellFormed _).mp none)
    rw [check_of_issues some, check_of_issues some']
    exact .refused (renamed.causes checkBindings)
  | nil =>
    have clean : p.WellFormed checkBindings := found
    have clean' : q.WellFormed checkBindings := (renamed.wellFormed _).mpr clean
    -- the machines go through the same states under the new names
    have together := renamed.alike.inStep (x := x) (y := x) clean.unchecked clean'.unchecked
    rw [check_unchecked clean, check_unchecked clean']
    rcases check_cases (o := ⟨x, false⟩) clean.unchecked with
      ⟨last, done⟩ | ⟨n, m, op, fault, reached, here, faults⟩
    · have both := together p.length
      rw [done] at both
      cases done' : (q.run ⟨x, false⟩).state? p.length <;> rw [done'] at both <;> cases both
      have length : p.length = q.length := renamed.alike.operations.length_eq
      rw [length] at done'
      rw [check_of_done done, check_of_done done']
      exact .sound rfl rfl
    · have both := together n
      rw [reached] at both
      cases reached' : (q.run ⟨x, false⟩).state? n <;> rw [reached'] at both <;> cases both
      case some m' alike =>
        obtain ⟨op', here', likeOp⟩ := forall₂_getElem? renamed.alike.operations here
        have faults' := alike.faults (Run.reached reached).valid (Run.reached reached').valid
          (renamed.alike.toldApart reached) likeOp faults
        rw [check_of_faults reached here faults, check_of_faults reached' here' faults']
        exact .violation rfl rfl

end Renamed

end Program

end PointerTrace
