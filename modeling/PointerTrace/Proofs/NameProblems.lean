import PointerTrace.Proofs.Extension

/- What the pass over the names reports. The pass goes on behind an operation with problems, so that
   its meaning is told for programs of any kind: a name is bound before an operation when an earlier
   one binds it, and stands for a variable when the first of these declares it. The scope of the
   pass at an operation knows just that (`Program.binds_scopeAt`, `Program.lookup_scopeAt`), and the
   problems of a program are those of its operations, one operation after the other
   (`Program.issues_exactly`). -/
namespace PointerTrace

/-- The index of the operation that a problem is one of. -/
def IssueCause.index? : IssueCause → Option Nat
  | .unknownAllocation _ index => index
  | .unknownPointer _ index | .duplicateName _ index | .immutableBinding _ _ index => some index
  | .syntaxFault _ => none

/-- A problem is reported before another one: it is one of an earlier operation or, of the same
    operation, one of what is used, the other being that of the name that is bound. -/
def IssueCause.Before (c d : IssueCause) : Prop :=
  ∃ i j, c.index? = some i ∧ d.index? = some j ∧
    (i < j ∨ i = j ∧ c.kind ≠ "duplicate_name" ∧ d.kind = "duplicate_name")

namespace Program

/-- An operation before an index binds a name. -/
def BoundBefore (p : Program) (n : Nat) (name : String) : Prop :=
  ∃ k op, k < n ∧ p.operations[k]? = some op ∧ op.action.result? = some name

/-- The first operation before an index that binds a name declares it, as a variable that may be
    written or not. -/
def DeclaredBefore (p : Program) (n : Nat) (name : String) (writable : Bool) : Prop :=
  ∃ k op, k < n ∧ p.operations[k]? = some op ∧ ¬ p.BoundBefore k name ∧
    ∃ value isMutable interiorMutable, op.action = .declare name value isMutable interiorMutable ∧
      writable = (isMutable || interiorMutable)

/-- The problems of an operation at an index of a program. -/
inductive Problem (p : Program) (checkBindings : Bool) (n : Nat) : Action → IssueCause → Prop where
  | unknownAllocation {target result : String} {kind : BorrowKind}
      (missing : ∀ writable, ¬ p.DeclaredBefore n target writable) :
      p.Problem checkBindings n (.borrow target kind result) (.unknownAllocation target (some n))
  | unknownPointer {act : Action} {name : String} (operand : act.operand? = some name)
      (missing : ¬ p.BoundBefore n name) : p.Problem checkBindings n act (.unknownPointer name n)
  | duplicateName {act : Action} {name : String} (result : act.result? = some name)
      (taken : p.BoundBefore n name) : p.Problem checkBindings n act (.duplicateName name n)
  | immutableBorrow {target result : String} (checked : checkBindings = true)
      (immutable : p.DeclaredBefore n target false) :
      p.Problem checkBindings n (.borrow target .unique result) (.immutableBinding target .borrow n)
  | immutableAssign {source : String} {value : Int} (checked : checkBindings = true)
      (immutable : p.DeclaredBefore n source false) :
      p.Problem checkBindings n (.write source value) (.immutableBinding source .assign n)
  | immutablePass {source function : String} (checked : checkBindings = true)
      (immutable : p.DeclaredBefore n source false) :
      p.Problem checkBindings n (.call source function) (.immutableBinding source .pass n)

variable {p : Program} {n : Nat} {name : String}

/-- One more operation before an index. -/
theorem exists_before_succ {α : Type} {l : List α} {n : Nat} {P : Nat → α → Prop} :
    (∃ k x, k < n + 1 ∧ l[k]? = some x ∧ P k x) ↔
      (∃ k x, k < n ∧ l[k]? = some x ∧ P k x) ∨ ∃ x, l[n]? = some x ∧ P n x := by
  constructor
  · intro h
    obtain ⟨k, x, before, found, holds⟩ := h
    by_cases last : k = n
    · subst last
      exact .inr ⟨x, found, holds⟩
    · exact .inl ⟨k, x, by omega, found, holds⟩
  · intro h
    rcases h with ⟨k, x, before, found, holds⟩ | ⟨x, found, holds⟩
    · exact ⟨k, x, by omega, found, holds⟩
    · exact ⟨n, x, by omega, found, holds⟩

/-! ## The scope at an operation -/

/-- What the pass knows at an index. -/
def scopeAt (p : Program) (n : Nat) : Scope := Scope.empty.afterAll (p.operations.take n)

theorem scopeAt_succ {op : Operation} (here : p.operations[n]? = some op) :
    p.scopeAt (n + 1) = (p.scopeAt n).after op.action := by
  rw [scopeAt, List.take_add_one, here, Option.toList_some, Scope.afterAll, List.foldl_append]
  rfl

/-- Behind the last operation nothing is added. -/
theorem scopeAt_beyond (beyond : p.operations[n]? = none) : p.scopeAt (n + 1) = p.scopeAt n := by
  rw [scopeAt, List.take_add_one, beyond, Option.toList_none, List.append_nil, scopeAt]

end Program

/-- A declaration of a name that is not bound adds a variable, and no other operation does. -/
theorem Scope.lookup_after (s : Scope) (act : Action) (name : String) (writable : Bool) :
    (s.after act).allocations.lookup name = some writable ↔
      s.allocations.lookup name = some writable ∨
        ¬ s.binds name = true ∧ ∃ value isMutable interiorMutable,
          act = .declare name value isMutable interiorMutable ∧
            writable = (isMutable || interiorMutable) := by
  have unknown : ¬ s.binds name = true → s.allocations.lookup name = none := by
    intro free
    simp only [binds, hasAllocation, Bool.or_eq_true, not_or] at free
    exact Option.not_isSome_iff_eq_none.mp free.2
  cases act with
  | declare bound value isMutable interiorMutable =>
    by_cases taken : s.binds bound = true
    · have kept : s.after (.declare bound value isMutable interiorMutable) = s := by
        simp [Scope.after, Action.result?, taken]
      rw [kept]
      constructor
      · exact .inl
      · intro h
        rcases h with known | ⟨free, _, _, _, declares, -⟩
        · exact known
        · cases declares
          exact absurd taken free
    · have added : (s.after (.declare bound value isMutable interiorMutable)).allocations =
          (bound, isMutable || interiorMutable) :: s.allocations := by
        simp [Scope.after, Action.result?, taken]
      rw [added, List.lookup_cons]
      by_cases same : name = bound
      · subst same
        rw [beq_self_eq_true, unknown taken]
        constructor
        · intro h
          exact .inr ⟨taken, value, isMutable, interiorMutable, rfl, (Option.some.inj h).symm⟩
        · intro h
          rcases h with none | ⟨-, _, _, _, declares, rfl⟩
          · cases none
          · cases declares
            rfl
      · simp [beq_eq_false_iff_ne.mpr same, Ne.symm same]
  | borrow _ _ result | reborrow _ _ result | toInteger _ result =>
    simp [Scope.after, Action.result?, apply_ite Scope.allocations]
  | read | write | call => simp [Scope.after, Action.result?]

namespace Program

variable {p : Program} {n : Nat} {name : String}

/-- The pass takes for bound what is bound before. -/
theorem binds_scopeAt : (p.scopeAt n).binds name = true ↔ p.BoundBefore n name := by
  induction n with
  | zero => simp [scopeAt, Scope.afterAll, Scope.binds, Scope.empty, Scope.hasAllocation, BoundBefore]
  | succ n ih =>
    rw [BoundBefore, exists_before_succ]
    cases here : p.operations[n]? with
    | none =>
      rw [scopeAt_beyond here, ih]
      simp [BoundBefore]
    | some op =>
      rw [scopeAt_succ here, Scope.binds_after, ih, or_comm]
      simp [BoundBefore]

/-- The pass takes for a variable, and for one that may be written or not, what is declared
    before. -/
theorem lookup_scopeAt {writable : Bool} :
    (p.scopeAt n).allocations.lookup name = some writable ↔ p.DeclaredBefore n name writable := by
  induction n with
  | zero => simp [scopeAt, Scope.afterAll, Scope.empty, DeclaredBefore]
  | succ n ih =>
    rw [DeclaredBefore, exists_before_succ]
    cases here : p.operations[n]? with
    | none =>
      rw [scopeAt_beyond here, ih]
      simp [DeclaredBefore]
    | some op =>
      rw [scopeAt_succ here, Scope.lookup_after, ih, binds_scopeAt]
      simp [DeclaredBefore]

theorem hasAllocation_scopeAt :
    (p.scopeAt n).hasAllocation name = true ↔ ∃ writable, p.DeclaredBefore n name writable := by
  rw [Scope.hasAllocation, Option.isSome_iff_exists]
  exact exists_congr fun writable => lookup_scopeAt

theorem isImmutable_scopeAt :
    (p.scopeAt n).isImmutable name = true ↔ p.DeclaredBefore n name false := by
  rw [Scope.isImmutable, decide_eq_true_iff]
  exact lookup_scopeAt

theorem DeclaredBefore.bound {writable : Bool} (h : p.DeclaredBefore n name writable) :
    p.BoundBefore n name := by
  obtain ⟨k, op, before, found, -, value, isMutable, interiorMutable, declares, -⟩ := h
  exact ⟨k, op, before, found, by rw [declares]; rfl⟩

end Program

/-! ## The problems of one operation -/

namespace Scope

variable {s : Scope} {checkBindings : Bool} {n : Nat} {op : Operation} {act : Action}
  {cause : IssueCause}

theorem mem_issues {issue : Issue} : issue ∈ s.issues checkBindings n op ↔
    (s.targetIssue? checkBindings n op.action = some issue.cause ∨
      s.operandIssue? checkBindings n op.action = some issue.cause ∨
      s.resultIssue? n op.action = some issue.cause) ∧ issue.location = op.location := by
  obtain ⟨cause, location⟩ := issue
  simp [issues, or_and_right, eq_comm]

theorem targetIssue?_eq_some : s.targetIssue? checkBindings n act = some cause ↔
    ∃ name kind result, act = .borrow name kind result ∧
      (s.hasAllocation name = false ∧ .unknownAllocation name (some n) = cause ∨
        s.hasAllocation name = true ∧ checkBindings = true ∧ kind = .unique ∧
          s.isImmutable name = true ∧ .immutableBinding name .borrow n = cause) := by
  cases act with
  | borrow name kind result =>
    cases known : s.hasAllocation name <;> cases immutable : s.isImmutable name <;>
      cases checkBindings <;> cases kind <;> simp [targetIssue?, known, immutable]
  | _ => simp [targetIssue?]

theorem operandIssue?_eq_some : s.operandIssue? checkBindings n act = some cause ↔
    ∃ name, act.operand? = some name ∧
      (s.binds name = false ∧ .unknownPointer name n = cause ∨
        s.binds name = true ∧ ∃ use, operandUse? act = some use ∧ checkBindings = true ∧
          s.isImmutable name = true ∧ .immutableBinding name use n = cause) := by
  unfold operandIssue?
  cases act.operand? with
  | none => simp
  | some name =>
    cases operandUse? act <;> cases bound : s.binds name <;>
      cases immutable : s.isImmutable name <;> cases checkBindings <;>
      simp [bound, immutable]

theorem resultIssue?_eq_some : s.resultIssue? n act = some cause ↔
    ∃ name, act.result? = some name ∧ s.binds name = true ∧ .duplicateName name n = cause := by
  unfold resultIssue?
  cases act.result? with
  | none => simp
  | some name => cases bound : s.binds name <;> simp [bound]

/-- A problem of what an operation uses is none of the name that it binds. -/
theorem use_problem (h : s.targetIssue? checkBindings n act = some cause ∨
    s.operandIssue? checkBindings n act = some cause) :
    cause.index? = some n ∧ cause.kind ≠ "duplicate_name" := by
  rw [targetIssue?_eq_some, operandIssue?_eq_some] at h
  rcases h with ⟨_, _, _, -, ⟨-, rfl⟩ | ⟨-, -, -, -, rfl⟩⟩ |
    ⟨_, -, ⟨-, rfl⟩ | ⟨-, _, -, -, -, rfl⟩⟩ <;> simp [IssueCause.index?, IssueCause.kind]

theorem result_problem (h : s.resultIssue? n act = some cause) :
    cause.index? = some n ∧ cause.kind = "duplicate_name" := by
  obtain ⟨name, -, -, rfl⟩ := resultIssue?_eq_some.mp h
  exact ⟨rfl, rfl⟩

/-- An operation uses a target or an operand and not both. -/
theorem use_single : s.targetIssue? checkBindings n act = none ∨
    s.operandIssue? checkBindings n act = none := by
  cases act with
  | borrow name kind result => exact .inr rfl
  | _ => exact .inl rfl

theorem index_of_mem {issue : Issue} (h : issue ∈ s.issues checkBindings n op) :
    issue.cause.index? = some n := by
  obtain ⟨target | operand | result, -⟩ := mem_issues.mp h
  · exact (use_problem (.inl target)).1
  · exact (use_problem (.inr operand)).1
  · exact (result_problem result).1

/-- The problems of one operation are reported in order. -/
theorem issues_ordered : (s.issues checkBindings n op).Pairwise fun a b =>
    a.cause.Before b.cause := by
  have single : ∀ o : Option IssueCause, o.toList.Pairwise IssueCause.Before := by
    intro o
    cases o <;> simp
  rw [issues, List.pairwise_map, List.pairwise_append]
  refine ⟨?_, single _, ?_⟩
  · have alone : s.targetIssue? checkBindings n op.action = none ∨
        s.operandIssue? checkBindings n op.action = none := use_single
    rcases alone with none | none
    · simp [none, single]
    · simp [none, single]
  · intro c used d bound
    simp only [List.mem_append, Option.mem_toList] at used bound
    obtain ⟨here, other⟩ := use_problem used
    obtain ⟨here', duplicate⟩ := result_problem bound
    exact ⟨n, n, here, here', .inr ⟨rfl, other, duplicate⟩⟩

/-- Without the check of bindings the same is reported but for what the check is about. -/
theorem filter_issues : (s.issues true n op).filter (·.cause.kind ≠ "immutable_binding") =
    s.issues false n op := by
  let kept (cause : IssueCause) : Bool := cause.kind ≠ "immutable_binding"
  have target : (s.targetIssue? true n op.action).filter kept =
      s.targetIssue? false n op.action := by
    cases op.action with
    | borrow name kind result =>
      simp only [targetIssue?, Bool.true_and, Bool.false_and]
      split_ifs <;> simp_all [kept, IssueCause.kind]
    | _ => rfl
  have operand : (s.operandIssue? true n op.action).filter kept =
      s.operandIssue? false n op.action := by
    unfold operandIssue?
    cases op.action.operand? with
    | none => rfl
    | some name =>
      cases operandUse? op.action <;> dsimp only <;> split_ifs <;>
        simp_all [kept, IssueCause.kind]
  have result : (s.resultIssue? n op.action).filter kept = s.resultIssue? n op.action := by
    unfold resultIssue?
    cases op.action.result? with
    | none => rfl
    | some name => dsimp only; split_ifs <;> simp [kept, IssueCause.kind]
  calc (s.issues true n op).filter (·.cause.kind ≠ "immutable_binding")
      = (((s.targetIssue? true n op.action).toList ++ (s.operandIssue? true n op.action).toList ++
          (s.resultIssue? n op.action).toList).filter kept).map (⟨·, op.location⟩) := by
        rw [issues, List.filter_map]
        rfl
    _ = s.issues false n op := by
        rw [List.filter_append, List.filter_append, ← Option.toList_filter, ← Option.toList_filter,
          ← Option.toList_filter, target, operand, result, issues]

theorem filter_issuesFrom (s : Scope) (n : Nat) (l : List Operation) :
    (issuesFrom true s n l).filter (·.cause.kind ≠ "immutable_binding") = issuesFrom false s n l := by
  induction l generalizing s n with
  | nil => rfl
  | cons op l ih => rw [issuesFrom, List.filter_append, filter_issues, ih, issuesFrom]

/-- The problems of operations are those of each one, in the scope of those before it. -/
theorem issuesFrom_eq (checkBindings : Bool) (s : Scope) (index : Nat) (l : List Operation) :
    issuesFrom checkBindings s index l = (List.range l.length).flatMap fun n =>
      (l[n]?.map fun op => (s.afterAll (l.take n)).issues checkBindings (index + n) op).getD [] := by
  induction l generalizing s index with
  | nil => rfl
  | cons op l ih =>
    rw [issuesFrom, ih, List.length_cons, List.range_succ_eq_map, List.flatMap_cons,
      List.flatMap_map]
    congr 1
    refine List.flatMap_congr fun n _ => ?_
    rw [Nat.succ_eq_add_one, show index + (n + 1) = index + 1 + n by omega]
    rfl

end Scope

/-! ## The problems of a program -/

namespace Program

variable {p : Program} {n : Nat} {checkBindings : Bool}

/-- The problems of the operation at an index. -/
def issuesAt (p : Program) (checkBindings : Bool) (n : Nat) : List Issue :=
  (p.operations[n]?.map fun op => (p.scopeAt n).issues checkBindings n op).getD []

theorem issues_eq (p : Program) (checkBindings : Bool) :
    p.issues checkBindings = (List.range p.length).flatMap (p.issuesAt checkBindings) := by
  rw [issues, Scope.issuesFrom_eq]
  refine List.flatMap_congr fun n _ => ?_
  rw [Nat.zero_add]
  rfl

/-- What the pass reports of an operation are its problems. -/
theorem problem_iff {act : Action} {cause : IssueCause} : p.Problem checkBindings n act cause ↔
    (p.scopeAt n).targetIssue? checkBindings n act = some cause ∨
      (p.scopeAt n).operandIssue? checkBindings n act = some cause ∨
      (p.scopeAt n).resultIssue? n act = some cause := by
  rw [Scope.targetIssue?_eq_some, Scope.operandIssue?_eq_some, Scope.resultIssue?_eq_some]
  constructor
  · intro h
    cases h with
    | @unknownAllocation target result kind missing =>
      have unknown : (p.scopeAt n).hasAllocation target = false := by
        rw [← Bool.not_eq_true, hasAllocation_scopeAt]
        intro known
        obtain ⟨writable, declared⟩ := known
        exact missing writable declared
      exact .inl ⟨target, kind, result, rfl, .inl ⟨unknown, rfl⟩⟩
    | @unknownPointer _ name operand missing =>
      have unbound : (p.scopeAt n).binds name = false := by
        rw [← Bool.not_eq_true, binds_scopeAt]
        exact missing
      exact .inr (.inl ⟨name, operand, .inl ⟨unbound, rfl⟩⟩)
    | @duplicateName _ name result taken =>
      exact .inr (.inr ⟨name, result, binds_scopeAt.mpr taken, rfl⟩)
    | @immutableBorrow target result checked immutable =>
      exact .inl ⟨target, .unique, result, rfl, .inr ⟨hasAllocation_scopeAt.mpr ⟨false, immutable⟩,
        checked, rfl, isImmutable_scopeAt.mpr immutable, rfl⟩⟩
    | @immutableAssign source value checked immutable =>
      exact .inr (.inl ⟨source, rfl, .inr ⟨binds_scopeAt.mpr immutable.bound, .assign, rfl, checked,
        isImmutable_scopeAt.mpr immutable, rfl⟩⟩)
    | @immutablePass source function checked immutable =>
      exact .inr (.inl ⟨source, rfl, .inr ⟨binds_scopeAt.mpr immutable.bound, .pass, rfl, checked,
        isImmutable_scopeAt.mpr immutable, rfl⟩⟩)
  · intro h
    rcases h with ⟨target, kind, result, rfl, missing | immutable⟩ |
      ⟨name, operand, missing | immutable⟩ | ⟨name, result, taken, rfl⟩
    · obtain ⟨unknown, rfl⟩ := missing
      refine .unknownAllocation fun writable declared => ?_
      rw [hasAllocation_scopeAt.mpr ⟨writable, declared⟩] at unknown
      cases unknown
    · obtain ⟨-, checked, rfl, immutable, rfl⟩ := immutable
      exact .immutableBorrow checked (isImmutable_scopeAt.mp immutable)
    · obtain ⟨unbound, rfl⟩ := missing
      refine .unknownPointer operand fun bound => ?_
      rw [binds_scopeAt.mpr bound] at unbound
      cases unbound
    · obtain ⟨-, use, writes, checked, immutable, rfl⟩ := immutable
      have declared := isImmutable_scopeAt.mp immutable
      cases act with
      | write source value =>
        cases operand
        cases writes
        exact .immutableAssign checked declared
      | call source function =>
        cases operand
        cases writes
        exact .immutablePass checked declared
      | _ => cases writes
    · exact .duplicateName result (binds_scopeAt.mp taken)

theorem mem_issuesAt {issue : Issue} : issue ∈ p.issuesAt checkBindings n ↔
    ∃ op, p.operations[n]? = some op ∧ p.Problem checkBindings n op.action issue.cause ∧
      issue.location = op.location := by
  unfold issuesAt
  cases p.operations[n]? with
  | none => simp
  | some op => simp [Scope.mem_issues, problem_iff]

theorem index_of_mem {issue : Issue} (h : issue ∈ p.issuesAt checkBindings n) :
    issue.cause.index? = some n := by
  obtain ⟨op, -, problem, -⟩ := mem_issuesAt.mp h
  generalize op.action = act at problem
  generalize issue.cause = cause at problem
  cases problem <;> rfl

/-- The problems of a program are reported in the order of its operations. -/
theorem issues_ordered (p : Program) (checkBindings : Bool) :
    (p.issues checkBindings).Pairwise fun a b => a.cause.Before b.cause := by
  rw [issues_eq, List.pairwise_flatMap]
  constructor
  · intro n _
    unfold issuesAt
    cases p.operations[n]? with
    | none => exact .nil
    | some op => exact Scope.issues_ordered
  · refine List.pairwise_lt_range.imp fun {i j} earlier a ha b hb => ?_
    exact ⟨i, j, index_of_mem ha, index_of_mem hb, .inl earlier⟩

/-- The pass reports exactly the problems of the operations, in order. What an operation binds is
    reported after what it uses, and nothing is reported twice. The check of bindings adds its own
    problems and changes no other, and what follows in a program changes nothing of what is reported
    before. -/
theorem issues_exactly (p : Program) (checkBindings : Bool) :
    (∀ issue, issue ∈ p.issues checkBindings ↔ ∃ n op, p.operations[n]? = some op ∧
      p.Problem checkBindings n op.action issue.cause ∧ issue.location = op.location) ∧
    (p.issues checkBindings).Pairwise (fun a b => a.cause.Before b.cause) ∧
    (p.issues true).filter (·.cause.kind ≠ "immutable_binding") = p.issues false ∧
    ∀ q, p.issues checkBindings <+: (p ++ q).issues checkBindings := by
  refine ⟨?_, p.issues_ordered checkBindings, ?_, ?_⟩
  · intro issue
    rw [issues_eq, List.mem_flatMap]
    constructor
    · intro h
      obtain ⟨n, -, reported⟩ := h
      exact ⟨n, mem_issuesAt.mp reported⟩
    · intro h
      obtain ⟨n, op, here, problem⟩ := h
      have inside := (List.getElem?_eq_some_iff.mp here).1
      exact ⟨n, List.mem_range.mpr inside, mem_issuesAt.mpr ⟨op, here, problem⟩⟩
  · rw [issues_eq, issues_eq, List.filter_flatMap]
    refine List.flatMap_congr fun n _ => ?_
    unfold issuesAt
    cases p.operations[n]? with
    | none => rfl
    | some op => exact Scope.filter_issues
  · intro q
    have split : (p ++ q).issues checkBindings = _ :=
      Scope.issuesFrom_append checkBindings .empty 0 p.operations q.operations
    rw [split]
    exact List.prefix_append _ _

end Program

end PointerTrace
