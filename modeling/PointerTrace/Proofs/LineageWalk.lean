import PointerTrace.Proofs.Driving

/- The walk along a lineage. To decide whether a tag was derived from another one, parents are followed
   until the other tag is met or a tag has no parent; nothing else ends the walk (`Allocation.Walks`),
   and on a lineage with a cycle it may not end at all (`Allocation.not_walks_of_cycle`). Where every
   recorded parent is an older tag it ends after no more links than the lineage has entries, and the
   bounded walk `derives` gives its answer (`Allocation.walks_derives`). However a machine is driven,
   each of its allocations has such a lineage, and what is derived from what among tags that were
   pushed is settled once and for all (`Machine.lineage_decided`). -/
namespace PointerTrace

namespace Allocation

/-! ## The walk -/

/-- The walk that looks for an ancestor among a tag and those above it, or nowhere when the lineage is
    at its end: the number of parent links that it takes, and its answer. -/
inductive Walks (a : Allocation) (ancestor : Tag) : Option Tag → Nat → Bool → Prop where
  | ended : a.Walks ancestor none 0 false
  | met : a.Walks ancestor (some ancestor) 0 true
  | on {t : Tag} {links : Nat} {answer : Bool} (other : t ≠ ancestor)
      (rest : a.Walks ancestor (a.parentOf t) links answer) :
      a.Walks ancestor (some t) (links + 1) answer

variable {a : Allocation} {t u v : Tag}

/-- A walk ends in one way. -/
theorem Walks.unique {current : Option Tag} {links links' : Nat} {answer answer' : Bool}
    (h : a.Walks u current links answer) (h' : a.Walks u current links' answer') :
    links = links' ∧ answer = answer' := by
  induction h generalizing links' answer' with
  | ended =>
    cases h'
    exact ⟨rfl, rfl⟩
  | met =>
    cases h' with
    | met => exact ⟨rfl, rfl⟩
    | on other => exact absurd rfl other
  | on other _ ih =>
    cases h' with
    | met => exact absurd rfl other
    | on _ rest =>
      obtain ⟨same, answers⟩ := ih rest
      exact ⟨congrArg (· + 1) same, answers⟩

/-- The walk from a tag that is its own ancestor never ends, unless it meets what it looks for. -/
theorem not_walks_of_cycle (cycle : a.Descends t t) (apart : ¬ a.Descends t u) (links : Nat)
    (answer : Bool) : ¬ a.Walks u (a.parentOf t) links answer := by
  -- the tags on the cycle have parents on the cycle, and none of them is the one looked for
  have around : ∀ current links answer, a.Walks u current links answer →
      ∀ p, current = some p → a.Descends t p → ¬ a.Descends p t := by
    intro current links answer walk
    induction walk with
    | ended => nofun
    | met =>
      intro p here above
      cases here
      exact absurd above apart
    | on _ _ ih =>
      intro p here above back
      cases here
      obtain ⟨q, link, rest⟩ := descends_iff.mp back
      have higher : a.Descends t q := above.trans (.link link)
      refine ih q link higher ?_
      rcases rest with rfl | rest
      · exact cycle
      · exact rest
  intro walk
  obtain ⟨p, link, rest⟩ := descends_iff.mp cycle
  refine around _ links answer walk p link (.link link) ?_
  rcases rest with rfl | rest
  · exact cycle
  · exact rest

/-- The bounded walk gives the answer of the walk when it may take as many links as bound the chain. -/
theorem exists_walks {measure : Tag → Nat}
    (smaller : ∀ t p, a.parentOf t = some p → measure p < measure t) :
    ∀ (bound : Nat) (t : Tag), measure t ≤ bound →
      ∃ links ≤ bound, a.Walks u (a.parentOf t) links (a.derivesWithin u bound t) := by
  intro bound
  induction bound with
  | zero =>
    intro t le
    cases link : a.parentOf t with
    | none => exact ⟨0, Nat.le_refl 0, .ended⟩
    | some p =>
      have := smaller t p link
      omega
  | succ bound ih =>
    intro t le
    rw [derivesWithin]
    cases link : a.parentOf t with
    | none => exact ⟨0, Nat.zero_le _, .ended⟩
    | some p =>
      have := smaller t p link
      by_cases here : p = u
      · subst here
        exact ⟨0, Nat.zero_le _, by simpa using Walks.met⟩
      · obtain ⟨links, within, walk⟩ := ih p (by omega)
        refine ⟨links + 1, by omega, ?_⟩
        simpa only [here, if_false] using Walks.on here walk

/-- Where parents are older, the walk ends, after no more links than the lineage has entries, with the
    answer of the bounded walk. -/
theorem walks_derives (descending : a.Descending) (t u : Tag) :
    ∃ links ≤ a.lineage.length, a.Walks u (a.parentOf t) links (a.derives t u) :=
  exists_walks (fun _ _ => rank_lt_of_parentOf descending) _ t (a.rank_le_length t)

/-! ## The order of ancestors -/

/-- The ancestors of a tag stand in one line: a tag has one parent only. -/
theorem Descends.comparable (h : a.Descends t u) (k : a.Descends t v) :
    u = v ∨ a.Descends u v ∨ a.Descends v u := by
  have one : Relator.RightUnique fun t p => a.parentOf t = some p := by
    intro t p q hp hq
    rw [hp] at hq
    exact Option.some.inj hq
  rcases Relation.ReflTransGen.total_of_right_unique one h.to_reflTransGen k.to_reflTransGen with
    below | above
  · rcases Relation.reflTransGen_iff_eq_or_transGen.mp below with same | below
    · exact .inl same.symm
    · exact .inr (.inl below)
  · rcases Relation.reflTransGen_iff_eq_or_transGen.mp above with same | above
    · exact .inl same
    · exact .inr (.inr above)

/-- What the walk along a lineage decides. It ends, with one answer, which says whether the ancestor
    is reached by one or more parent links; no tag is its own ancestor, ancestors of ancestors are
    ancestors, and of two ancestors of one tag one is an ancestor of the other. -/
structure DecidesDerivation (a : Allocation) : Prop where
  ends : ∀ t u, ∃ links ≤ a.lineage.length, a.Walks u (a.parentOf t) links (a.derives t u)
  unique : ∀ t u links answer, a.Walks u (a.parentOf t) links answer → answer = a.derives t u
  reached : ∀ t u, a.derives t u = true ↔
    Relation.TransGen (fun t p => a.parentOf t = some p) t u
  irreflexive : ∀ t, a.derives t t = false
  transitive : ∀ t u v, a.derives t u = true → a.derives u v = true → a.derives t v = true
  comparable : ∀ t u v, a.derives t u = true → a.derives t v = true →
    u = v ∨ a.derives u v = true ∨ a.derives v u = true

theorem Descending.decidesDerivation (descending : a.Descending) : a.DecidesDerivation where
  ends := walks_derives descending
  unique := by
    intro t u links answer walk
    obtain ⟨_, -, own⟩ := walks_derives descending t u
    exact (walk.unique own).2
  reached := fun t u => derives_iff descending
  irreflexive := by
    intro t
    rw [Bool.eq_false_iff, Ne, derives_iff descending]
    intro h
    exact Int.lt_irrefl _ (h.older descending)
  transitive := by
    intro t u v h k
    rw [derives_iff descending] at h k ⊢
    exact h.trans k
  comparable := by
    intro t u v h k
    rw [derives_iff descending] at h k
    rw [derives_iff descending, derives_iff descending]
    exact h.comparable k

end Allocation

/-! ## Machines that are driven on -/

namespace Run

variable {r : Run} {m : Machine}

namespace Stage

/-- The memory of a machine at a stage is that of the state of the run at its program counter. -/
theorem state (stage : r.Stage m) : ∃ s, r.state? m.pc = some s ∧ m.store = s.store := by
  cases stage with
  | running found => exact ⟨m, (congrArg r.state? (reached found).pc).trans found, rfl⟩
  | @done last found => exact ⟨last, (congrArg r.state? (reached found).pc).trans found, rfl⟩
  | @fault n last op fault found here faults =>
    exact ⟨last, (congrArg r.state? (reached found).pc).trans found, rfl⟩

/-- No state of the run lies behind a stage where the machine is halted. -/
theorem le_pc_of_halted (stage : r.Stage m) (halted : m.status ≠ .running) {n : Nat}
    (more : (r.state? n).isSome) : n ≤ m.pc := by
  cases stage with
  | running found => exact absurd (reached found).status halted
  | @done last found =>
    obtain ⟨s, here⟩ := Option.isSome_iff_exists.mp more
    rw [show last.pc = r.program.length from (reached found).pc]
    exact le_length here
  | @fault k last op fault found here faults =>
    show n ≤ last.pc
    rw [(reached found).pc]
    by_contra beyond
    have next := state?_earlier (n := k + 1) (by omega) more
    rw [state?_of_faults found here faults] at next
    cases next

variable (clean : r.program.WellFormed r.options.checkBindings)
include clean

/-- No call takes a machine back. -/
theorem pc_called (stage : r.Stage m) (call : Machine.Call) : m.pc ≤ (m.called call).pc := by
  obtain ⟨s, here, -⟩ := stage.state
  have reaches : (r.state? m.pc).isSome := by rw [here]; rfl
  have next := stage.called clean call
  by_cases running : (m.called call).status = .running
  · cases call with
    | report => exact Nat.le_refl _
    | run =>
      obtain ⟨final, -, halted, ran⟩ := run_ends clean
      rw [Machine.called_of_run (ran m stage)] at running
      exact absurd running halted
    | step =>
      cases stepped : m.step with
      | error e => exact Nat.le_of_eq (congrArg Machine.pc (Machine.called_of_refused stepped).symm)
      | ok m' =>
        rw [Machine.called_of_step stepped] at running ⊢
        have own := Machine.step_eq_ok.mp stepped
        -- a machine that steps stands at a state of the run, and the next one is behind it
        cases stage with
        | @running n _ found =>
          have after : r.state? (n + 1) = some m' := by
            rw [state?, found]
            exact Machine.next?_eq_some.mpr ⟨stepped, running⟩
          rw [(reached found).pc, (reached after).pc]
          exact Nat.le_succ n
        | done => cases own.1
        | fault => cases own.1
  · exact next.le_pc_of_halted running reaches

theorem pc_driven (stage : r.Stage m) (calls : List Machine.Call) :
    m.pc ≤ (m.driven calls).pc := by
  induction calls generalizing m with
  | nil => exact Nat.le_refl _
  | cons call calls ih =>
    exact Nat.le_trans (stage.pc_called clean call) (ih (stage.called clean call))

/-- An allocation stays in the store of a machine that is driven on, and what was derived from what
    there never changes. -/
theorem derives_driven (stage : r.Stage m) (calls : List Machine.Call) {id : AllocationId}
    {a : Allocation} (found : m.store.get? id = some a) :
    a.Descending ∧ ∃ b, (m.driven calls).store.get? id = some b ∧
      ∀ t ∈ a.tags, ∀ u, b.derives t u = a.derives t u := by
  obtain ⟨s, here, store⟩ := stage.state
  obtain ⟨s', later, store'⟩ := (stage.driven clean calls).state
  have start : r.allocation? m.pc id = some a :=
    allocation?_eq_some.mpr ⟨s, here, store ▸ found⟩
  have le := stage.pc_driven clean calls
  obtain ⟨b, last⟩ := Run.allocation_later start le (by rw [later]; rfl)
  obtain ⟨s'', same, placed⟩ := allocation?_eq_some.mp last
  rw [later, Option.some.injEq] at same
  subst same
  refine ⟨(allocation_valid start).descending, b, store' ▸ placed, ?_⟩
  intro t ht u
  rw [Bool.eq_iff_iff, Allocation.derives_iff (allocation_valid last).descending,
    Allocation.derives_iff (allocation_valid start).descending]
  exact descends_later start ht le last

end Stage

end Run

namespace Machine

/-- Where every recorded parent is an older tag, the walk along the lineage decides derivation. However
    the machine of a program is driven, each of its allocations has such a lineage, and however it is
    driven on, the walk answers as before for every tag that was pushed until then. -/
theorem lineage_decided :
    (∀ a : Allocation, (∀ t p, a.parentOf t = some p → p.serial < t.serial) →
      a.DecidesDerivation) ∧
    ∀ (p : Program) (externalValue : Int) (checkBindings recording : Bool) (start : Machine),
      Machine.load p externalValue checkBindings recording = .ok start →
      ∀ (calls later : List Call) (id : AllocationId) (a : Allocation),
        (start.driven calls).store.get? id = some a →
        (∀ t p, a.parentOf t = some p → p.serial < t.serial) ∧
        ∃ b, (start.driven (calls ++ later)).store.get? id = some b ∧
          ∀ t ∈ a.tags, ∀ u, b.derives t u = a.derives t u := by
  refine ⟨fun a descending => Allocation.Descending.decidesDerivation descending, ?_⟩
  intro p externalValue checkBindings recording start loaded calls later id a found
  let r : Run := ⟨p, ⟨externalValue, checkBindings⟩, recording⟩
  have first : r.state? 0 = some start := by
    show (Machine.load p externalValue checkBindings recording).toOption = some start
    rw [loaded]
    rfl
  have clean := (Run.state?_zero first).1
  have stage : r.Stage (start.driven calls) := (Run.Stage.running first).driven clean calls
  rw [show start.driven (calls ++ later) = (start.driven calls).driven later from
    List.foldl_append]
  exact stage.derives_driven clean later found

/-- A pointer that is derived from a unique borrow, and a write that pops the frames of both. -/
def poppedChain : Program := (Run.ofActions [.declare "x" 0 true false, .borrow "x" .unique "m",
  .reborrow "m" .shared "s", .write "x" 1]).program

theorem lineage_decided_poppedChain : ∃ start a b,
    Machine.load poppedChain 1 false false = .ok start ∧
    (start.driven [.step, .step, .step]).store.get? 0 = some a ∧ a.DecidesDerivation ∧
    a.derives ⟨2⟩ ⟨0⟩ = true ∧ a.derives ⟨0⟩ ⟨2⟩ = false ∧ a.derives ⟨7⟩ ⟨0⟩ = false ∧
    (start.driven [.step, .step, .step, .run]).store.get? 0 = some b ∧ b.stack.length = 1 ∧
    b.derives ⟨2⟩ ⟨0⟩ = true := by
  obtain ⟨decides, driven⟩ := lineage_decided
  obtain ⟨descending, b, placed, kept⟩ := driven poppedChain 1 false false _ rfl
    [.step, .step, .step] [.run] 0 _ rfl
  have own : b.derives ⟨2⟩ ⟨0⟩ = true := by
    rw [kept ⟨2⟩ (by decide) ⟨0⟩]
    decide
  refine ⟨_, _, b, rfl, rfl, decides _ descending, by decide, by decide, by decide, placed, ?_, own⟩
  cases placed
  rfl

end Machine

end PointerTrace
