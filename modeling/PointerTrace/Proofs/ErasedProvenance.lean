import PointerTrace.Proofs.Derivation
import PointerTrace.Proofs.Progress
import PointerTrace.Proofs.Refusal

/- Erased provenance. A pointer has lost its tag exactly where its derivation holds a cast to an
   integer, however many links follow the cast. What is derived from it has no tag either and leaves
   memory as it is, and every access through it is at fault; no other access breaks the rule that
   accesses need a tag (`Run.untagged_of_cast`). -/
namespace PointerTrace

namespace Machine

variable {m : Machine} {op : Operation} {source result : String} {p : Pointer}

/-- A pointer that is derived from one without tag has none, and memory is left as it is. -/
theorem execute_derive_untagged (hm : m.Valid) (running : m.status = .running)
    (operand : op.action.operand? = some source) (bound : op.action.result? = some result)
    (resolved : m.resolve source = .ok p) (noTag : p.tag = none) :
    m.execute op = .ok ((m.bind result ⟨p.target, none⟩).advance op) := by
  obtain ⟨action, location⟩ := op
  have change : m.Change action (m.bind result ⟨p.target, none⟩) := by
    cases action with
    | reborrow source kind result =>
      cases operand
      cases bound
      exact .untagged (.reborrow resolved) noTag
    | toInteger source result =>
      cases operand
      cases bound
      exact .toInteger resolved
    | declare => cases operand
    | borrow => cases operand
    | read => cases bound
    | write => cases bound
    | call => cases bound
  exact change.execute hm running

/-- An access through a pointer without tag is at fault for that. -/
theorem execute_access_untagged (hm : m.Valid) {access : Access}
    (through : op.action.access? = some (access, source)) (resolved : m.resolve source = .ok p)
    (noTag : p.tag = none) :
    ∃ fault, m.execute op = .ok (m.faulted op fault) ∧ fault.rule = .untaggedAccess := by
  obtain ⟨a, found, -⟩ := hm.resolve resolved
  have refused : a.judge p.tag access = .error (a.faultOf access .untagged) := by
    rw [noTag]
    rfl
  have faults : m.Faults op.action (a.faultOf access .untagged) :=
    .access ⟨source, through, resolved⟩ found refused
  exact ⟨_, faults.execute, rfl⟩

end Machine

namespace Run

variable {r : Run}

/-- The tag that a name leads to is absent exactly if its derivation holds a cast to an integer. -/
theorem untagged_iff {n : Nat} {m : Machine} {name : String} {p : Pointer}
    (h : r.state? n = some m) (resolved : m.resolve name = .ok p) :
    p.tag = none ↔ none ∈ (r.program.derivation name).links := by
  obtain ⟨a, -, -, leads⟩ := (traced h).resolve (reached h).valid resolved
  exact leads.untagged_iff

/-- The rule that accesses need a tag is broken exactly by accesses through a name whose derivation
    holds a cast to an integer. -/
theorem faults_untagged_iff {n : Nat} {m : Machine} {op : Operation} {fault : AccessFault}
    (h : r.state? n = some m) (here : r.program.operations[n]? = some op)
    (faults : m.Faults op.action fault) : fault.rule = .untaggedAccess ↔
      ∃ access source, op.action.access? = some (access, source) ∧
        none ∈ (r.program.derivation source).links := by
  rw [faults.untagged_iff]
  constructor
  · rintro ⟨access, p, ⟨source, through, resolved⟩, noTag⟩
    exact ⟨access, source, through, (untagged_iff h resolved).mp noTag⟩
  · rintro ⟨access, source, through, cast⟩
    have found := ready (wellFormed h) h here
    obtain ⟨p, resolved⟩ := found.resolves (Action.operand_of_access through)
    exact ⟨access, p, ⟨source, through, resolved⟩, (untagged_iff h resolved).mpr cast⟩

/-- A bound pointer has no tag exactly if its derivation holds a cast to an integer. From a pointer
    without tag only such pointers are derived, which pushes nothing and issues no tag, and every
    access through one is at fault. An evaluation ends with a fault for a missing tag exactly if the
    operation at fault accesses memory through a name whose derivation holds a cast. -/
theorem untagged_of_cast (r : Run) :
    (∀ n m name p, r.state? n = some m → (name, p) ∈ m.pointers →
      (p.tag = none ↔ none ∈ (r.program.derivation name).links)) ∧
    (∀ n m op source p, r.state? n = some m → op.action.operand? = some source →
      m.resolve source = .ok p → p.tag = none →
      (∀ result, op.action.result? = some result → ∃ m', m.execute op = .ok m' ∧
        m'.status = .running ∧ m'.fault = none ∧ m'.store = m.store ∧
        m'.pointers = m.pointers ++ [(result, ⟨p.target, none⟩)]) ∧
      ∀ access, op.action.access? = some (access, source) →
        ∃ fault, m.execute op = .ok (m.faulted op fault) ∧ fault.rule = .untaggedAccess) ∧
    ∀ m fault, r.program.evaluate r.options r.recording = .ok m → m.fault = some fault →
      (fault.access.rule = .untaggedAccess ↔ ∃ op access source,
        r.program.operations[fault.index]? = some op ∧
        op.action.access? = some (access, source) ∧
        none ∈ (r.program.derivation source).links) := by
  refine ⟨?_, ?_, ?_⟩
  · intro n m name p h bound
    obtain ⟨a, -, -, leads⟩ := (traced h).pointers (name, p) bound
    exact leads.untagged_iff
  · intro n m op source p h operand resolved noTag
    have old := reached h
    constructor
    · intro result bound
      have executed := Machine.execute_derive_untagged old.valid old.status operand bound resolved noTag
      exact ⟨_, executed, old.status, old.fault, rfl, rfl⟩
    · intro access through
      exact Machine.execute_access_untagged old.valid through resolved noTag
  · intro m fault evaluated noted
    obtain ⟨last, op, found, here, faults, -⟩ := (ends_of_evaluate evaluated).faults noted
    rw [faults_untagged_iff found here faults]
    simp only [here, Option.some.injEq, exists_and_left, exists_eq_left']

/-- A unique pointer goes through an integer, back and on to another pointer, while a second
    pointer stays whole. -/
def roundTrip : Run := ofActions [.declare "x" 0 true false, .borrow "x" .unique "m",
  .reborrow "m" .unique "k", .toInteger "m" "i", .reborrow "i" .unique "p",
  .reborrow "p" .shared "q", .write "k" 1, .read "q" none]

theorem untagged_of_cast_roundTrip :
    (∃ m, roundTrip.state? 6 = some m ∧ m.store.nextTag = 3 ∧ ∃ p, m.resolve "q" = .ok p ∧
      p.tag = none ∧ ∃ fault, m.execute ⟨.read "q" none, none⟩ =
        .ok (m.faulted ⟨.read "q" none, none⟩ fault)) ∧
    ∃ op access source, roundTrip.program.operations[7]? = some op ∧
      op.action.access? = some (access, source) ∧
      none ∈ (roundTrip.program.derivation source).links := by
  obtain ⟨untagged, behind, violated⟩ := untagged_of_cast roundTrip
  have noTag := (untagged 6 _ "q" ⟨0, none⟩ rfl (by decide)).mpr (by decide)
  obtain ⟨-, faults⟩ := behind 6 _ ⟨.read "q" none, none⟩ "q" ⟨0, none⟩ rfl rfl rfl noTag
  obtain ⟨fault, executed, -⟩ := faults .read rfl
  exact ⟨⟨_, rfl, rfl, _, rfl, noTag, fault, executed⟩, (violated _ _ rfl rfl).mp rfl⟩

end Run

end PointerTrace
