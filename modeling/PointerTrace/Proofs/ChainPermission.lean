import PointerTrace.Proofs.Authority
import PointerTrace.Proofs.Derivation
import PointerTrace.Proofs.Progress
import PointerTrace.Proofs.Refusal

/- Permissions follow the derivation. A frame is pushed by a declaration or for a derived pointer
   (`Machine.Change.pushed`), and what it grants is a function of the chain that the program derives
   the pointer by (`Permission.ofChain`), whatever accesses came between the links. From then on it
   only ever loses its authority. So a shared link in the chain of a pointer to plain data rules out
   writing through it for good (`Allocation.Leads.refuses_write`), and read-only violations are
   violations on plain data (`Run.permission_of_chain`). -/
namespace PointerTrace

theorem Permission.ofChain_shared {kinds : List BorrowKind} (shared : .shared ∈ kinds) :
    ofChain false kinds = .sharedReadOnly := by
  simp [ofChain, shared]

/-- A shared link to plain data leads to no tag that may be written through. -/
theorem Allocation.Leads.refuses_write {a : Allocation} {links : List (Option BorrowKind)}
    {tag : Option Tag} (h : a.Leads links tag) (ha : a.Valid) (plain : a.interiorMutable = false)
    (shared : some .shared ∈ links) : a.Refuses tag .write := by
  cases h with
  | erased => exact a.refuses_untagged .write
  | pushed kinds pushed =>
    have inside : BorrowKind.shared ∈ kinds := by simpa using shared
    rw [plain, Permission.ofChain_shared inside] at pushed
    apply (ha.refuses_write_iff plain).mpr
    intro exclusive
    exact pushed.not_live exclusive.live

namespace Machine

variable {m m' : Machine} {of : String → Derivation} {act : Action} {id : AllocationId} {f : Frame}

theorem stackOf_of_get? {a : Allocation} (found : m.store.get? id = some a) :
    m.stackOf id = a.stack := by
  simp [stackOf, found]

/-- An access pushes nothing. -/
theorem stackOf_apply_ne {a : Allocation} {grant : Grant} : (a.apply grant).stack ≠ a.stack ++ [f] := by
  intro grown
  have lengths := congrArg List.length grown
  have kept := List.length_filter_le (fun g : Frame => decide (g.tag ∉ grant.popped)) a.stack
  simp only [Allocation.apply, List.length_map, List.length_append, List.length_singleton] at lengths
  omega

/-- What an operation pushes has the permission of the chain of the name that it binds. -/
theorem Change.pushed (traced : m.Traced of) (hm : m.Valid) (change : m.Change act m')
    (grown : m'.stackOf id = m.stackOf id ++ [f]) :
    ∃ name d kinds a, act.derived? of = some (name, d) ∧ d.links = kinds.map some ∧
      m'.store.get? id = some a ∧ a.name = d.origin ∧
      f.permission = .ofChain a.interiorMutable kinds := by
  -- the frame is new at this place, which no operation but the two that push can bring about
  have moved : m'.store.get? id ≠ m.store.get? id := by
    intro same
    rw [stackOf, stackOf, same] at grown
    simp at grown
  cases change with
  | @declare name value isMutable interiorMutable id' store declared =>
    by_cases here : id = id'
    · obtain ⟨found, absent⟩ := Store.get?_declared declared
      subst here
      simp only [stackOf, found, absent, Option.map_some, Option.map_none, Option.getD_some,
        Option.getD_none, List.nil_append] at grown
      simp only [Store.declared, Allocation.push, List.nil_append, List.cons.injEq, and_true] at grown
      subst grown
      exact ⟨name, .root name, [], _, rfl, rfl, found, rfl, (Permission.ofChain_nil _).symm⟩
    · exact absurd (Store.get?_declare_of_ne declared here) moved
  | @derive _ kind result p a parent derives found present tagged enabled =>
    by_cases here : id = p.target
    · subst here
      obtain ⟨d, follows, derived⟩ := derives.follows traced hm
      obtain ⟨name, leads⟩ := follows.at found
      rw [tagged] at leads
      obtain ⟨kinds, links, permission⟩ := leads.derive present enabled kind
      have changed := Store.get?_modify_self (s := m.store.takeTag.2) found fun b => b.push
        ⟨⟨m.store.nextTag⟩, parent.permission.derive kind a.interiorMutable, some parent.tag⟩
      rw [stackOf_of_get? (m := m.derived p.target parent _ result) changed,
        stackOf_of_get? found] at grown
      simp only [Allocation.push, List.append_cancel_left_eq, List.cons.injEq, and_true] at grown
      subst grown
      have longer : (d.extend (some kind)).links = (kinds ++ [kind]).map some := by
        simp [Derivation.extend, links]
      exact ⟨result, _, kinds ++ [kind], _, derived, longer, changed, name, permission⟩
    · exact absurd (Store.get?_modify_of_ne (s := m.store.takeTag.2) found here _) moved
  | untagged => exact absurd rfl moved
  | toInteger => exact absurd rfl moved
  | @read source binding p a t grant resolved found tagged granted =>
    by_cases here : id = p.target
    · subst here
      have changed := Store.get?_modify_self found fun a => a.apply grant
      rw [stackOf_of_get? changed, stackOf_of_get? found] at grown
      exact absurd grown stackOf_apply_ne
    · exact absurd (Store.get?_modify_of_ne found here _) moved
  | @write _ p value a t grant writes found tagged granted =>
    by_cases here : id = p.target
    · subst here
      have changed := Store.get?_modify_self found fun a => { a.apply grant with value }
      rw [stackOf_of_get? changed, stackOf_of_get? found] at grown
      exact absurd grown stackOf_apply_ne
    · exact absurd (Store.get?_modify_of_ne found here _) moved

end Machine

namespace Run

variable {r : Run}

/-- A frame that a run pushes was pushed for a name, with the permission of the name's chain. -/
theorem Pushes.derivation {n : Nat} {id : AllocationId} {f : Frame} (h : r.Pushes n id f) :
    ∃ op name kinds a, r.program.operations[n]? = some op ∧ op.action.result? = some name ∧
      (r.program.derivation name).links = kinds.map some ∧ r.allocation? (n + 1) id = some a ∧
      a.name = (r.program.derivation name).origin ∧
      f.permission = .ofChain a.interiorMutable kinds := by
  obtain ⟨known, grown⟩ := h
  obtain ⟨stack, before⟩ := Option.isSome_iff_exists.mp known
  rw [before, Option.map_some] at grown
  obtain ⟨m', next, after⟩ := Option.map_eq_some_iff.mp grown
  obtain ⟨m, op, m₁, found, here, change, rfl⟩ := state?_succ next
  have same : m.stackOf id = stack := by
    rw [stack?, found, Option.map_some, Option.some.injEq] at before
    exact before
  have traced := traced found
  obtain ⟨name, d, kinds, a, derived, links, placed, origin, permission⟩ :=
    change.pushed traced (reached found).valid (show m₁.stackOf id = m.stackOf id ++ [f] by
      rw [same]
      exact after)
  have fits := Program.derivation_eq (wellFormed found) (List.mem_of_getElem? here) derived
  have result : op.action.result? = some name := by
    rw [← Action.derived?_fst r.program.derivation, derived]
    rfl
  exact ⟨op, name, kinds, a, here, result, fits ▸ links,
    allocation?_eq_some.mpr ⟨_, next, placed⟩, fits ▸ origin, permission⟩

/-- Every frame that a run pushes has the permission of the chain of the name that it is pushed for,
    and keeps it unless it is unique and gets disabled. Read-only frames are those of plain data and
    frames for shared writing those of interior-mutable data; plain data are never written through a
    name whose chain has a shared link, and a write is refused for a read-only frame on plain data
    alone. -/
theorem permission_of_chain (r : Run) :
    (∀ n id f, r.Pushes n id f → ∃ op name kinds a,
      r.program.operations[n]? = some op ∧ op.action.result? = some name ∧
      (r.program.derivation name).links = kinds.map some ∧
      r.allocation? (n + 1) id = some a ∧ a.name = (r.program.derivation name).origin ∧
      f.permission = .ofChain a.interiorMutable kinds ∧
      ∀ k b g, n < k → r.allocation? k id = some b → g ∈ b.stack → g.tag = f.tag →
        g.permission = f.permission ∨ f.permission = .unique ∧ g.permission = .disabled) ∧
    (∀ n id a, r.allocation? n id = some a → ∀ f ∈ a.stack,
      (f.permission = .sharedReadOnly → a.interiorMutable = false) ∧
      (f.permission = .sharedReadWrite → a.interiorMutable = true)) ∧
    (∀ n m source p, r.state? n = some m → m.resolve source = .ok p →
      some .shared ∈ (r.program.derivation source).links →
      ∃ a, m.store.get? p.target = some a ∧
        (a.interiorMutable = false → a.Refuses p.tag .write)) ∧
    ∀ m fault, r.program.evaluate r.options r.recording = .ok m → m.fault = some fault →
      fault.access.rule = .readOnlyViolation →
      ∃ a, m.store.named? fault.access.allocation = some a ∧ a.interiorMutable = false := by
  refine ⟨?_, ?_, ?_, ?_⟩
  · intro n id f pushes
    obtain ⟨op, name, kinds, a, here, result, links, placed, origin, permission⟩ :=
      pushes.derivation
    refine ⟨op, name, kinds, a, here, result, links, placed, origin, permission, ?_⟩
    intro k b g later found inside same
    exact (pushes.pushedAs later found).frame g inside same
  · intro n id a found f inside
    have ha := allocation_valid found
    exact ⟨ha.readOnly_plain f inside, ha.readWrite_interior f inside⟩
  · intro n m source p found resolved shared
    have valid := (reached found).valid
    obtain ⟨a, placed, -, leads⟩ := (traced found).resolve valid resolved
    refine ⟨a, placed, ?_⟩
    intro plain
    exact leads.refuses_write (valid.store.get? placed).1 plain shared
  · intro m fault evaluated noted readOnly
    obtain ⟨last, op, found, here, faults, same⟩ := (ends_of_evaluate evaluated).faults noted
    obtain ⟨p, a, -, placed, plain, name⟩ := faults.readOnly readOnly
    refine ⟨a, ?_, plain⟩
    rw [same, name]
    exact Store.named?_of_get? (names_distinct found) placed

/-- A unique pointer is cast to a shared one and back, on plain data and on interior-mutable data. -/
def castBack : Run := ofActions [.declare "x" 0 true false, .declare "c" 0 false true,
  .borrow "x" .unique "m", .reborrow "m" .shared "s", .reborrow "s" .unique "u",
  .borrow "c" .shared "t", .reborrow "t" .unique "v", .write "u" 1]

theorem permission_of_chain_castBack :
    (∃ kinds, (castBack.program.derivation "u").links = kinds.map some ∧
      Permission.ofChain false kinds = .sharedReadOnly) ∧
    ∃ m a, castBack.program.evaluate {} false = .ok m ∧
      m.store.named? "x" = some a ∧ a.interiorMutable = false := by
  obtain ⟨pushed, -, -, violated⟩ := permission_of_chain castBack
  obtain ⟨op, name, kinds, a, here, result, links, placed, -, permission, -⟩ :=
    pushed 4 0 ⟨⟨4⟩, .sharedReadOnly, some ⟨3⟩⟩ (by decide)
  cases here
  cases result
  cases placed
  obtain ⟨b, named, plain⟩ := violated _ _ rfl rfl rfl
  exact ⟨⟨kinds, links, permission.symm⟩, _, b, rfl, named, plain⟩

end Run

end PointerTrace
