import PointerTrace.Proofs.Authority
import PointerTrace.Proofs.Progress

/- Chains of reborrows and the authority at their ends. Deriving a pointer looks at the parent's own
   frame only, while a write also looks at the frames above: a pointer that is blocked by a borrow
   above it can be reborrowed as unique, and the new frame stands above the borrow
   (`Run.not_forall_reborrows_refused`). Nothing else is won: the new frame is live and unique exactly
   when the parent's frame is and the link is unique (`Reborrowed.holds_iff`), and being the youngest
   it grants a write exactly then. So at the end of a chain a write is refused unless the frame at
   the start is live and all links are unique (`Run.refused_after_reborrows`). -/
namespace PointerTrace

/-- On plain data a derived frame is unique when its parent is and the borrow is. -/
theorem Permission.derive_eq_unique {p : Permission} (kind : BorrowKind) (enabled : p ≠ .disabled)
    (plain : p ≠ .sharedReadWrite) :
    p.derive kind false = .unique ↔ p = .unique ∧ kind = .unique := by
  cases p <;> cases kind <;> simp_all [Permission.derive]

/-- One reborrow of a chain: its kind and the name of its result. -/
structure Link where
  kind : BorrowKind
  result : String
  deriving DecidableEq, Repr

/-- The reborrows of a chain: the first of a given name, every other of the result before. -/
def chain : String → List Link → List Action
  | _, [] => []
  | source, link :: links => .reborrow source link.kind link.result :: chain link.result links

/-- The name of the pointer at the end of a chain. -/
def chainEnd : String → List Link → String
  | source, [] => source
  | _, link :: links => chainEnd link.result links

theorem length_chain (source : String) (links : List Link) :
    (chain source links).length = links.length := by
  induction links generalizing source with
  | nil => rfl
  | cons link links ih => simp [chain, ih]

namespace Allocation

/-- The pointer's own frame is live and unique. -/
def Holds (a : Allocation) (tag : Option Tag) : Prop := ∃ t, tag = some t ∧ a.Live t

/-- What a reborrow does: from a pointer without tag it makes another one; otherwise it pushes a frame
    for a new tag. -/
inductive Reborrowed (a : Allocation) (kind : BorrowKind) :
    Option Tag → Option Tag → Allocation → Prop where
  | untagged : a.Reborrowed kind none none a
  | pushed {t : Tag} {f : Frame} (fresh : ∀ u ∈ a.tags, u.serial < t.serial)
      (present : f ∈ a.stack) (enabled : f.permission ≠ .disabled) :
      a.Reborrowed kind (some f.tag) (some t)
        (a.push ⟨t, f.permission.derive kind a.interiorMutable, some f.tag⟩)

namespace Reborrowed

variable {a b : Allocation} {kind : BorrowKind} {tag tag' : Option Tag}

theorem interiorMutable_eq (h : a.Reborrowed kind tag tag' b) :
    b.interiorMutable = a.interiorMutable := by
  cases h <;> rfl

/-- The new frame is live and unique exactly when the parent's is and the reborrow is unique. -/
theorem holds_iff (h : a.Reborrowed kind tag tag' b) (ha : a.Valid)
    (plain : a.interiorMutable = false) : b.Holds tag' ↔ a.Holds tag ∧ kind = .unique := by
  cases h with
  | untagged => simp [Holds]
  | @pushed t f fresh present enabled =>
    have notShared : f.permission ≠ .sharedReadWrite := fun shared => by
      rw [ha.readWrite_interior f present shared] at plain
      cases plain
    have derived := Permission.derive_eq_unique kind enabled notShared
    have hb := ha.push kind fresh present enabled
    constructor
    · rintro ⟨u, same, g, hg, rfl, unique⟩
      cases same
      have own := hb.eq_of_tag hg (List.mem_append_right _ (List.mem_singleton.mpr rfl)) rfl
      rw [own, plain] at unique
      obtain ⟨parent, kind_eq⟩ := derived.mp unique
      exact ⟨⟨f.tag, rfl, f, present, rfl, parent⟩, kind_eq⟩
    · rintro ⟨⟨u, same, g, hg, tag_eq, unique⟩, kind_eq⟩
      rw [Option.some.injEq] at same
      rw [ha.eq_of_tag hg present (tag_eq.trans same.symm)] at unique
      refine ⟨t, rfl, _, List.mem_append_right _ (List.mem_singleton.mpr rfl), rfl, ?_⟩
      show f.permission.derive kind a.interiorMutable = _
      rw [plain]
      exact derived.mpr ⟨unique, kind_eq⟩

/-- The new frame is the youngest, so that a write through it is refused only for its own sake. -/
theorem refuses_iff (h : a.Reborrowed kind tag tag' b) (ha : a.Valid)
    (plain : a.interiorMutable = false) : b.Refuses tag' .write ↔ ¬ b.Holds tag' := by
  cases h with
  | untagged => simp [Holds, refuses_untagged]
  | @pushed t f fresh present enabled =>
    have hb := ha.push kind fresh present enabled
    rw [hb.refuses_write_iff plain, not_iff_not]
    constructor
    · exact fun inForce => ⟨t, rfl, inForce.live⟩
    · rintro ⟨u, same, live⟩
      cases same
      refine ⟨live, fun u younger live_u => ?_⟩
      -- no tag is younger than the new one
      have inside := live_u.mem hb
      rw [tags_push (not_mem_of_fresh fresh), List.mem_append, List.mem_singleton] at inside
      rcases inside with old | rfl
      · have := fresh u old
        omega
      · omega

end Reborrowed

/-- Where the pointer's own frame is live, only a borrow above it can stand in the way of a write. -/
theorem Valid.conflict_of_holds {a : Allocation} (ha : a.Valid) {tag : Option Tag}
    (holds : a.Holds tag) {fault : AccessFault} (refused : a.judge tag .write = .error fault) :
    ∃ t holder, fault.cause = .conflict t holder := by
  obtain ⟨t, rfl, e, he, tag_eq, unique⟩ := holds
  unfold judge find at refused
  cases found : depthOf a.stack t with
  | none => exact absurd tag_eq (depthOf_eq_none.mp found e he)
  | some depth =>
    obtain ⟨below, f, above, cut, rfl, same, -⟩ := depthOf_eq_some.mp found
    have own : f = e := ha.eq_of_tag (by simp [cut]) he (same.trans tag_eq.symm)
    simp only [found] at refused
    simp only [cut, List.drop_left, judgeAt, own, unique, reduceCtorEq, if_false, decide_false,
      Bool.and_false, Bool.false_and, Bool.false_eq_true] at refused
    split at refused
    · next holder _ =>
      cases refused
      exact ⟨t, holder.tag, rfl⟩
    · cases refused

end Allocation

/-- A new name stands for the pointer that it is bound to. -/
theorem Machine.resolve_of_bound {m : Machine} {l : List (String × Pointer)} {name : String}
    {p : Pointer} (unbound : l.lookup name = none) (bound : m.pointers = l ++ [(name, p)]) :
    m.resolve name = .ok p := by
  simp [resolve, bound, List.lookup_append, unbound]

namespace Run

variable {r : Run} {n : Nat} {m m' : Machine} {p : Pointer} {a : Allocation} {source : String}

/-- A reborrow that is carried out. -/
theorem reborrowed {op : Operation} {kind : BorrowKind} {result : String}
    (h : r.state? n = some m) (here : r.program.operations[n]? = some op)
    (action : op.action = .reborrow source kind result) (h' : r.state? (n + 1) = some m')
    (resolved : m.resolve source = .ok p) (found : m.store.get? p.target = some a) :
    ∃ tag b, m'.resolve result = .ok ⟨p.target, tag⟩ ∧ m'.store.get? p.target = some b ∧
      a.Reborrowed kind p.tag tag b := by
  have unbound := result_unbound h here (show _ = some result by rw [action]; rfl)
  obtain ⟨after, change, rfl⟩ := change_between h here h'
  rw [action] at change
  cases change with
  | @derive _ _ _ q b f derives placed present tagged enabled =>
    cases derives with
    | reborrow resolved' =>
      rw [resolved, Except.ok.injEq] at resolved'
      subst resolved'
      rw [found, Option.some.injEq] at placed
      subst placed
      have fresh := (reached h).valid.store.fresh (Store.mem_of_get? found)
      refine ⟨some ⟨m.store.nextTag⟩, _, Machine.resolve_of_bound unbound rfl,
        Store.get?_modify_self found _, ?_⟩
      rw [tagged]
      exact .pushed fresh present enabled
  | @untagged _ _ _ q derives noTag =>
    cases derives with
    | reborrow resolved' =>
      rw [resolved, Except.ok.injEq] at resolved'
      subst resolved'
      refine ⟨none, a, Machine.resolve_of_bound unbound rfl, found, ?_⟩
      rw [noTag]
      exact .untagged
  | write writes => cases writes

/-- What a write through the end of a chain of reborrows meets. -/
theorem chain_refuses {links : List Link} {rest : List Action} (h : r.state? n = some m)
    (resolved : m.resolve source = .ok p) (found : m.store.get? p.target = some a)
    (plain : a.interiorMutable = false) (nonempty : links ≠ [])
    (following : r.program.actions.drop n = chain source links ++ rest)
    (h' : r.state? (n + links.length) = some m') :
    ∃ tag b, m'.resolve (chainEnd source links) = .ok ⟨p.target, tag⟩ ∧
      m'.store.get? p.target = some b ∧
      (b.Refuses tag .write ↔ ¬ (a.Holds p.tag ∧ ∀ link ∈ links, link.kind = .unique)) := by
  induction links generalizing n m source p a with
  | nil => exact absurd rfl nonempty
  | cons link links ih =>
    -- the first link is carried out, and the rest of the chain starts from its result
    have length : (link :: links).length = links.length + 1 := List.length_cons
    obtain ⟨m₁, h₁⟩ := Option.isSome_iff_exists.mp
      (state?_earlier (show n + 1 ≤ n + (link :: links).length by omega) (by rw [h']; rfl))
    obtain ⟨op, here, action⟩ : ∃ op, r.program.operations[n]? = some op ∧
        op.action = .reborrow source link.kind link.result := by
      have first := congrArg List.head? following
      simpa [Program.actions, List.head?_drop, chain] using first
    have later : r.program.actions.drop (n + 1) = chain link.result links ++ rest := by
      rw [← List.drop_drop, following]
      rfl
    obtain ⟨tag, b, resolved₁, found₁, step⟩ := reborrowed h here action h₁ resolved found
    have ha := allocation_valid (allocation?_eq_some.mpr ⟨m, h, found⟩)
    have holds := step.holds_iff ha plain
    cases links with
    | nil =>
      rw [show n + [link].length = n + 1 from rfl, h₁, Option.some.injEq] at h'
      subst h'
      refine ⟨tag, b, resolved₁, found₁, ?_⟩
      rw [step.refuses_iff ha plain, holds]
      simp
    | cons next links =>
      have plain₁ := step.interiorMutable_eq.trans plain
      have same : n + 1 + (next :: links).length = n + (link :: next :: links).length := by omega
      obtain ⟨tag', c, resolved', found', refuses⟩ :=
        ih h₁ resolved₁ found₁ plain₁ nofun later (by rw [same, h'])
      refine ⟨tag', c, resolved', found', ?_⟩
      rw [refuses, holds]
      simp only [List.forall_mem_cons, and_assoc]

/-- A write that would be refused is not carried out. -/
theorem not_performs_of_refuses (h : r.state? n = some m)
    (found : m.store.get? p.target = some a) (refused : a.Refuses p.tag .write) :
    ¬ r.Performs n .write p := by
  intro performs
  obtain ⟨t, b, b', tagged, moved⟩ := performs.moves
  have same := moved.before
  rw [allocation?_eq_some.mpr ⟨m, h, found⟩, Option.some.injEq] at same
  subst same
  obtain ⟨fault, refused⟩ := refused
  cases moved.step with
  | access _ granted _ =>
    rw [← tagged, refused] at granted
    cases granted

/-- Two unique borrows side by side; the older one, which the younger one blocks, is reborrowed as
    unique, and the result is written through. -/
def overtaken : Run := ofActions [.declare "x" 0 true false, .borrow "x" .unique "a",
  .borrow "x" .unique "b", .reborrow "a" .unique "c", .write "c" 1]

/-- A reborrow of a pointer through which a write would be refused may be written through. -/
theorem not_forall_reborrows_refused :
    ¬ ∀ (r : Run) (n : Nat) (m : Machine) (p : Pointer) (a : Allocation) (source : String)
      (links : List Link) (act : Action) (rest : List Action),
      r.state? n = some m → m.resolve source = .ok p → m.store.get? p.target = some a →
      a.interiorMutable = false → a.Refuses p.tag .write → links ≠ [] →
      r.program.actions.drop n = chain source links ++ act :: rest →
      act.access? = some (.write, chainEnd source links) →
      ∃ k, n ≤ k ∧ k ≤ n + links.length ∧ r.FaultsAt k := by
  intro refused
  obtain ⟨k, -, -, m, fault, evaluated, halted, -⟩ := refused overtaken 3 _ ⟨0, some ⟨1⟩⟩ _ "a"
    [⟨.unique, "c"⟩] (.write "c" 1) [] rfl rfl rfl rfl ⟨_, rfl⟩ nofun rfl rfl
  cases evaluated
  cases halted

/-- At the end of a chain of reborrows from a pointer to plain data, a write is refused unless the
    pointer's own frame was live and unique and all links are unique. So the run ends with a fault
    of a reborrow or of the write when a write through the end follows the chain. A pointer whose
    own frame is live and unique is itself refused a write only where it conflicts with a borrow
    above. -/
theorem refused_after_reborrows {links : List Link} {rest : List Action} (h : r.state? n = some m)
    (resolved : m.resolve source = .ok p) (found : m.store.get? p.target = some a)
    (plain : a.interiorMutable = false) (nonempty : links ≠ [])
    (following : r.program.actions.drop n = chain source links ++ rest) :
    (∀ m', r.state? (n + links.length) = some m' → ∃ tag b,
      m'.resolve (chainEnd source links) = .ok ⟨p.target, tag⟩ ∧
      m'.store.get? p.target = some b ∧
      (b.Refuses tag .write ↔ ¬ (a.Holds p.tag ∧ ∀ link ∈ links, link.kind = .unique))) ∧
    (¬ (a.Holds p.tag ∧ ∀ link ∈ links, link.kind = .unique) →
      ∀ act, rest.head? = some act → act.access? = some (.write, chainEnd source links) →
        ∃ k, n ≤ k ∧ k ≤ n + links.length ∧ r.FaultsAt k) ∧
    (a.Holds p.tag → ∀ fault, a.judge p.tag .write = .error fault →
      ∃ t holder, fault.cause = .conflict t holder) := by
  have ends := fun m' (h' : r.state? (n + links.length) = some m') =>
    chain_refuses h resolved found plain nonempty following h'
  refine ⟨ends, ?_, fun holds fault refused =>
    (allocation_valid (allocation?_eq_some.mpr ⟨m, h, found⟩)).conflict_of_holds holds refused⟩
  intro lost act next writes
  obtain ⟨op, here, action⟩ : ∃ op, r.program.operations[n + links.length]? = some op ∧
      op.action = act := by
    have beyond : r.program.actions.drop (n + links.length) = rest := by
      rw [← List.drop_drop, following, ← length_chain source, List.drop_left]
    rw [← beyond, List.head?_drop] at next
    simpa [Program.actions] using next
  -- the write is not carried out, whether or not the chain is
  have stops : r.state? (n + links.length + 1) = none := by
    by_contra more
    have more := Option.isSome_iff_ne_none.mpr more
    obtain ⟨m', h'⟩ := Option.isSome_iff_exists.mp (state?_earlier (Nat.le_succ _) more)
    obtain ⟨tag, b, resolved', found', refuses⟩ := ends m' h'
    refine not_performs_of_refuses h' found' (p := ⟨p.target, tag⟩) (refuses.mpr lost) ?_
    exact performs_iff.mpr ⟨m', op, h', more, here, _, by rw [action]; exact writes, resolved'⟩
  obtain ⟨k, low, high, faults⟩ := faultsAt_of_none h stops (List.getElem?_eq_some_iff.mp here).1
  exact ⟨k, low, Nat.lt_succ_iff.mp high, faults⟩

/-- The blocked borrow again, reborrowed as shared and then as unique. -/
def demoted : Run := ofActions [.declare "x" 0 true false, .borrow "x" .unique "a",
  .borrow "x" .unique "b", .reborrow "a" .shared "c", .reborrow "c" .unique "d", .write "d" 1]

theorem refused_after_reborrows_demoted : (∃ a, demoted.allocation? 3 0 = some a ∧
    a.Refuses (some ⟨1⟩) .write) ∧ ∃ k, 3 ≤ k ∧ k ≤ 5 ∧ demoted.FaultsAt k := by
  have nonempty : [⟨.shared, "c"⟩, ⟨.unique, "d"⟩] ≠ ([] : List Link) := nofun
  have following : demoted.program.actions.drop 3 =
      chain "a" [⟨.shared, "c"⟩, ⟨.unique, "d"⟩] ++ [.write "d" 1] := rfl
  obtain ⟨-, ends, -⟩ := refused_after_reborrows (r := demoted) rfl
    (show Machine.resolve _ "a" = .ok ⟨0, some ⟨1⟩⟩ from rfl) rfl rfl nonempty following
  exact ⟨⟨_, rfl, _, rfl⟩, ends (by simp) _ rfl rfl⟩

end Run

end PointerTrace
