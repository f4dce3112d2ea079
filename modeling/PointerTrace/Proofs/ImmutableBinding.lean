import PointerTrace.Proofs.Authority
import PointerTrace.Proofs.Progress

/- Immutable bindings. The pass over the names, asked to check bindings, reports unique borrows of
   immutable variables and writes and calls through their own names; a unique reborrow of such a
   variable's own name, which does what a unique borrow of it does, it lets pass
   (`Run.not_forall_immutable_kept`). Without such a reborrow an immutable variable of plain data
   keeps its declared value in every reachable state (`Run.value_of_immutable`): all frames derived
   from its root are read-only and no pointer name is bound to the root (`Shielded`), so that only
   its own name could be written through. -/
namespace PointerTrace

/-! ## What the pass knows of the variables -/

namespace Scope

/-- The pass and the machine agree on the variables and on which of them may be written. -/
def Tracks (s : Scope) (m : Machine) : Prop :=
  ∀ name, s.allocations.lookup name =
    (m.store.named? name).map fun a => a.isMutable || a.interiorMutable

variable {s : Scope} {m m' : Machine} {index : Nat} {op : Operation}

theorem tracks_start (p : Program) (externalValue : Int) (recording : Bool) :
    empty.Tracks (.start p externalValue recording) :=
  fun _ => rfl

/-- A change of an allocation that keeps its name and its flags. -/
theorem Tracks.modify (h : s.Tracks m) (hm : m.Valid) {id : AllocationId} {b : Allocation}
    (found : m.store.get? id = some b) {f : Allocation → Allocation}
    (name : ∀ a, (f a).name = a.name) (isMutable : ∀ a, (f a).isMutable = a.isMutable)
    (interiorMutable : ∀ a, (f a).interiorMutable = a.interiorMutable)
    (same : m'.store.allocations = (m.store.modify id f).allocations) : s.Tracks m' := by
  intro other
  rw [h, hm.store.named?_modify found name same, Option.map_map]
  congr 1
  funext a
  simp only [Function.comp_apply]
  -- the changed allocation has the flags that it had
  split <;> simp [isMutable, interiorMutable]

/-- After an operation without problems the pass and the machine agree again. -/
theorem Tracks.change {checkBindings : Bool} (h : s.Tracks m) (hm : m.Valid)
    (clean : s.issues checkBindings index op = []) (change : m.Change op.action m') :
    (s.after op.action).Tracks m' := by
  obtain ⟨action, location⟩ := op
  cases change with
  | @declare name value isMutable interiorMutable id store declared =>
    have free := result_free clean rfl
    intro other
    simp only [after, Action.result?, free, Store.named?_declare declared]
    by_cases here : other = name
    · simp [here, Store.declared, Allocation.push]
    · simp [List.lookup_cons, beq_eq_false_iff_ne.mpr here, here, h other]
  | @derive _ kind result p a f derives found present tagged enabled =>
    obtain ⟨binds, scope⟩ := after_derives (s := s) derives
    rw [scope (result_free clean binds)]
    exact h.modify hm found (f := fun b => b.push _) (fun _ => rfl) (fun _ => rfl) (fun _ => rfl) rfl
  | @untagged _ kind result p derives noTag =>
    obtain ⟨binds, scope⟩ := after_derives (s := s) derives
    rw [scope (result_free clean binds)]
    exact h
  | @toInteger source result p resolved =>
    have free := result_free clean rfl
    have scope : s.after (.toInteger source result) =
        { s with pointers := result :: s.pointers } := by
      simp [after, Action.result?, free]
    rw [scope]
    exact h
  | @read source binding p a t grant resolved found tagged granted =>
    rw [after_of_no_result rfl]
    exact h.modify hm found (f := fun b => b.apply grant) (fun _ => rfl) (fun _ => rfl)
      (fun _ => rfl) rfl
  | @write _ p value a t grant writes found tagged granted =>
    rw [after_of_no_result (by cases writes <;> rfl)]
    exact h.modify hm found (f := fun b => { b.apply grant with value }) (fun _ => rfl)
      (fun _ => rfl) (fun _ => rfl) rfl

/-- What an operation without problems does not do to an immutable variable: write through its name
    or borrow it as unique. -/
theorem spares_immutable (clean : s.issues true index op = []) {name : String}
    (immutable : s.isImmutable name = true) : op.action.access? ≠ some (.write, name) ∧
      ∀ result, op.action ≠ .borrow name .unique result := by
  have allowed := issues_eq_nil.mp clean
  constructor
  · intro writes
    have checked : (operandUse? op.action).isSome = true := by
      cases act : op.action <;> rw [act] at writes <;> cases writes <;> rfl
    have mutable := (allowed.operand name (Action.operand_of_access writes)).2 rfl checked
    rw [immutable] at mutable
    cases mutable
  · intro result borrows
    have mutable := (allowed.target name .unique result borrows).2 rfl rfl
    rw [immutable] at mutable
    cases mutable

/-- Where the pass agrees with the machine, it takes for immutable what the machine does. -/
theorem Tracks.isImmutable (h : s.Tracks m) {a : Allocation} (named : m.store.named? a.name = some a)
    (immutable : a.isMutable = false) (plain : a.interiorMutable = false) :
    s.isImmutable a.name = true := by
  simp [Scope.isImmutable, h a.name, named, immutable, plain]

end Scope

/-! ## Variables that only their own names can write -/

/-- The operation neither writes through a variable's own name nor makes a unique pointer of it. -/
structure Action.Spares (act : Action) (name : String) : Prop where
  writes : act.access? ≠ some (.write, name)
  borrows : ∀ result, act ≠ .borrow name .unique result
  reborrows : ∀ result, act ≠ .reborrow name .unique result

namespace Allocation

/-- Every frame that was derived from another grants reading only. -/
def ReadOnlyAbove (a : Allocation) : Prop :=
  ∀ f ∈ a.stack, f.parent ≠ none → f.permission = .sharedReadOnly

namespace ReadOnlyAbove

variable {a : Allocation} (h : a.ReadOnlyAbove)
include h

/-- Plain data are written through the lowest frame only. -/
theorem parentOf_of_write (ha : a.Valid) (plain : a.interiorMutable = false) {t : Tag} {grant : Grant}
    (granted : a.judge (some t) .write = .ok grant) : a.parentOf t = none := by
  obtain ⟨f, hf, rfl, unique⟩ := ((ha.write_granted_iff plain).mp ⟨grant, granted⟩).live
  rw [ha.parentOf_tag hf]
  by_contra derived
  rw [h f hf derived] at unique
  cases unique

theorem push {g : Frame} (readOnly : g.permission = .sharedReadOnly) :
    (a.push g).ReadOnlyAbove := by
  intro f hf derived
  rcases List.mem_append.mp hf with hf | hf
  · exact h f hf derived
  · rw [List.mem_singleton.mp hf, readOnly]

theorem apply (ha : a.Valid) {t : Tag} {access : Access} {grant : Grant}
    (granted : a.judge (some t) access = .ok grant) : (a.apply grant).ReadOnlyAbove := by
  intro g hg derived
  obtain ⟨f, hf, -, parent, same⟩ := ha.origin granted hg
  have readOnly := h f hf (parent ▸ derived)
  rcases same with rfl | ⟨-, -, unique, -⟩
  · exact readOnly
  · rw [readOnly] at unique
    cases unique

end ReadOnlyAbove

end Allocation

namespace Machine

/-- A variable of plain immutable data that only its own name could write: the frames derived from its
    lowest grant reading only, and pointer names are bound to such frames or to no tag. -/
structure Shielded (m : Machine) (a : Allocation) : Prop where
  named : m.store.named? a.name = some a
  immutable : a.isMutable = false
  plain : a.interiorMutable = false
  readOnlyAbove : a.ReadOnlyAbove
  pointers : ∀ e ∈ m.pointers, a.id = e.2.target → ∀ t, e.2.tag = some t → a.parentOf t ≠ none

/-- A new variable is shielded: no pointer to it is there yet. -/
theorem shielded_declare {m : Machine} (hm : m.Valid) {name : String} {value : Int}
    {id : AllocationId} {store : Store}
    (declared : m.store.declare name value false false = .ok (id, store)) :
    Shielded { m with store } (m.store.declared name value false false) where
  named := by
    show store.named? name = _
    rw [Store.named?_declare declared, if_pos rfl]
  immutable := rfl
  plain := rfl
  readOnlyAbove := by
    intro f hf derived
    rw [List.mem_singleton.mp hf] at derived
    exact absurd rfl derived
  pointers := by
    intro e he here
    obtain ⟨-, absent⟩ := Store.get?_declared declared
    obtain ⟨-, rfl, -⟩ := Store.declare_eq_ok.mp declared
    obtain ⟨b, found, -⟩ := hm.pointers e he
    -- the store knows every pointer, and nothing at the new id
    rw [← here] at found
    exact absurd (found.symm.trans absent) nofun

namespace Shielded

variable {m m' : Machine} {a : Allocation} (h : m.Shielded a)
include h

theorem advance (op : Operation) : (m.advance op).Shielded a :=
  ⟨h.named, h.immutable, h.plain, h.readOnlyAbove, h.pointers⟩

/-- A pointer without tag. -/
theorem bind_untagged (result : String) (target : AllocationId) :
    (m.bind result ⟨target, none⟩).Shielded a where
  named := h.named
  immutable := h.immutable
  plain := h.plain
  readOnlyAbove := h.readOnlyAbove
  pointers := by
    intro e he same t tagged
    rcases List.mem_append.mp he with he | he
    · exact h.pointers e he same t tagged
    · rw [List.mem_singleton.mp he] at tagged
      cases tagged

variable (hm : m.Valid)
include hm

/-- The variable is the allocation at its id. -/
theorem eq_of_get? {id : AllocationId} {b : Allocation} (found : m.store.get? id = some b)
    (here : a.id = id) : b = a := by
  have own := hm.store.get?_of_named h.named
  rw [here, found] at own
  exact Option.some.inj own

/-- A pointer to the variable has the tag of a frame that was derived, unless its name is the
    variable's own. -/
theorem resolve {source : String} {p : Pointer} {t : Tag} (resolved : m.resolve source = .ok p)
    (here : a.id = p.target) (tagged : p.tag = some t) :
    a.parentOf t ≠ none ∨ source = a.name := by
  rcases resolve_cases hm resolved with bound | ⟨b, named, found, rfl⟩
  · exact .inl (h.pointers (source, p) bound here t tagged)
  · have same := h.eq_of_get? hm found here
    exact .inr ((Store.name_of_named? named).symm.trans (congrArg Allocation.name same))

/-- A pointer that is made of the variable's own name is a shared one. -/
theorem derives {act : Action} (spares : act.Spares a.name) {kind : BorrowKind} {result : String}
    {p : Pointer} {t : Tag} (derives : m.Derives act kind result p) (here : a.id = p.target)
    (tagged : p.tag = some t) : a.parentOf t ≠ none ∨ kind = .shared := by
  cases derives with
  | borrow resolved =>
    obtain ⟨b, named, found, rfl⟩ := (Store.lookup_rootPointer hm.store).mp resolved
    have target := Store.name_of_named? named
    rw [h.eq_of_get? hm found here] at target
    subst target
    cases kind with
    | shared => exact .inr rfl
    | unique => exact absurd rfl (spares.borrows result)
  | reborrow resolved =>
    refine (h.resolve hm resolved here tagged).imp_right fun own => ?_
    subst own
    cases kind with
    | shared => rfl
    | unique => exact absurd rfl (spares.reborrows result)

theorem named_modify {id : AllocationId} {b : Allocation} (found : m.store.get? id = some b)
    {f : Allocation → Allocation} (name : ∀ c, (f c).name = c.name) {store : Store}
    (same : store.allocations = (m.store.modify id f).allocations) :
    store.named? a.name = some (if a.id = id then f a else a) := by
  rw [hm.store.named?_modify found name same, h.named, Option.map_some]

/-- The change of another allocation. -/
theorem modify_other {id : AllocationId} {b : Allocation} (found : m.store.get? id = some b)
    (apart : a.id ≠ id) {f : Allocation → Allocation} (name : ∀ c, (f c).name = c.name)
    (same : m'.store.allocations = (m.store.modify id f).allocations)
    (pointers : ∀ e ∈ m'.pointers, e ∈ m.pointers ∨ e.2.target = id) : m'.Shielded a where
  named := by rw [h.named_modify hm found name same, if_neg apart]
  immutable := h.immutable
  plain := h.plain
  readOnlyAbove := h.readOnlyAbove
  pointers := by
    intro e he here
    rcases pointers e he with old | other
    · exact h.pointers e old here
    · exact absurd (here.trans other) apart

/-- A frame derived from the variable, which grants reading only. -/
theorem derived {p : Pointer} {f : Frame} {permission : Permission} {result : String}
    (found : m.store.get? p.target = some a) (here : a.id = p.target)
    (readOnly : permission = .sharedReadOnly) :
    (m.derived p.target f permission result).Shielded
      (a.push ⟨⟨m.store.nextTag⟩, permission, some f.tag⟩) where
  named := by
    have named : (m.derived p.target f permission result).store.named? a.name = _ :=
      h.named_modify hm found (f := fun c => c.push ⟨⟨m.store.nextTag⟩, permission, some f.tag⟩)
        (fun _ => rfl) rfl
    rw [if_pos here] at named
    exact named
  immutable := h.immutable
  plain := h.plain
  readOnlyAbove := h.readOnlyAbove.push readOnly
  pointers := by
    intro e he same t tagged
    rw [Allocation.parentOf_push]
    split
    · exact nofun
    · next old =>
      rcases List.mem_append.mp he with he | he
      · exact h.pointers e he same t tagged
      · rw [List.mem_singleton.mp he] at tagged
        exact absurd (Option.some.inj tagged).symm old

/-- A read of the variable. -/
theorem read {t : Tag} {grant : Grant} {reads : List Observation}
    (found : m.store.get? a.id = some a) (granted : a.judge (some t) .read = .ok grant) :
    Shielded { m with store := m.store.modify a.id fun c => c.apply grant, reads }
      (a.apply grant) where
  named := by
    have named : (m.store.modify a.id fun c => c.apply grant).named? a.name = _ :=
      h.named_modify hm found (f := fun c => c.apply grant) (fun _ => rfl) rfl
    rw [if_pos rfl] at named
    exact named
  immutable := h.immutable
  plain := h.plain
  readOnlyAbove := h.readOnlyAbove.apply (hm.store.get? found).1 granted
  pointers := h.pointers

/-- An operation that spares the variable leaves it shielded and with its value. -/
theorem change {act : Action} (spares : act.Spares a.name) (change : m.Change act m') :
    ∃ b, m'.Shielded b ∧ b.name = a.name ∧ b.value = a.value := by
  cases change with
  | @declare name value isMutable interiorMutable id store declared =>
    refine ⟨a, ⟨?_, h.immutable, h.plain, h.readOnlyAbove, h.pointers⟩, rfl, rfl⟩
    have free := (Store.declare_eq_ok.mp declared).1
    have other : a.name ≠ name := by
      rintro rfl
      simp [Store.has, h.named] at free
    show store.named? a.name = some a
    rw [Store.named?_declare declared, if_neg other, h.named]
  | @derive _ kind result p b f derives found present tagged enabled =>
    by_cases here : a.id = p.target
    · -- the new frame is read-only, since its parent is or the borrow is shared
      obtain rfl := h.eq_of_get? hm found here
      have readOnly : f.permission.derive kind b.interiorMutable = .sharedReadOnly := by
        rw [h.plain]
        rcases h.derives hm spares derives here tagged with parent | rfl
        · rw [(hm.store.get? found).1.parentOf_tag present] at parent
          rw [h.readOnlyAbove f present parent, Permission.derive_readOnly]
        · rfl
      exact ⟨_, h.derived hm found here readOnly, rfl, rfl⟩
    · refine ⟨a, h.modify_other hm found here (f := fun c => c.push _) (fun _ => rfl) rfl ?_,
        rfl, rfl⟩
      intro e he
      exact (List.mem_append.mp he).imp_right fun new => by rw [List.mem_singleton.mp new]
  | untagged => exact ⟨a, h.bind_untagged _ _, rfl, rfl⟩
  | toInteger => exact ⟨a, h.bind_untagged _ _, rfl, rfl⟩
  | @read source binding p b t grant resolved found tagged granted =>
    by_cases here : a.id = p.target
    · obtain rfl := h.eq_of_get? hm found here
      rw [← here] at found ⊢
      exact ⟨_, h.read hm found granted, rfl, rfl⟩
    · exact ⟨a, h.modify_other hm found here (f := fun c => c.apply grant) (fun _ => rfl) rfl
        fun _ => .inl, rfl, rfl⟩
  | @write _ p value b t grant writes found tagged granted =>
    -- a write to the variable would go through its lowest frame and hence through its own name
    have apart : a.id ≠ p.target := by
      intro here
      obtain rfl := h.eq_of_get? hm found here
      have lowest := h.readOnlyAbove.parentOf_of_write (hm.store.get? found).1 h.plain granted
      obtain ⟨source, through, resolved⟩ := writes.accesses
      rcases h.resolve hm resolved here tagged with derived | rfl
      · exact derived lowest
      · exact spares.writes through
    exact ⟨a, h.modify_other hm found apart (f := fun c => { c.apply grant with value })
      (fun _ => rfl) rfl fun _ => .inl, rfl, rfl⟩

end Shielded

end Machine

namespace Run

variable {r : Run}

/-- In every state of a run the pass knows which variables may be written. -/
theorem tracks (clean : r.program.WellFormed r.options.checkBindings) {n : Nat} {m : Machine}
    (h : r.state? n = some m) :
    (Scope.empty.afterAll (r.program.operations.take n)).Tracks m := by
  refine scope_induction (Scope.tracks_start _ _ _) ?_ clean h
  intro s m index op after valid clean change shared
  have tracked := shared.change valid clean change
  exact tracked

/-- Where bindings are checked, an operation that does not reborrow a shielded variable as unique
    spares it. -/
theorem spares {n : Nat} {m : Machine} (checked : r.options.checkBindings = true)
    (h : r.state? n = some m) {op : Operation} (here : r.program.operations[n]? = some op)
    {a : Allocation} (shielded : m.Shielded a)
    (uncast : ∀ result, op.action ≠ .reborrow a.name .unique result) :
    op.action.Spares a.name := by
  have clean := wellFormed h
  have tracked := tracks clean h
  rw [checked] at clean
  have immutable := tracked.isImmutable shielded.named shielded.immutable shielded.plain
  obtain ⟨writes, borrows⟩ :=
    Scope.spares_immutable (Scope.issues_of_issuesFrom clean here) immutable
  exact ⟨writes, borrows, uncast⟩

/-- The variable that an operation declares as plain and immutable. -/
theorem shielded_of_declare {i : Nat} {m : Machine} {op : Operation} {name : String} {value : Int}
    (here : r.program.operations[i]? = some op) (declares : op.action = .declare name value false false)
    (h : r.state? (i + 1) = some m) : ∃ a, m.Shielded a ∧ a.name = name ∧ a.value = value := by
  obtain ⟨before, op', after, found, here', change, rfl⟩ := state?_succ h
  rw [here, Option.some.injEq] at here'
  subst here'
  rw [declares] at change
  cases change with
  | declare declared =>
    exact ⟨_, (Machine.shielded_declare (reached found).valid declared).advance op, rfl, rfl⟩
  | derive derives => cases derives
  | untagged derives => cases derives
  | write writes => cases writes

/-- From its declaration on, a plain and immutable variable is shielded and keeps its value. -/
theorem shielded {i n : Nat} {m : Machine} {op : Operation} {name : String} {value : Int}
    (checked : r.options.checkBindings = true) (here : r.program.operations[i]? = some op)
    (declares : op.action = .declare name value false false)
    (uncast : ∀ result, .reborrow name .unique result ∉ r.program.actions.take n)
    (later : i < n) (h : r.state? n = some m) :
    ∃ a, m.Shielded a ∧ a.name = name ∧ a.value = value := by
  induction later generalizing m with
  | refl => exact shielded_of_declare here declares h
  | @step n _ ih =>
    obtain ⟨before, op, after, found, here, change, rfl⟩ := state?_succ h
    have taken : r.program.actions.take (n + 1) = r.program.actions.take n ++ [op.action] := by
      rw [List.take_add_one, Program.actions, List.getElem?_map, here]
      rfl
    simp only [taken, List.mem_append, List.mem_singleton, not_or] at uncast
    obtain ⟨a, shielded, rfl, rfl⟩ := ih (fun result => (uncast result).1) found
    have spared := spares checked found here shielded fun result => Ne.symm (uncast result).2
    obtain ⟨b, kept, name, value⟩ := shielded.change (reached found).valid spared change
    exact ⟨b, kept.advance op, name, value⟩

/-- An immutable variable whose own name is reborrowed as unique, which the pass lets pass, and then
    written through the result. -/
def recast : Run := { ofActions [.declare "x" 0 false false, .reborrow "x" .unique "p",
  .write "p" 1] with options := ⟨1, true⟩ }

/-- The check of bindings alone does not keep the value of an immutable variable. -/
theorem not_forall_immutable_kept :
    ¬ ∀ (r : Run) (i n : Nat) (m : Machine) (op : Operation) (name : String) (value : Int),
      r.options.checkBindings = true → r.program.operations[i]? = some op →
      op.action = .declare name value false false → i < n → r.state? n = some m →
      ∃ a, m.store.named? name = some a ∧ a.value = value := by
  intro kept
  obtain ⟨a, named, value⟩ := kept recast 0 3 _ _ "x" 0 rfl rfl rfl (by decide) rfl
  cases named
  cases value

/-- Where bindings are checked, a variable that is neither mutable nor interior-mutable has its
    declared value in every state after its declaration, and in the one that the evaluation ends
    with, as long as its own name was not reborrowed as unique. -/
theorem value_of_immutable {i n : Nat} {m : Machine} {op : Operation} {name : String} {value : Int}
    (checked : r.options.checkBindings = true) (here : r.program.operations[i]? = some op)
    (declares : op.action = .declare name value false false)
    (uncast : ∀ result, .reborrow name .unique result ∉ r.program.actions.take n)
    (later : i < n) (h : r.state? n = some m ∨
      r.program.evaluate r.options r.recording = .ok m ∧ m.pc = n) :
    ∃ a, m.store.named? name = some a ∧ a.value = value := by
  obtain ⟨last, found, same⟩ : ∃ last, r.state? n = some last ∧ m.store = last.store := by
    rcases h with found | ⟨evaluated, rfl⟩
    · exact ⟨m, found, rfl⟩
    · exact (ends_of_evaluate evaluated).last
  obtain ⟨a, shielded, rfl, rfl⟩ := shielded checked here declares uncast later found
  exact ⟨a, same ▸ shielded.named, rfl⟩

/-- An immutable variable that is borrowed as shared, and the borrow reborrowed as unique, beside a
    mutable one that is written. -/
def lent : Run := { ofActions [.declare "x" 7 false false, .declare "y" 0 true false,
  .borrow "x" .shared "r", .reborrow "r" .unique "p", .write "y" 1, .read "p" none] with
  options := ⟨1, true⟩ }

theorem value_of_immutable_lent : ∃ m a, lent.state? 6 = some m ∧
    m.store.named? "x" = some a ∧ a.value = 7 := by
  have uncast : ∀ result, Action.reborrow "x" .unique result ∉ lent.program.actions.take 6 := by
    simp [lent, ofActions, Program.actions]
  obtain ⟨a, named, value⟩ := value_of_immutable (r := lent) (i := 0) rfl rfl rfl uncast
    (by decide) (.inl rfl)
  exact ⟨_, a, rfl, named, value⟩

end Run

end PointerTrace
