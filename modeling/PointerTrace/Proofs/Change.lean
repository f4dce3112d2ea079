import PointerTrace.Machine.Basic
import PointerTrace.Proofs.StoreValidity

/- What carrying out an operation changes. `Change` lists the changes, one constructor for each way
   in which an operation can succeed: a declaration, a frame pushed for a derived pointer, a name
   bound to a pointer without tag, a granted read and a granted write. Whatever is stated of runs is
   proved from it, constructor by constructor. `Valid.change` is the invariant: the store keeps its
   discipline and every bound pointer has an allocation that recorded its tag. To one allocation
   every change is a step, whose event tells how the operation accessed it (`Change.allocation`). -/
namespace PointerTrace

/-- What an action accesses memory for, and the name that it goes through. -/
def Action.access? : Action → Option (Access × String)
  | .read source _ => some (.read, source)
  | .write source _ | .call source _ => some (.write, source)
  | _ => none

theorem Action.operand_of_access {act : Action} {access : Access} {source : String}
    (h : act.access? = some (access, source)) : act.operand? = some source := by
  cases act <;> cases h <;> rfl

/-! ## Pointers that a store knows -/

namespace Store

/-- The pointer has an allocation, and its tag was pushed there. -/
def Knows (s : Store) (p : Pointer) : Prop :=
  ∃ a, s.get? p.target = some a ∧ ∀ t, p.tag = some t → t ∈ a.tags

theorem Knows.recorded {s : Store} {p : Pointer} (known : s.Knows p) {a : Allocation}
    (found : s.get? p.target = some a) : ∀ t, p.tag = some t → t ∈ a.tags := by
  obtain ⟨b, placed, recorded⟩ := known
  rw [found, Option.some.injEq] at placed
  exact placed ▸ recorded

theorem lookup_rootPointer {s : Store} (hs : s.Valid) {name : String} {p : Pointer} :
    (s.lookup name >>= s.rootPointer) = .ok p ↔ ∃ a, s.named? name = some a ∧
      s.get? a.id = some a ∧ p = a.rootPointer := by
  unfold lookup rootPointer
  cases named : s.named? name with
  | none => simp [bind, Except.bind]
  | some a =>
    have found := hs.get?_of_named named
    simp [bind, Except.bind, get_eq_ok.mpr found, found, eq_comm]

/-- The variable of a declared name is a pointer with the tag of the lowest frame. -/
theorem Knows.root {s : Store} (hs : s.Valid) {a : Allocation} (found : s.get? a.id = some a) :
    s.Knows a.rootPointer := by
  refine ⟨a, found, ?_⟩
  intro t ht
  have ha := (hs.get? found).1
  obtain ⟨root, above, bottom, -, -, -⟩ := ha.rooted
  simp only [Allocation.rootPointer, bottom, List.head?_cons, Option.map_some,
    Option.some.injEq] at ht
  exact ht ▸ ha.tag_mem (by simp [bottom])

/-- A declared name stands for the pointer of its allocation. -/
theorem rootPointer_of_has {s : Store} (hs : s.Valid) {name : String} (h : s.has name = true) :
    ∃ p, (s.lookup name >>= s.rootPointer) = .ok p ∧ s.Knows p := by
  obtain ⟨a, named⟩ := Option.isSome_iff_exists.mp h
  have found := hs.get?_of_named named
  exact ⟨a.rootPointer, (lookup_rootPointer hs).mpr ⟨a, named, found, rfl⟩, .root hs found⟩

end Store

namespace Machine

/-- The operation derives a pointer from the given one and binds it to a name. -/
inductive Derives (m : Machine) : Action → BorrowKind → String → Pointer → Prop where
  | borrow {target result : String} {kind : BorrowKind} {p : Pointer}
      (resolved : (m.store.lookup target >>= m.store.rootPointer) = .ok p) :
      m.Derives (.borrow target kind result) kind result p
  | reborrow {source result : String} {kind : BorrowKind} {p : Pointer}
      (resolved : m.resolve source = .ok p) : m.Derives (.reborrow source kind result) kind result p

/-- The operation writes a value through a pointer. -/
inductive Writes (m : Machine) : Action → Pointer → Int → Prop where
  | write {source : String} {value : Int} {p : Pointer} (resolved : m.resolve source = .ok p) :
      m.Writes (.write source value) p value
  | call {source function : String} {p : Pointer} (resolved : m.resolve source = .ok p) :
      m.Writes (.call source function) p m.externalValue

/-- The operation accesses memory through a pointer. -/
def Accesses (m : Machine) (act : Action) (access : Access) (p : Pointer) : Prop :=
  ∃ source, act.access? = some (access, source) ∧ m.resolve source = .ok p

/-- The machine with a frame pushed for a pointer that is derived from a frame. -/
def derived (m : Machine) (target : AllocationId) (f : Frame) (permission : Permission)
    (result : String) : Machine :=
  { m with store := m.store.takeTag.2.modify target fun a =>
      a.push ⟨⟨m.store.nextTag⟩, permission, some f.tag⟩ }.bind
    result ⟨target, some ⟨m.store.nextTag⟩⟩

/-- The changes that operations make when they succeed. -/
inductive Change (m : Machine) : Action → Machine → Prop where
  | declare {name : String} {value : Int} {isMutable interiorMutable : Bool} {id : AllocationId}
      {store : Store}
      (declared : m.store.declare name value isMutable interiorMutable = .ok (id, store)) :
      m.Change (.declare name value isMutable interiorMutable) { m with store }
  | derive {act : Action} {kind : BorrowKind} {result : String} {p : Pointer} {a : Allocation}
      {f : Frame} (derives : m.Derives act kind result p) (found : m.store.get? p.target = some a)
      (present : f ∈ a.stack) (tagged : p.tag = some f.tag) (enabled : f.permission ≠ .disabled) :
      m.Change act (m.derived p.target f (f.permission.derive kind a.interiorMutable) result)
  | untagged {act : Action} {kind : BorrowKind} {result : String} {p : Pointer}
      (derives : m.Derives act kind result p) (noTag : p.tag = none) :
      m.Change act (m.bind result ⟨p.target, none⟩)
  | toInteger {source result : String} {p : Pointer} (resolved : m.resolve source = .ok p) :
      m.Change (.toInteger source result) (m.bind result ⟨p.target, none⟩)
  | read {source : String} {binding : Option String} {p : Pointer} {a : Allocation} {t : Tag}
      {grant : Grant} (resolved : m.resolve source = .ok p)
      (found : m.store.get? p.target = some a) (tagged : p.tag = some t)
      (granted : a.judge (some t) .read = .ok grant) :
      m.Change (.read source binding)
        { m with
          store := m.store.modify p.target fun a => a.apply grant
          reads := m.reads ++ [⟨m.pc, source, a.name, a.value⟩] }
  | write {act : Action} {p : Pointer} {value : Int} {a : Allocation} {t : Tag} {grant : Grant}
      (writes : m.Writes act p value) (found : m.store.get? p.target = some a)
      (tagged : p.tag = some t) (granted : a.judge (some t) .write = .ok grant) :
      m.Change act
        { m with store := m.store.modify p.target fun a => { a.apply grant with value } }

/-- What a machine keeps while it runs: the store its discipline, and every bound pointer an
    allocation that recorded its tag. -/
structure Valid (m : Machine) : Prop where
  store : m.store.Valid
  pointers : ∀ e ∈ m.pointers, m.store.Knows e.2

/-- What a name stands for is a pointer that the store knows. -/
theorem Valid.resolve {m : Machine} (hm : m.Valid) {name : String} {p : Pointer}
    (h : m.resolve name = .ok p) : m.store.Knows p := by
  unfold Machine.resolve at h
  cases bound : m.pointers.lookup name with
  | some q =>
    obtain ⟨before, after, split, -⟩ := List.lookup_eq_some_iff.mp bound
    simp only [bound, Except.ok.injEq] at h
    exact h ▸ hm.pointers (name, q) (by simp [split])
  | none =>
    simp only [bound] at h
    obtain ⟨a, -, found, rfl⟩ := (Store.lookup_rootPointer hm.store).mp h
    exact .root hm.store found

/-! ## What a change is to one allocation -/

theorem Derives.access {m : Machine} {act : Action} {kind : BorrowKind} {result : String}
    {p : Pointer} (h : m.Derives act kind result p) : act.access? = none := by
  cases h <;> rfl

theorem Derives.result {m : Machine} {act : Action} {kind : BorrowKind} {result : String}
    {p : Pointer} (h : m.Derives act kind result p) : act.result? = some result := by
  cases h <;> rfl

theorem Writes.accesses {m : Machine} {act : Action} {p : Pointer} {value : Int}
    (h : m.Writes act p value) : m.Accesses act .write p := by
  cases h with
  | write resolved => exact ⟨_, rfl, resolved⟩
  | call resolved => exact ⟨_, rfl, resolved⟩

theorem not_accesses {m : Machine} {act : Action} {access : Access} {p : Pointer}
    (h : act.access? = none) : ¬ m.Accesses act access p := by
  rintro ⟨source, reads, -⟩
  rw [h] at reads
  cases reads

/-- An operation accesses memory in one way and through one pointer. -/
theorem Accesses.eq {m : Machine} {act : Action} {access other : Access} {p q : Pointer}
    (h : m.Accesses act access p) (k : m.Accesses act other q) : access = other ∧ p = q := by
  obtain ⟨source, reads, resolved⟩ := h
  obtain ⟨source', reads', resolved'⟩ := k
  rw [reads, Option.some.injEq, Prod.mk.injEq] at reads'
  obtain ⟨rfl, rfl⟩ := reads'
  rw [resolved, Except.ok.injEq] at resolved'
  exact ⟨rfl, resolved'⟩

/-- Memory is only accessed through a pointer with a tag. -/
theorem Change.tagged {m m' : Machine} {act : Action} (h : m.Change act m') {access : Access}
    {p : Pointer} (accesses : m.Accesses act access p) : ∃ t, p.tag = some t := by
  cases h with
  | declare => exact absurd accesses (not_accesses rfl)
  | derive derives => exact absurd accesses (not_accesses derives.access)
  | untagged derives => exact absurd accesses (not_accesses derives.access)
  | toInteger => exact absurd accesses (not_accesses rfl)
  | read resolved _ tagged _ =>
    obtain ⟨-, rfl⟩ := accesses.eq ⟨_, rfl, resolved⟩
    exact ⟨_, tagged⟩
  | write writes _ tagged _ =>
    obtain ⟨-, rfl⟩ := accesses.eq writes.accesses
    exact ⟨_, tagged⟩

/-- The event is what the operation is to the allocation as far as accesses go. -/
def Shows (m : Machine) (act : Action) (id : AllocationId) (ev : Allocation.Event) : Prop :=
  ∀ access t, ev = .access t access ↔ m.Accesses act access ⟨id, some t⟩

theorem shows_of_no_access {m : Machine} {act : Action} {id : AllocationId}
    {ev : Allocation.Event} (h : act.access? = none) (idle : ∀ access t, ev ≠ .access t access) :
    m.Shows act id ev :=
  fun access t => ⟨fun e => absurd e (idle access t), fun accesses =>
    absurd accesses (not_accesses h)⟩

theorem Accesses.shows {m : Machine} {act : Action} {access : Access} {p : Pointer} {t : Tag}
    (h : m.Accesses act access p) (tagged : p.tag = some t) (id : AllocationId) :
    m.Shows act id (if id = p.target then .access t access else .idle) := by
  obtain ⟨target, tag⟩ := p
  subst tagged
  intro other u
  constructor
  · intro e
    split at e
    · next same =>
      cases e
      exact same ▸ h
    · cases e
  · intro k
    obtain ⟨rfl, e⟩ := h.eq k
    cases e
    rw [if_pos rfl]

/-- To an allocation, every change is a step, and its event tells how the operation accessed it. -/
theorem Change.allocation {m m' : Machine} {act : Action} (hm : m.Valid) (h : m.Change act m')
    {id : AllocationId} {a : Allocation} (found : m.store.get? id = some a) :
    ∃ ev a', m'.store.get? id = some a' ∧ a.Step ev a' ∧ m.Shows act id ev := by
  cases h with
  | declare declared =>
    exact ⟨.idle, a, Store.get?_declare declared found, .idle, shows_of_no_access rfl nofun⟩
  | @derive _ kind result p b f derives here present tagged enabled =>
    have changed := Store.get?_modify here found fun a =>
      a.push ⟨⟨m.store.nextTag⟩, f.permission.derive kind b.interiorMutable, some f.tag⟩
    -- the push is a step of the target and leaves the others idle
    by_cases same : id = p.target
    · subst same
      rw [here, Option.some.injEq] at found
      subst found
      rw [if_pos rfl] at changed
      exact ⟨.push _, _, changed, .push kind (hm.store.fresh (Store.mem_of_get? here)) present
        enabled, shows_of_no_access derives.access nofun⟩
    · rw [if_neg same] at changed
      exact ⟨.idle, a, changed, .idle, shows_of_no_access derives.access nofun⟩
  | untagged derives => exact ⟨.idle, a, found, .idle, shows_of_no_access derives.access nofun⟩
  | toInteger => exact ⟨.idle, a, found, .idle, shows_of_no_access rfl nofun⟩
  | @read source binding p b t grant resolved here tagged granted =>
    have accesses : m.Accesses (.read source binding) .read p := ⟨source, rfl, resolved⟩
    have changed := Store.get?_modify here found fun a => a.apply grant
    refine ⟨_, _, changed, ?_, accesses.shows tagged id⟩
    split
    · next same =>
      subst same
      rw [here, Option.some.injEq] at found
      subst found
      exact .access b.value granted fun _ => rfl
    · exact .idle
  | @write _ p value b t grant writes here tagged granted =>
    have changed := Store.get?_modify here found fun a => { a.apply grant with value }
    refine ⟨_, _, changed, ?_, writes.accesses.shows tagged id⟩
    split
    · next same =>
      subst same
      rw [here, Option.some.injEq] at found
      subst found
      exact .access value granted nofun
    · exact .idle

/-! ## Changes keep the invariant -/

theorem Change.knows {m m' : Machine} {act : Action} (hm : m.Valid) (h : m.Change act m')
    {p : Pointer} (known : m.store.Knows p) : m'.store.Knows p := by
  obtain ⟨a, found, recorded⟩ := known
  obtain ⟨ev, a', found', step, -⟩ := h.allocation hm found
  exact ⟨a', found', fun t tagged => step.mem_tags (recorded t tagged)⟩

theorem Derives.known {m : Machine} (hm : m.Valid) {act : Action} {kind : BorrowKind}
    {result : String} {p : Pointer} (h : m.Derives act kind result p) : m.store.Knows p := by
  cases h with
  | borrow resolved =>
    obtain ⟨a, -, found, rfl⟩ := (Store.lookup_rootPointer hm.store).mp resolved
    exact .root hm.store found
  | reborrow resolved => exact hm.resolve resolved

/-- Every change keeps the invariant. -/
theorem Valid.change {m m' : Machine} {act : Action} (hm : m.Valid) (h : m.Change act m') :
    m'.Valid := by
  have old : ∀ e ∈ m.pointers, m'.store.Knows e.2 := fun e he => h.knows hm (hm.pointers e he)
  have bound : ∀ (name : String) (p : Pointer), m'.store.Knows p →
      ∀ e ∈ m.pointers ++ [(name, p)], m'.store.Knows e.2 := by
    intro name p known e he
    rcases List.mem_append.mp he with he | he
    · exact old e he
    · rw [List.mem_singleton.mp he]
      exact known
  have erased : ∀ p : Pointer, m.store.Knows p → m.store.Knows ⟨p.target, none⟩ :=
    fun p known => known.imp fun a h => ⟨h.1, nofun⟩
  cases h with
  | declare declared => exact ⟨hm.store.declare declared, old⟩
  | @derive _ kind result p a f derives found present tagged enabled =>
    have fresh := hm.store.fresh (Store.mem_of_get? found)
    have valid := (hm.store.get? found).1
    have recorded := Allocation.tags_push (f := ⟨⟨m.store.nextTag⟩,
      f.permission.derive kind a.interiorMutable, some f.tag⟩) (Allocation.not_mem_of_fresh fresh)
    have step : a.Step (.push ⟨m.store.nextTag⟩) _ := .push kind fresh present enabled
    refine ⟨hm.store.modify_takeTag found (valid.step step) rfl recorded,
      bound _ _ ⟨_, Store.get?_modify_self found _, ?_⟩⟩
    intro t ht
    rw [recorded]
    cases ht
    exact List.mem_append_right _ (List.mem_singleton.mpr rfl)
  | untagged derives _ => exact ⟨hm.store, bound _ _ (erased _ (derives.known hm))⟩
  | toInteger resolved => exact ⟨hm.store, bound _ _ (erased _ (hm.resolve resolved))⟩
  | @read _ _ _ a _ _ _ found _ granted =>
    have valid := (hm.store.get? found).1.step (.access a.value granted fun _ => rfl)
    exact ⟨hm.store.modify found valid rfl rfl, old⟩
  | @write _ _ value _ _ _ _ found _ granted =>
    have valid := (hm.store.get? found).1.step (.access value granted nofun)
    exact ⟨hm.store.modify found valid rfl rfl, old⟩

end Machine

end PointerTrace
