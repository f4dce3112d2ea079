import PointerTrace.Proofs.LiveBorrow
import PointerTrace.Proofs.NameResolution

/- Where the names of a program come from. A pass over the operations follows every bound name back to
   a variable, through the operands, and keeps the links in between (`Program.derivation`). In a
   well-formed program a name is derived as its own operation says (`Program.derivation_eq`), and the
   machine agrees with the pass in every state: a pointer stands in the allocation of its variable,
   it has lost its tag where a link is a cast to an integer, and otherwise a frame was pushed for it
   with the permission of its chain (`Machine.Traced`, `Run.traced`). -/
namespace PointerTrace

/-- How a name is derived: the variable that it goes back to and the links from there on. A link
    is the kind of a borrow, and none for a cast to an integer. -/
structure Derivation where
  origin : String
  links : List (Option BorrowKind)
  deriving DecidableEq, Repr

namespace Derivation

/-- The derivation of a variable's own name. -/
def root (name : String) : Derivation := ⟨name, []⟩

/-- The derivation with one more link. -/
def extend (d : Derivation) (link : Option BorrowKind) : Derivation :=
  { d with links := d.links ++ [link] }

end Derivation

/-- The name that an action binds, and how it is derived when the other names are as given. -/
def Action.derived? (of : String → Derivation) : Action → Option (String × Derivation)
  | .declare name .. => some (name, .root name)
  | .borrow target kind result => some (result, (Derivation.root target).extend (some kind))
  | .reborrow source kind result => some (result, (of source).extend (some kind))
  | .toInteger source result => some (result, (of source).extend none)
  | .read .. | .write .. | .call .. => none

/-- The derivations of the names that are bound so far. -/
abbrev Derivations := List (String × Derivation)

namespace Derivations

/-- The derivation of a name; one that is not bound is taken for a variable. -/
def of (ds : Derivations) (name : String) : Derivation := (ds.lookup name).getD (.root name)

def after (ds : Derivations) (act : Action) : Derivations := ds ++ (act.derived? ds.of).toList

def afterAll (ds : Derivations) (l : List Operation) : Derivations :=
  l.foldl (fun ds op => ds.after op.action) ds

end Derivations

/-- The derivation of a name of the program. -/
def Program.derivation (p : Program) : String → Derivation :=
  (Derivations.afterAll [] p.operations).of

/-! ## The pass over the derivations -/

theorem Action.derived?_fst (of : String → Derivation) (act : Action) :
    (act.derived? of).map Prod.fst = act.result? := by
  cases act <;> rfl

theorem Action.derived?_congr {of of' : String → Derivation} {act : Action}
    (same : ∀ name, act.operand? = some name → of name = of' name) :
    act.derived? of = act.derived? of' := by
  cases act with
  | reborrow source kind result => simp [derived?, same source rfl]
  | toInteger source result => simp [derived?, same source rfl]
  | _ => rfl

namespace Derivations

variable {ds : Derivations} {name : String}

theorem isSome_lookup_after (ds : Derivations) (act : Action) (name : String) :
    ((ds.after act).lookup name).isSome = true ↔
      act.result? = some name ∨ (ds.lookup name).isSome = true := by
  rw [after, List.lookup_append, ← act.derived?_fst ds.of]
  cases act.derived? ds.of with
  | none => simp
  | some e =>
    have mine : e.1 = name ↔ name = e.1 := eq_comm
    cases ds.lookup name <;> by_cases same : name = e.1 <;>
      simp [mine, same]

/-- The pass over the names and the pass over the derivations bind the same names. -/
theorem isSome_lookup_afterAll {s : Scope} (l : List Operation)
    (same : ∀ name, (ds.lookup name).isSome = s.binds name) (name : String) :
    ((ds.afterAll l).lookup name).isSome = (s.afterAll l).binds name := by
  induction l generalizing s ds with
  | nil => exact same name
  | cons op l ih =>
    apply ih
    intro other
    rw [Bool.eq_iff_iff, isSome_lookup_after, Scope.binds_after, same]

theorem prefix_afterAll (ds : Derivations) (l : List Operation) : ∃ e, ds.afterAll l = ds ++ e := by
  induction l generalizing ds with
  | nil => exact ⟨[], (List.append_nil ds).symm⟩
  | cons op l ih =>
    obtain ⟨e, same⟩ := ih (ds.after op.action)
    exact ⟨(op.action.derived? ds.of).toList ++ e, same.trans (List.append_assoc ..)⟩

/-- What is known of a name stays known. -/
theorem of_afterAll (l : List Operation) (bound : (ds.lookup name).isSome) :
    (ds.afterAll l).of name = ds.of name := by
  obtain ⟨e, same⟩ := ds.prefix_afterAll l
  obtain ⟨d, found⟩ := Option.isSome_iff_exists.mp bound
  simp [of, same, List.lookup_append, found]

theorem afterAll_append (ds : Derivations) (l k : List Operation) :
    ds.afterAll (l ++ k) = (ds.afterAll l).afterAll k :=
  List.foldl_append

end Derivations

/-- In a well-formed program the name that an operation binds is derived as the operation says. -/
theorem Program.derivation_eq {p : Program} {checkBindings : Bool}
    (clean : p.WellFormed checkBindings) {op : Operation} (inside : op ∈ p.operations)
    {name : String} {d : Derivation} (derived : op.action.derived? p.derivation = some (name, d)) :
    p.derivation name = d := by
  obtain ⟨n, here⟩ := List.mem_iff_getElem?.mp inside
  obtain ⟨before, hb⟩ : ∃ before, before = Derivations.afterAll [] (p.operations.take n) := ⟨_, rfl⟩
  have fine := Scope.issues_of_issuesFrom clean here
  have known : ∀ other, (before.lookup other).isSome =
      (Scope.empty.afterAll (p.operations.take n)).binds other := by
    rw [hb]
    exact Derivations.isSome_lookup_afterAll _ fun _ => rfl
  have later : p.derivation = (before.afterAll (p.operations.drop n)).of := by
    rw [hb, ← Derivations.afterAll_append, List.take_append_drop]
    rfl
  obtain ⟨short, rfl⟩ := List.getElem?_eq_some_iff.mp here
  -- the operand was bound by then, so that the pass derived the name as the whole program does
  have same : p.operations[n].action.derived? before.of =
      p.operations[n].action.derived? p.derivation := by
    apply Action.derived?_congr
    intro operand uses
    have bound := (known operand).trans (Scope.operand_bound fine uses)
    rw [later, Derivations.of_afterAll _ bound]
  have result : p.operations[n].action.result? = some name := by
    rw [← Action.derived?_fst p.derivation, derived]
    rfl
  have free : before.lookup name = none := by
    have unbound := (known name).trans (Scope.result_free fine result)
    simpa using unbound
  have next : before.after p.operations[n].action = before ++ [(name, d)] := by
    rw [Derivations.after, same, derived]
    rfl
  have added : (before.after p.operations[n].action).lookup name = some d := by
    simp [next, List.lookup_append, free]
  rw [later, List.drop_eq_getElem_cons short]
  show ((before.after p.operations[n].action).afterAll _).of name = d
  rw [Derivations.of_afterAll _ (by rw [added]; rfl), Derivations.of, added]
  rfl

/-! ## The permission of a chain -/

/-- The permission that a chain of borrows from a variable ends with. On plain data a shared link
    makes it read-only for good; on interior-mutable data the last link alone decides. -/
def Permission.ofChain (interiorMutable : Bool) (kinds : List BorrowKind) : Permission :=
  if interiorMutable then
    if kinds.getLast? = some .unique then .unique else .sharedReadWrite
  else if .shared ∈ kinds then .sharedReadOnly else .unique

theorem Permission.ofChain_nil (interiorMutable : Bool) :
    ofChain interiorMutable [] = ofRoot interiorMutable := by
  cases interiorMutable <;> rfl

theorem Permission.ofChain_append (interiorMutable : Bool) (kinds : List BorrowKind)
    (kind : BorrowKind) : ofChain interiorMutable (kinds ++ [kind]) =
      (ofChain interiorMutable kinds).derive kind interiorMutable := by
  cases interiorMutable with
  | false => by_cases shared : BorrowKind.shared ∈ kinds <;> cases kind <;>
      simp [ofChain, shared, Permission.derive]
  | true => by_cases last : kinds.getLast? = some .unique <;> cases kind <;>
      simp [ofChain, last, Permission.derive]

/-! ## Pointers and their derivations -/

namespace Allocation

/-- The tag that the links from a variable lead to: none behind a cast to an integer, and otherwise
    one that was pushed with the permission of the chain. -/
inductive Leads (a : Allocation) : List (Option BorrowKind) → Option Tag → Prop where
  | erased {links : List (Option BorrowKind)} (cast : none ∈ links) : a.Leads links none
  | pushed {t : Tag} (kinds : List BorrowKind)
      (pushed : a.PushedAs t (.ofChain a.interiorMutable kinds)) :
      a.Leads (kinds.map some) (some t)

namespace Leads

variable {a a' : Allocation} {links : List (Option BorrowKind)} {tag : Option Tag}

theorem untagged_iff (h : a.Leads links tag) : tag = none ↔ none ∈ links := by
  cases h with
  | erased cast => simp [cast]
  | pushed kinds => simp

theorem step {ev : Event} (h : a.Leads links tag) (ha : a.Valid) (step : a.Step ev a') :
    a'.Leads links tag := by
  cases h with
  | erased cast => exact .erased cast
  | pushed kinds pushed =>
    refine .pushed kinds ?_
    rw [step.interiorMutable_eq]
    exact step.pushedAs ha pushed

/-- What is derived from a frame that the links lead to has the permission of the longer chain. -/
theorem derive {f : Frame} (h : a.Leads links (some f.tag)) (present : f ∈ a.stack)
    (enabled : f.permission ≠ .disabled) (kind : BorrowKind) :
    ∃ kinds, links = kinds.map some ∧ f.permission.derive kind a.interiorMutable =
      .ofChain a.interiorMutable (kinds ++ [kind]) := by
  cases h with
  | pushed kinds pushed =>
    have kept := (pushed.frame f present rfl).resolve_right fun off => enabled off.2
    exact ⟨kinds, rfl, by rw [Permission.ofChain_append, kept]⟩

theorem push {f : Frame} (h : a.Leads links (some f.tag)) (ha : a.Valid) (present : f ∈ a.stack)
    (enabled : f.permission ≠ .disabled) (kind : BorrowKind) {t : Tag}
    (fresh : ∀ u ∈ a.tags, u.serial < t.serial) :
    (a.push ⟨t, f.permission.derive kind a.interiorMutable, some f.tag⟩).Leads
      (links ++ [some kind]) (some t) := by
  obtain ⟨kinds, rfl, permission⟩ := h.derive present enabled kind
  have valid := ha.push kind fresh present enabled
  have top := valid.pushedAs (f := ⟨t, f.permission.derive kind a.interiorMutable, some f.tag⟩)
    (List.mem_append_right _ (List.mem_singleton.mpr rfl))
  have longer : kinds.map some ++ [some kind] = (kinds ++ [kind]).map some := by simp
  rw [longer]
  exact .pushed (kinds ++ [kind]) (permission ▸ top)

end Leads

end Allocation

/-- The pointer is what a derivation leads to: it stands in the allocation of the variable, with
    the tag that the links lead to. -/
def Store.Follows (s : Store) (d : Derivation) (p : Pointer) : Prop :=
  ∃ a, s.get? p.target = some a ∧ a.name = d.origin ∧ a.Leads d.links p.tag

theorem Store.Follows.at {s : Store} {d : Derivation} {p : Pointer} (h : s.Follows d p)
    {a : Allocation} (found : s.get? p.target = some a) : a.name = d.origin ∧ a.Leads d.links p.tag := by
  obtain ⟨b, found', name, leads⟩ := h
  rw [found, Option.some.injEq] at found'
  exact found' ▸ ⟨name, leads⟩

theorem Store.Follows.root {s : Store} (hs : s.Valid) {a : Allocation}
    (found : s.get? a.id = some a) : s.Follows (.root a.name) a.rootPointer := by
  have ha := (hs.get? found).1
  obtain ⟨root, above, bottom, -, permission, -⟩ := ha.rooted
  refine ⟨a, found, rfl, ?_⟩
  have lowest := ha.pushedAs (f := root) (by simp [bottom])
  rw [permission, ← Permission.ofChain_nil] at lowest
  simp only [Allocation.rootPointer, bottom, List.head?_cons, Option.map_some]
  exact .pushed [] lowest

theorem Store.Follows.erase {s : Store} {d : Derivation} {p : Pointer} (h : s.Follows d p) :
    s.Follows (d.extend none) ⟨p.target, none⟩ := by
  obtain ⟨a, found, name, -⟩ := h
  exact ⟨a, found, name, .erased (by simp [Derivation.extend])⟩

namespace Machine

/-- The machine agrees with derivations of its names. -/
structure Traced (m : Machine) (of : String → Derivation) : Prop where
  declared : ∀ name, m.store.has name = true → of name = .root name
  pointers : ∀ e ∈ m.pointers, m.store.Follows (of e.1) e.2

variable {m m' : Machine} {of : String → Derivation} {act : Action}

theorem Traced.resolve (h : m.Traced of) (hm : m.Valid) {name : String} {p : Pointer}
    (resolved : m.resolve name = .ok p) : m.store.Follows (of name) p := by
  rcases resolve_cases hm resolved with bound | ⟨a, named, found, rfl⟩
  · exact h.pointers (name, p) bound
  · have declared : m.store.has name = true := by rw [Store.has, named]; rfl
    rw [h.declared name declared, ← Store.name_of_named? named]
    exact .root hm.store found

/-- A derived pointer comes from one that its derivation leads to but for the last link. -/
theorem Derives.follows (h : m.Traced of) (hm : m.Valid) {kind : BorrowKind} {result : String}
    {p : Pointer} (derives : m.Derives act kind result p) :
    ∃ d, m.store.Follows d p ∧ act.derived? of = some (result, d.extend (some kind)) := by
  cases derives with
  | borrow resolved =>
    obtain ⟨a, named, found, rfl⟩ := (Store.lookup_rootPointer hm.store).mp resolved
    exact ⟨_, .root hm.store found, by rw [Store.name_of_named? named]; rfl⟩
  | reborrow resolved => exact ⟨_, h.resolve hm resolved, rfl⟩

theorem Change.follows (hm : m.Valid) (change : m.Change act m') {d : Derivation} {p : Pointer}
    (h : m.store.Follows d p) : m'.store.Follows d p := by
  obtain ⟨a, found, name, leads⟩ := h
  obtain ⟨ev, a', found', step, -⟩ := change.allocation hm found
  exact ⟨a', found', step.name_eq.trans name, leads.step (hm.store.get? found).1 step⟩

/-- What a new name is bound to is what its derivation leads to. -/
theorem Traced.bind {store : Store}
    (variable_root : ∀ name, store.has name = true → of name = .root name)
    (old : ∀ e ∈ m.pointers, store.Follows (of e.1) e.2) {name : String} {d : Derivation}
    {p : Pointer} (derived : act.derived? of = some (name, d))
    (fits : ∀ name d, act.derived? of = some (name, d) → of name = d) (h : store.Follows d p) :
    Traced ({ m with store }.bind name p) of := by
  refine ⟨variable_root, ?_⟩
  intro e he
  rcases List.mem_append.mp he with he | he
  · exact old e he
  · rw [List.mem_singleton.mp he, fits name d derived]
    exact h

/-- Every change keeps the agreement with derivations that fit its operation. -/
theorem Traced.change (h : m.Traced of) (hm : m.Valid)
    (fits : ∀ name d, act.derived? of = some (name, d) → of name = d)
    (change : m.Change act m') : m'.Traced of := by
  have old : ∀ e ∈ m.pointers, m'.store.Follows (of e.1) e.2 :=
    fun e he => change.follows hm (h.pointers e he)
  have kept := change.has_kept
  cases change with
  | @declare name value isMutable interiorMutable id store declared =>
    refine ⟨?_, old⟩
    intro other has
    rw [Store.has_declare declared, Bool.or_eq_true, beq_iff_eq] at has
    rcases has with rfl | has
    · exact fits other _ rfl
    · exact h.declared other has
  | @derive _ kind result p a f derives found present tagged enabled =>
    -- the parent's links lead to its frame, so that one more leads to the frame that is pushed
    obtain ⟨d, follows, derived⟩ := derives.follows h hm
    obtain ⟨name, leads⟩ := follows.at found
    rw [tagged] at leads
    refine Traced.bind ?_ old derived fits ⟨_, Store.get?_modify_self found _, name, ?_⟩
    · intro other has
      exact h.declared other ((kept derives.declares other).symm.trans has)
    · exact leads.push (hm.store.get? found).1 present enabled kind
        (hm.store.fresh (Store.mem_of_get? found))
  | @untagged _ kind result p derives noTag =>
    obtain ⟨d, ⟨a, found, name, leads⟩, derived⟩ := derives.follows h hm
    have cast := leads.untagged_iff.mp noTag
    exact Traced.bind h.declared h.pointers derived fits
      ⟨a, found, name, .erased (List.mem_append_left _ cast)⟩
  | @toInteger source result p resolved =>
    exact Traced.bind h.declared h.pointers rfl fits (h.resolve hm resolved).erase
  | @read source binding p a t grant resolved found tagged granted =>
    exact ⟨fun other has => h.declared other ((kept rfl other).symm.trans has), old⟩
  | @write _ p value a t grant writes found tagged granted =>
    exact ⟨fun other has => h.declared other ((kept writes.declares other).symm.trans has), old⟩

end Machine

/-- In every state of a run the machine agrees with the derivations of the program. -/
theorem Run.traced {r : Run} {n : Nat} {m : Machine} (h : r.state? n = some m) :
    m.Traced r.program.derivation := by
  induction n generalizing m with
  | zero =>
    rw [(state?_zero h).2]
    exact ⟨nofun, nofun⟩
  | succ n ih =>
    obtain ⟨before, op, after, found, here, change, rfl⟩ := state?_succ h
    have fits : ∀ name d, op.action.derived? r.program.derivation = some (name, d) →
        r.program.derivation name = d := fun _ _ derived =>
      Program.derivation_eq (wellFormed h) (List.mem_of_getElem? here) derived
    have traced := (ih found).change (reached found).valid fits change
    exact ⟨traced.declared, traced.pointers⟩

end PointerTrace
