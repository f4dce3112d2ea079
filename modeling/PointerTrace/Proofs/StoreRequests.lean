import PointerTrace.Memory.Request
import PointerTrace.Proofs.NameResolution

/- A store that is asked for one thing after another. Requests are arbitrary: ids may be negative, not
   given out yet or no numbers at all, names may be taken or unknown, and any tag may be pushed.
   `Store.Grants` says what a granted request answers and what it leaves behind, `Store.Refuses` which
   requests are refused and why, and `Store.Fails` which fail in another way. Whatever was asked before,
   ids are places, names are distinct and in the order of their first declaration, and one tag was
   issued for every allocation (`Store.InStep`). -/
namespace PointerTrace

namespace Store

/-! ## Requests -/

/-- The name that a request declares, if any. -/
def Request.declares? : Request → Option String
  | .declare name .. => some name
  | _ => none

/-- What a request gives for an id, if it goes to one. -/
def Request.target? : Request → Option Handle
  | .push handle _ | .write handle _ | .get handle | .rootPointer handle | .read handle => some handle
  | _ => none

/-! ## What is granted, what is refused and what fails otherwise -/

/-- The store with another allocation at a place. -/
def put (s : Store) (n : Nat) (a : Allocation) : Store :=
  { s with allocations := s.allocations.set n a }

/-- The requests that are granted, with their answers and the store after them. A declaration adds an
    allocation with a root frame and takes a tag. A push goes to the stack and the lineage of one
    allocation, a write to its value. Everything else leaves the store as it is. -/
inductive Grants (s : Store) : Request → Answer → Store → Prop where
  | declare {name : String} {value : Int} {isMutable interiorMutable : Bool}
      (free : name ∉ s.names) :
      s.Grants (.declare name value isMutable interiorMutable) (.id s.allocations.length)
        ⟨s.allocations ++ [⟨s.allocations.length, name, value, isMutable, interiorMutable,
            [⟨⟨s.nextTag⟩, .ofRoot interiorMutable, none⟩], [(⟨s.nextTag⟩, none)]⟩],
          s.nextTag + 1⟩
  | push {n : Nat} {a : Allocation} (here : s.allocations[n]? = some a) {f : Frame}
      (labelled : canLabel f.parent = true) :
      s.Grants (.push (.number n) f) (.frame f) (s.put n { a with
        stack := a.stack ++ [f], lineage := recordParent a.lineage f.tag f.parent })
  | write {n : Nat} {a : Allocation} (here : s.allocations[n]? = some a) (value : Int) :
      s.Grants (.write (.number n) value) .done (s.put n { a with value })
  | get {n : Nat} {a : Allocation} (here : s.allocations[n]? = some a) :
      s.Grants (.get (.number n)) (.allocation a) s
  | rootPointer {n : Nat} {a : Allocation} {root : Frame} (here : s.allocations[n]? = some a)
      (bottom : a.stack[0]? = some root) :
      s.Grants (.rootPointer (.number n)) (.pointer ⟨n, some root.tag⟩) s
  | read {n : Nat} {a : Allocation} (here : s.allocations[n]? = some a) :
      s.Grants (.read (.number n)) (.value a.value) s
  | lookup {n : Nat} {name : String} (here : s.names[n]? = some name) :
      s.Grants (.lookup name) (.id n) s
  | has (name : String) : s.Grants (.has name) (.isDeclared (name ∈ s.names)) s
  | names : s.Grants .names (.names s.names) s
  | values : s.Grants .values (.values s.values) s

/-- The requests that are refused, and why. The store is left as it is. -/
inductive Refuses (s : Store) : Request → StoreError → Prop where
  | taken {name : String} (value : Int) (isMutable interiorMutable : Bool)
      (declared : name ∈ s.names) : s.Refuses (.declare name value isMutable interiorMutable)
        (.nameTaken name s.allocations.length)
  | unknownId {q : Request} {id : Int} (target : q.target? = some (.number id))
      (unknown : ¬(0 ≤ id ∧ id < s.allocations.length)) (short : Decimal.isWritable id = true) :
      s.Refuses q (.unknownId id)
  | unknownName {name : String} (absent : name ∉ s.names) :
      s.Refuses (.lookup name) (.unknownName name)

/-- The requests that fail without being refused, with what is raised and the store after them. Only
    the push is too late to leave the store as it is: it has done what a granted one does. -/
inductive Fails (s : Store) : Request → Raised → Store → Prop where
  | noNumber {q : Request} {text : String} (target : q.target? = some (.text text)) :
      s.Fails q .incomparable s
  | longId {q : Request} {id : Int} (target : q.target? = some (.number id))
      (unknown : ¬(0 ≤ id ∧ id < s.allocations.length)) (long : Decimal.isWritable id = false) :
      s.Fails q .unwritable s
  | longParent {n : Nat} {a : Allocation} (here : s.allocations[n]? = some a) {f : Frame}
      (long : canLabel f.parent = false) :
      s.Fails (.push (.number n) f) .unwritable (s.put n { a with
        stack := a.stack ++ [f], lineage := recordParent a.lineage f.tag f.parent })

/-- What holds of a store that was empty and had the given number for its first tag, after all that
    it was asked for. -/
structure InStep (start : Int) (asked : List Request) (s : Store) : Prop where
  /-- The ids count up from zero. -/
  ids : s.allocations.map Allocation.id = (List.range s.allocations.length).map Nat.cast
  /-- The names stand in the order in which they were first declared. -/
  names : s.names = (asked.filterMap Request.declares?).eraseDups
  distinct : s.names.Nodup
  /-- One tag was taken for every allocation, and none for what was refused. -/
  issued : s.nextTag = start + s.allocations.length
  rooted : ∀ a ∈ s.allocations, a.stack ≠ []

/-- One more item is listed unless it was listed before. -/
theorem eraseDups_concat {α : Type} [DecidableEq α] (l : List α) (x : α) :
    (l ++ [x]).eraseDups = if x ∈ l then l.eraseDups else l.eraseDups ++ [x] := by
  rw [List.eraseDups_append]
  by_cases listed : x ∈ l
  · simp [List.removeAll, listed]
  · simp [List.removeAll, listed, List.eraseDups_cons]

/-- To change an item is to set it. -/
theorem modify_eq_set {α : Type} {l : List α} {n : Nat} {x : α} (here : l[n]? = some x) (f : α → α) :
    l.modify n f = l.set n (f x) := by
  have : Inhabited α := ⟨x⟩
  rw [List.modify_eq_set, here, Option.getD_some]

section Places

variable {s : Store}

theorem get_of_place {n : Nat} {a : Allocation} (here : s.allocations[n]? = some a) :
    s.get n = .ok a :=
  get_eq_ok.mpr (get?_eq_some.mpr ⟨n, rfl, here⟩)

theorem get_of_unknown {id : Int} (unknown : ¬(0 ≤ id ∧ id < s.allocations.length)) :
    s.get id = .error (.unknownId id) := by
  have absent : s.get? id = none := by
    unfold get?
    split
    · next low =>
      have high : (s.allocations.length : Int) ≤ id := by
        by_contra inside
        exact unknown ⟨low, Int.not_le.mp inside⟩
      exact List.getElem?_eq_none (by omega)
    · rfl
  rw [get, absent]

/-- An id is a place of the store, or there is no such id. -/
theorem place_or_unknown (s : Store) (id : Int) :
    (∃ (n : Nat) (a : Allocation), id = n ∧ s.allocations[n]? = some a) ∨
      ¬(0 ≤ id ∧ id < s.allocations.length) := by
  refine or_iff_not_imp_right.mpr fun known => ?_
  obtain ⟨low, high⟩ := not_not.mp known
  have inside : id.toNat < s.allocations.length := by omega
  exact ⟨id.toNat, _, (Int.toNat_of_nonneg low).symm, List.getElem?_eq_getElem inside⟩

theorem has_eq_decide (s : Store) (name : String) : s.has name = decide (name ∈ s.names) := by
  rw [Bool.eq_iff_iff, has_iff, decide_eq_true_iff]

theorem lookup_of_not_mem {name : String} (absent : name ∉ s.names) :
    s.lookup name = .error (.unknownName name) := by
  have none : s.has name = false := by rw [has_eq_decide, decide_eq_false absent]
  rw [has, Option.isSome_eq_false_iff, Option.isNone_iff_eq_none] at none
  rw [lookup, none]

/-- To change an allocation is to put the changed one in its place. -/
theorem modify_eq_put {n : Nat} {a : Allocation} (here : s.allocations[n]? = some a)
    (f : Allocation → Allocation) : s.modify n f = s.put n (f a) := by
  show (⟨s.allocations.modify n f, s.nextTag⟩ : Store) = ⟨s.allocations.set n (f a), s.nextTag⟩
  rw [modify_eq_set here]

/-- What is put in the place of an allocation that it agrees with changes nothing else. -/
theorem map_put {β : Type} {n : Nat} {a b : Allocation} (here : s.allocations[n]? = some a)
    (f : Allocation → β) (same : f b = f a) : (s.put n b).allocations.map f = s.allocations.map f := by
  obtain ⟨inside, rfl⟩ := List.getElem?_eq_some_iff.mp here
  show (s.allocations.set n b).map f = _
  rw [List.map_set, same, ← List.getElem_map f (h := by simpa using inside), List.set_getElem_self]

end Places

namespace InStep

variable {start : Int} {asked : List Request} {s : Store} (hs : s.InStep start asked)
include hs

/-- An allocation's id is its place. -/
theorem place {n : Nat} {a : Allocation} (here : s.allocations[n]? = some a) : a.id = n := by
  obtain ⟨inside, rfl⟩ := List.getElem?_eq_some_iff.mp here
  have same := congrArg (·[n]?) hs.ids
  simpa [inside] using same

/-- A name stands for the allocation at the place where it is listed. -/
theorem named?_of_place {n : Nat} {name : String} (here : s.names[n]? = some name) :
    ∃ a, s.named? name = some a ∧ a.id = n := by
  rw [Store.names, List.getElem?_map] at here
  obtain ⟨a, there, rfl⟩ := Option.map_eq_some_iff.mp here
  exact ⟨a, named?_of_get? hs.distinct (get?_eq_some.mpr ⟨n, rfl, there⟩), hs.place there⟩

theorem lookup_of_place {n : Nat} {name : String} (here : s.names[n]? = some name) :
    s.lookup name = .ok n := by
  obtain ⟨a, named, place⟩ := hs.named?_of_place here
  rw [lookup, named, ← place]

/-- The root pointer of an allocation goes to its place and carries the tag of its lowest frame. -/
theorem rootPointer_of_place {n : Nat} {a : Allocation} {root : Frame}
    (here : s.allocations[n]? = some a) (bottom : a.stack[0]? = some root) :
    s.rootPointer n = .ok ⟨n, some root.tag⟩ := by
  rw [rootPointer, get_of_place here]
  show Except.ok (⟨a.id, a.stack.head?.map Frame.tag⟩ : Pointer) = _
  rw [hs.place here, List.head?_eq_getElem?, bottom]
  rfl

omit hs in
/-- A push on an allocation of the store puts the frame there, whatever is raised then. -/
theorem serve_push {n : Nat} {a : Allocation} (here : s.allocations[n]? = some a) (f : Frame) :
    s.serve (.push (.number n) f) =
      (if canLabel f.parent then .ok (.frame f) else .error .unwritable, s.put n (a.push f)) := by
  have pushed : s.answer (.push (.number n) f) = .ok (.frame f, s.put n (a.push f)) := by
    rw [Store.answer, Handle.reach, Store.push, get_of_place here]
    show Except.ok (Answer.frame f, _) = _
    rw [modify_eq_put here]
  rw [Store.serve, pushed]
  rfl

omit hs in
/-- A request with an answer that has nothing left to do. -/
theorem serve_of_answer {q : Request} {answer : Answer} {s' : Store}
    (answered : s.answer q = .ok (answer, s')) (concludes : q.concludes = true) :
    s.serve q = (.ok answer, s') := by
  rw [Store.serve, answered]
  simp only [concludes, if_true]

/-- A request that is granted is answered so. -/
theorem serve_of_grants {q : Request} {answer : Answer} {s' : Store}
    (granted : s.Grants q answer s') : s.serve q = (.ok answer, s') := by
  cases granted with
  | @declare name value isMutable interiorMutable free =>
    have free : s.has name = false := by rw [has_eq_decide, decide_eq_false free]
    have made : s.declare name value isMutable interiorMutable = .ok _ :=
      declare_eq_ok.mpr ⟨free, rfl, rfl⟩
    refine serve_of_answer ?_ rfl
    rw [Store.answer, made]
    rfl
  | push here labelled =>
    rw [serve_push here, if_pos labelled]
    rfl
  | write here value =>
    refine serve_of_answer ?_ rfl
    rw [Store.answer, Handle.reach, Store.write, get_of_place here]
    show Except.ok (Answer.done, _) = _
    rw [modify_eq_put here]
  | get here =>
    refine serve_of_answer ?_ rfl
    rw [Store.answer, Handle.reach, get_of_place here]
    rfl
  | rootPointer here bottom =>
    refine serve_of_answer ?_ rfl
    rw [Store.answer, Handle.reach, hs.rootPointer_of_place here bottom]
    rfl
  | read here =>
    refine serve_of_answer ?_ rfl
    rw [Store.answer, Handle.reach, Store.read, get_of_place here]
    rfl
  | lookup here =>
    refine serve_of_answer ?_ rfl
    rw [Store.answer, hs.lookup_of_place here]
    rfl
  | has name =>
    refine serve_of_answer ?_ rfl
    rw [Store.answer, has_eq_decide]
  | names => rfl
  | values => rfl

omit hs in
/-- A request that goes to an id reaches for it first, and is refused where it is unknown. -/
theorem answer_of_target {q : Request} {handle : Handle} (target : q.target? = some handle) :
    ∃ go : AllocationId → Except StoreError (Answer × Store), s.answer q = handle.reach go ∧
      ∀ id : Int, ¬(0 ≤ id ∧ id < s.allocations.length) → go id = .error (.unknownId id) := by
  cases q with
  | push | write | get | rootPointer | read =>
    cases target
    refine ⟨_, rfl, fun id unknown => ?_⟩
    simp [Store.push, Store.write, Store.rootPointer, Store.read, get_of_unknown unknown]
  | _ => cases target

omit hs in
/-- A request that goes to an unknown id raises what quoting the id comes to. -/
theorem serve_of_unknown {q : Request} {id : Int} (target : q.target? = some (.number id))
    (unknown : ¬(0 ≤ id ∧ id < s.allocations.length)) :
    s.serve q = (.error (StoreError.unknownId id).raised, s) := by
  obtain ⟨go, reached, refuses⟩ := answer_of_target (s := s) target
  rw [Store.serve, reached, Handle.reach, refuses id unknown]
  rfl

omit hs in
/-- A request that is refused is answered so. -/
theorem serve_of_refuses {q : Request} {e : StoreError} (refused : s.Refuses q e) :
    s.serve q = (.error (.refused e), s) := by
  cases refused with
  | taken value isMutable interiorMutable declared =>
    rw [Store.serve, Store.answer, declare, has_iff.mpr declared]
    rfl
  | unknownId target unknown short =>
    rw [serve_of_unknown target unknown, StoreError.raised, if_pos short]
  | unknownName absent =>
    rw [Store.serve, Store.answer, lookup_of_not_mem absent]
    rfl

omit hs in
/-- A request that fails in another way raises what it should. -/
theorem serve_of_fails {q : Request} {raised : Raised} {s' : Store} (failed : s.Fails q raised s') :
    s.serve q = (.error raised, s') := by
  cases failed with
  | noNumber target =>
    obtain ⟨go, reached, -⟩ := answer_of_target (s := s) target
    rw [Store.serve, reached]
    rfl
  | longId target unknown long =>
    rw [serve_of_unknown target unknown, StoreError.raised, if_neg (by simp [long])]
  | longParent here long =>
    rw [serve_push here, if_neg (by simp [long])]
    rfl

/-- Every request is granted, is refused or fails in another way. -/
theorem grants_refuses_or_fails (q : Request) :
    (∃ answer s', s.Grants q answer s') ∨ (∃ e, s.Refuses q e) ∨
      ∃ raised s', s.Fails q raised s' := by
  -- a request that goes to an id depends on the place of the store that the id is
  have atPlace : ∀ handle, q.target? = some handle →
      (∀ (n : Nat) (a : Allocation), handle = .number n → s.allocations[n]? = some a →
        (∃ answer s', s.Grants q answer s') ∨ ∃ raised s', s.Fails q raised s') →
      (∃ answer s', s.Grants q answer s') ∨ (∃ e, s.Refuses q e) ∨
        ∃ raised s', s.Fails q raised s' := by
    intro handle target placed
    cases handle with
    | text => exact .inr (.inr ⟨_, _, .noNumber target⟩)
    | number id =>
      rcases place_or_unknown s id with ⟨n, a, rfl, here⟩ | unknown
      · exact (placed n a rfl here).imp_right .inr
      · cases short : Decimal.isWritable id with
        | true => exact .inr (.inl ⟨_, .unknownId target unknown short⟩)
        | false => exact .inr (.inr ⟨_, _, .longId target unknown short⟩)
  cases q with
  | declare name value isMutable interiorMutable =>
    by_cases declared : name ∈ s.names
    · exact .inr (.inl ⟨_, .taken value isMutable interiorMutable declared⟩)
    · exact .inl ⟨_, _, .declare declared⟩
  | push handle f =>
    refine atPlace handle rfl ?_
    rintro n a rfl here
    cases labelled : canLabel f.parent with
    | true => exact .inl ⟨_, _, .push here labelled⟩
    | false => exact .inr ⟨_, _, .longParent here labelled⟩
  | write handle value =>
    refine atPlace handle rfl ?_
    rintro n a rfl here
    exact .inl ⟨_, _, .write here value⟩
  | get handle =>
    refine atPlace handle rfl ?_
    rintro n a rfl here
    exact .inl ⟨_, _, .get here⟩
  | rootPointer handle =>
    refine atPlace handle rfl ?_
    rintro n a rfl here
    have nonempty := List.length_pos_iff.mpr (hs.rooted a (List.mem_of_getElem? here))
    exact .inl ⟨_, _, .rootPointer here (List.getElem?_eq_getElem nonempty)⟩
  | read handle =>
    refine atPlace handle rfl ?_
    rintro n a rfl here
    exact .inl ⟨_, _, .read here⟩
  | lookup name =>
    by_cases declared : name ∈ s.names
    · obtain ⟨n, here⟩ := List.mem_iff_getElem?.mp declared
      exact .inl ⟨_, _, .lookup here⟩
    · exact .inr (.inl ⟨_, .unknownName declared⟩)
  | has name => exact .inl ⟨_, _, .has name⟩
  | names => exact .inl ⟨_, _, .names⟩
  | values => exact .inl ⟨_, _, .values⟩

/-- A request that declares no name and leaves the store as it is. -/
theorem unchanged {q : Request} (none : q.declares? = none) : s.InStep start (asked ++ [q]) :=
  ⟨hs.ids, by simp [hs.names, none], hs.distinct, hs.issued, hs.rooted⟩

/-- A request that puts something in the place of an allocation with the same id and name. -/
theorem put {q : Request} (none : q.declares? = none) {n : Nat} {a b : Allocation}
    (here : s.allocations[n]? = some a) (id : b.id = a.id) (name : b.name = a.name)
    (rooted : b.stack ≠ []) : (s.put n b).InStep start (asked ++ [q]) := by
  have names : (s.put n b).names = s.names := map_put here Allocation.name name
  have size : (s.put n b).allocations.length = s.allocations.length := List.length_set
  refine ⟨?_, ?_, ?_, ?_, ?_⟩
  · rw [map_put here Allocation.id id, size, hs.ids]
  · rw [names, hs.names]
    simp [none]
  · rw [names]
    exact hs.distinct
  · rw [size]
    exact hs.issued
  · intro c inside
    rcases List.mem_or_eq_of_mem_set inside with inside | rfl
    · exact hs.rooted c inside
    · exact rooted

/-- A declaration of a name that is taken. -/
theorem taken {name : String} (declared : name ∈ s.names) {q : Request}
    (same : q.declares? = some name) : s.InStep start (asked ++ [q]) := by
  refine ⟨hs.ids, ?_, hs.distinct, hs.issued, hs.rooted⟩
  rw [hs.names, List.mem_eraseDups] at declared
  simp only [hs.names, List.filterMap_append, List.filterMap_cons, List.filterMap_nil, same,
    eraseDups_concat, if_pos declared]

/-- A declaration of a free name: one more allocation, at the next place and with the next tag. -/
theorem declared {name : String} (free : name ∉ s.names) {q : Request}
    (same : q.declares? = some name) {a : Allocation} (id : a.id = s.allocations.length)
    (named : a.name = name) (rooted : a.stack ≠ []) :
    (⟨s.allocations ++ [a], s.nextTag + 1⟩ : Store).InStep start (asked ++ [q]) := by
  have names : (⟨s.allocations ++ [a], s.nextTag + 1⟩ : Store).names = s.names ++ [name] := by
    simp [Store.names, named]
  refine ⟨?_, ?_, ?_, ?_, ?_⟩
  · simp [List.range_succ, hs.ids, id]
  · rw [hs.names, List.mem_eraseDups] at free
    simp only [names, hs.names, List.filterMap_append, List.filterMap_cons, List.filterMap_nil, same,
      eraseDups_concat, if_neg free]
  · rw [names, List.nodup_append]
    refine ⟨hs.distinct, List.nodup_singleton name, ?_⟩
    intro x listed y added same
    rw [same, List.mem_singleton.mp added] at listed
    exact free listed
  · have issued := hs.issued
    simp
    omega
  · intro b inside
    rcases List.mem_append.mp inside with inside | inside
    · exact hs.rooted b inside
    · rw [List.mem_singleton.mp inside]
      exact rooted

/-- A frame on the stack of an allocation. -/
theorem pushed {n : Nat} {a : Allocation} (here : s.allocations[n]? = some a) (handle : Handle)
    (f : Frame) : (s.put n (a.push f)).InStep start (asked ++ [.push handle f]) :=
  hs.put rfl here rfl rfl (by simp [Allocation.push])

omit hs in
/-- Only a declaration goes to no id and declares a name. -/
theorem declares?_of_target? {q : Request} {handle : Handle} (target : q.target? = some handle) :
    q.declares? = none := by
  cases q with
  | declare => cases target
  | _ => rfl

/-- One more request, whatever it is. -/
theorem serve (q : Request) : (s.serve q).2.InStep start (asked ++ [q]) := by
  rcases hs.grants_refuses_or_fails q with ⟨answer, s', granted⟩ | ⟨e, refused⟩ | ⟨raised, s', failed⟩
  · rw [hs.serve_of_grants granted]
    cases granted with
    | declare free => exact hs.declared free rfl rfl rfl (List.cons_ne_nil _ _)
    | @push n a here f labelled => exact hs.pushed here (.number n) f
    | write here value =>
      have rooted := hs.rooted _ (List.mem_of_getElem? here)
      exact hs.put rfl here rfl rfl rooted
    | _ => exact hs.unchanged rfl
  · rw [serve_of_refuses refused]
    cases refused with
    | taken value isMutable interiorMutable declared => exact hs.taken declared rfl
    | unknownId target => exact hs.unchanged (declares?_of_target? target)
    | unknownName absent => exact hs.unchanged rfl
  · rw [serve_of_fails failed]
    cases failed with
    | noNumber target | longId target => exact hs.unchanged (declares?_of_target? target)
    | @longParent n a here f long => exact hs.pushed here (.number n) f

/-- Any number of requests. -/
theorem serveAll (requests : List Request) :
    (s.serveAll requests).2.InStep start (asked ++ requests) := by
  induction requests generalizing s asked with
  | nil => simpa [Store.serveAll] using hs
  | cons q rest ih => simpa [Store.serveAll] using ih (hs.serve q)

end InStep

end Store

end PointerTrace
