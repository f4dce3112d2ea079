import PointerTrace.Proofs.Numerals
import PointerTrace.Proofs.StoreRequests

/- A store in its parts: the allocations, an index from names to ids, and the supply of tags. A call
   changes them one after the other, and what it has changed stays changed if it then fails; an index
   below zero goes to an item counted from the end. Still every call does to the parts of a store what
   its request does to the store (`StoreParts.serve_parts`): the parts stay in step, and no call goes
   to an allocation from the end. The one call that fails half way is a push whose parent cannot be
   written, and it fails with the frame in its place. -/
namespace PointerTrace

/-- The parts of a store, each on its own. -/
structure StoreParts where
  arena : List Allocation
  index : List (String × AllocationId)
  nextTag : Int
  deriving DecidableEq, Repr

/-- The parts that a store has. -/
def Store.parts (s : Store) : StoreParts :=
  ⟨s.allocations, s.allocations.map fun a => (a.name, a.id), s.nextTag⟩

namespace StoreParts

open Store (Answer Handle Raised Request)

/-- Why a call gives no answer: it raises what a store raises, or goes to an item that is not
    there. -/
inductive Fault where
  | raised (raised : Raised)
  | absent
  deriving DecidableEq, Repr

/-- A call changes the parts as it goes, and gives an answer or fails. -/
abbrev Call := ExceptT Fault (StateM StoreParts)

/-! ## Calls -/

/-- The place that an index stands for: below zero it counts from the end. -/
def placeOf (size : Nat) (index : Int) : Int := if index < 0 then index + size else index

/-- The item at an index. -/
def item {α : Type} (items : List α) (index : Int) : Call α :=
  let place := placeOf items.length index
  match if 0 ≤ place then items[place.toNat]? else none with
  | some x => return x
  | none => throw .absent

/-- Sets a key: in its place when the key is there, at the end otherwise. -/
def setKey {α : Type} : List (String × α) → String → α → List (String × α)
  | [], key, value => [(key, value)]
  | (k, old) :: rest, key, value =>
    if k = key then (k, value) :: rest else (k, old) :: setKey rest key value

/-- Refuses a request, which raises what quoting the reason comes to. -/
def refuse {α : Type} (e : StoreError) : Call α := throw (.raised e.raised)

/-- The number that is given for an id. Whatever is given is compared with zero first. -/
def number : Handle → Call AllocationId
  | .number id => return id
  | .text _ => throw (.raised .incomparable)

/-- The allocation with an id. -/
def allocation (id : AllocationId) : Call Allocation := do
  let p ← get
  if 0 ≤ id ∧ id < p.arena.length then item p.arena id else refuse (.unknownId id)

/-- Changes the allocation at an index where it stands. -/
def change (index : Int) (f : Allocation → Allocation) : Call Unit :=
  modify fun p => { p with arena := p.arena.modify (placeOf p.arena.length index).toNat f }

/-- Issues a tag. -/
def takeTag : Call Tag := do
  let p ← get
  set { p with nextTag := p.nextTag + 1 }
  return ⟨p.nextTag⟩

/-- Pushes a frame on the stack of an allocation, then records its parent, and last writes the
    parent's label for the log. -/
def pushFrame (id : AllocationId) (f : Frame) : Call Frame := do
  let _ ← allocation id
  change id fun a => { a with stack := a.stack ++ [f] }
  change id fun a => { a with lineage := recordParent a.lineage f.tag f.parent }
  if canLabel f.parent then return f else throw (.raised .unwritable)

/-- Adds an allocation, then its name, and then a frame with a new tag. -/
def declare (name : String) (value : Int) (isMutable interiorMutable : Bool) :
    Call AllocationId := do
  let p ← get
  if (p.index.lookup name).isSome then refuse (.nameTaken name p.arena.length) else
    let id : AllocationId := p.arena.length
    modify fun p =>
      { p with arena := p.arena ++ [⟨id, name, value, isMutable, interiorMutable, [], []⟩] }
    modify fun p => { p with index := setKey p.index name id }
    let tag ← takeTag
    let _ ← pushFrame id ⟨tag, .ofRoot interiorMutable, none⟩
    return id

/-- The id of a name. -/
def lookup (name : String) : Call AllocationId := do
  let p ← get
  match p.index.lookup name with
  | some id => return id
  | none => refuse (.unknownName name)

/-- The pointer with the tag of the lowest frame. -/
def rootPointer (id : AllocationId) : Call Pointer := do
  let a ← allocation id
  let root ← item a.stack 0
  return ⟨id, some root.tag⟩

/-- Sets the value of an allocation. -/
def write (id : AllocationId) (value : Int) : Call Unit := do
  let _ ← allocation id
  change id ({ · with value })

/-- The value of every name. -/
def values (p : StoreParts) : List (String × Int) :=
  p.arena.foldl (fun found a => setKey found a.name a.value) []

/-- The call of a request. -/
def call : Request → Call Answer
  | .declare name value isMutable interiorMutable =>
    .id <$> declare name value isMutable interiorMutable
  | .push handle f => number handle >>= fun id => .frame <$> pushFrame id f
  | .write handle value => number handle >>= fun id => (fun _ => .done) <$> write id value
  | .get handle => number handle >>= fun id => .allocation <$> allocation id
  | .rootPointer handle => number handle >>= fun id => .pointer <$> rootPointer id
  | .read handle => number handle >>= fun id => (fun a => .value a.value) <$> allocation id
  | .lookup name => .id <$> lookup name
  | .has name => return .isDeclared ((← get).index.lookup name).isSome
  | .names => return .names ((← get).arena.map Allocation.name)
  | .values => return .values (← get).values

/-- The answer to a request or its fault, and the parts after it. -/
def serve (p : StoreParts) (q : Request) : Except Fault Answer × StoreParts := ((call q).run).run p

/-- What is said to requests in turn, and the parts after them. -/
def serveAll (p : StoreParts) : List Request → List (Except Fault Answer) × StoreParts
  | [] => ([], p)
  | q :: rest => ((p.serve q).1 :: ((p.serve q).2.serveAll rest).1, ((p.serve q).2.serveAll rest).2)

/-! ## Running calls -/

section Running

variable {α β : Type} {p p' : StoreParts}

theorem run_bind_ok {c : Call α} {k : α → Call β} {a : α} (h : c.run.run p = (.ok a, p')) :
    (c >>= k).run.run p = (k a).run.run p' := by
  simp only [ExceptT.run_bind, StateT.run_bind, h]
  rfl

theorem run_bind_error {c : Call α} {k : α → Call β} {e : Fault}
    (h : c.run.run p = (.error e, p')) : (c >>= k).run.run p = (.error e, p') := by
  simp only [ExceptT.run_bind, StateT.run_bind, h]
  rfl

theorem run_map_ok {c : Call α} {a : α} (h : c.run.run p = (.ok a, p')) (f : α → β) :
    (f <$> c).run.run p = (.ok (f a), p') := by
  simp only [ExceptT.run_map, StateT.run_map, h]
  rfl

theorem run_map_error {c : Call α} {e : Fault} (h : c.run.run p = (.error e, p')) (f : α → β) :
    (f <$> c).run.run p = (.error e, p') := by
  simp only [ExceptT.run_map, StateT.run_map, h]
  rfl

theorem run_get : (get : Call StoreParts).run.run p = (.ok p, p) := rfl

theorem run_modify {f : StoreParts → StoreParts} :
    (modify f : Call Unit).run.run p = (.ok (), f p) := rfl

theorem run_refuse {e : StoreError} :
    (refuse e : Call α).run.run p = (.error (.raised e.raised), p) := rfl

theorem run_number {id : AllocationId} : (number (.number id)).run.run p = (.ok id, p) := rfl

theorem run_number_text {text : String} :
    (number (.text text)).run.run p = (.error (.raised .incomparable), p) := rfl

theorem run_takeTag :
    takeTag.run.run p = (.ok ⟨p.nextTag⟩, { p with nextTag := p.nextTag + 1 }) := rfl

/-- An index that is a place goes to the item there. -/
theorem run_item {items : List α} {n : Nat} {x : α} (here : items[n]? = some x) :
    (item items n).run.run p = (.ok x, p) := by
  have place : placeOf items.length n = n := if_neg (by omega)
  simp only [item, place, Int.natCast_nonneg, if_true, Int.toNat_natCast, here]
  rfl

theorem run_allocation {n : Nat} {a : Allocation} (here : p.arena[n]? = some a) :
    (allocation n).run.run p = (.ok a, p) := by
  have inside := (List.getElem?_eq_some_iff.mp here).1
  have known : 0 ≤ (n : Int) ∧ (n : Int) < p.arena.length := by omega
  rw [allocation, run_bind_ok run_get, if_pos known]
  exact run_item here

theorem run_allocation_unknown {id : Int} (unknown : ¬(0 ≤ id ∧ id < p.arena.length)) :
    (allocation id).run.run p = (.error (.raised (StoreError.unknownId id).raised), p) := by
  rw [allocation, run_bind_ok run_get, if_neg unknown, run_refuse]

/-- An allocation is changed in its place. -/
theorem run_change {n : Nat} {a : Allocation} (here : p.arena[n]? = some a)
    (f : Allocation → Allocation) :
    (change n f).run.run p = (.ok (), { p with arena := p.arena.set n (f a) }) := by
  have place : placeOf p.arena.length n = n := if_neg (by omega)
  show (Except.ok (), { p with arena := p.arena.modify (placeOf p.arena.length n).toNat f }) = _
  rw [place, Int.toNat_natCast, Store.modify_eq_set here]

/-- A frame is in its place, with its parent, when the label of the parent is written. -/
theorem run_pushFrame {n : Nat} {a : Allocation} (here : p.arena[n]? = some a) (f : Frame) :
    (pushFrame n f).run.run p = (if canLabel f.parent then .ok f else .error (.raised .unwritable),
      { p with arena := p.arena.set n (a.push f) }) := by
  have inside := (List.getElem?_eq_some_iff.mp here).1
  have placed : ((p.arena.set n { a with stack := a.stack ++ [f] }).set n (a.push f)) =
      p.arena.set n (a.push f) := List.set_set ..
  rw [pushFrame, run_bind_ok (run_allocation here), run_bind_ok (run_change here _),
    run_bind_ok (run_change (List.getElem?_set_self inside) _), ← placed]
  split <;> rfl

end Running

/-! ## Keys -/

section Keys

variable {α : Type}

/-- A new key is set at the end. -/
theorem setKey_of_absent {entries : List (String × α)} {key : String} (value : α)
    (absent : key ∉ entries.map Prod.fst) : setKey entries key value = entries ++ [(key, value)] := by
  induction entries with
  | nil => rfl
  | cons e rest ih =>
    rw [List.map_cons, List.mem_cons, not_or] at absent
    rw [setKey, if_neg (Ne.symm absent.1), ih absent.2]
    rfl

/-- Where names are distinct, setting the value of each lists them all. -/
theorem foldl_setKey (l : List Allocation) (found : List (String × Int))
    (distinct : (found.map Prod.fst ++ l.map Allocation.name).Nodup) :
    l.foldl (fun found a => setKey found a.name a.value) found =
      found ++ l.map fun a => (a.name, a.value) := by
  induction l generalizing found with
  | nil => simp
  | cons a rest ih =>
    have absent : a.name ∉ found.map Prod.fst := fun listed =>
      (List.nodup_append.mp distinct).2.2 _ listed _ (List.mem_cons_self ..) rfl
    rw [List.foldl_cons, setKey_of_absent a.value absent, ih _ (by simpa using distinct)]
    simp

/-- The index finds the id of the first allocation with a name. -/
theorem lookup_index (s : Store) (name : String) :
    s.parts.index.lookup name = (s.named? name).map Allocation.id := by
  show (s.allocations.map _).lookup name = (s.allocations.find? _).map _
  induction s.allocations with
  | nil => rfl
  | cons a rest ih =>
    rw [List.map_cons, List.lookup_cons, List.find?_cons]
    by_cases same : a.name = name
    · simp [same]
    · simp [same, beq_eq_false_iff_ne.mpr (Ne.symm same), ih]

/-- A name has a key in the index exactly if it is declared. -/
theorem isSome_lookup_index (s : Store) (name : String) :
    (s.parts.index.lookup name).isSome = decide (name ∈ s.names) := by
  rw [lookup_index, Option.isSome_map, ← Store.has_eq_decide, Store.has]

end Keys

/-! ## In step -/

/-- The parts of a store in which an allocation changed but kept its id and its name. -/
theorem parts_put {s : Store} {n : Nat} {a b : Allocation} (here : s.allocations[n]? = some a)
    (id : b.id = a.id) (name : b.name = a.name) :
    (s.put n b).parts = { s.parts with arena := s.allocations.set n b } := by
  have index := Store.map_put here (fun a => (a.name, a.id)) (by rw [id, name])
  show (⟨_, _, _⟩ : StoreParts) = ⟨_, _, _⟩
  rw [index]
  rfl

/-- A declaration of a free name adds to each part. -/
theorem run_declare {s : Store} {name : String} (free : name ∉ s.names) (value : Int)
    (isMutable interiorMutable : Bool) :
    (declare name value isMutable interiorMutable).run.run s.parts =
      (.ok s.allocations.length, Store.parts ⟨s.allocations ++
        [s.declared name value isMutable interiorMutable], s.nextTag + 1⟩) := by
  have noKey : ¬(s.parts.index.lookup name).isSome = true := by
    simpa [isSome_lookup_index] using free
  have absent : name ∉ s.parts.index.map Prod.fst := by
    simpa [Store.parts, Store.names] using free
  let bare : Allocation :=
    ⟨s.allocations.length, name, value, isMutable, interiorMutable, [], []⟩
  -- the parts before the frame is pushed
  let p : StoreParts := ⟨s.allocations ++ [bare], setKey s.parts.index name s.allocations.length,
    s.nextTag + 1⟩
  have here : p.arena[s.allocations.length]? = some bare := List.getElem?_concat_length
  rw [declare, run_bind_ok run_get, if_neg noKey]
  refine (run_bind_ok run_modify).trans ?_
  refine (run_bind_ok run_modify).trans ?_
  refine (run_bind_ok run_takeTag).trans ?_
  refine (run_bind_ok (run_pushFrame here ⟨⟨s.nextTag⟩, .ofRoot interiorMutable, none⟩)).trans ?_
  have arena : p.arena.set s.allocations.length
      (s.declared name value isMutable interiorMutable) =
      s.allocations ++ [s.declared name value isMutable interiorMutable] := by
    simp [p]
  have index : p.index = s.parts.index ++ [(name, (s.allocations.length : AllocationId))] :=
    setKey_of_absent _ absent
  show (Except.ok _, (⟨p.arena.set _ (s.declared name value isMutable interiorMutable), p.index,
    s.nextTag + 1⟩ : StoreParts)) = _
  rw [arena, index]
  simp [Store.parts, Store.declared, Allocation.push]

/-- The call of a request that is granted gives its answer and the parts of the store after it. -/
theorem serve_of_grants {start : Int} {asked : List Request} {s : Store}
    (hs : s.InStep start asked) {q : Request} {answer : Answer} {s' : Store}
    (granted : s.Grants q answer s') : s.parts.serve q = (.ok answer, s'.parts) := by
  cases granted with
  | declare free => exact run_map_ok (run_declare free ..) Answer.id
  | @push n a here f labelled =>
    have after : (s.put n (a.push f)).parts = _ := parts_put here rfl rfl
    have pushed : (pushFrame n f).run.run s.parts = (.ok f, _) :=
      (run_pushFrame here f).trans (by rw [if_pos labelled])
    refine (run_bind_ok run_number).trans ?_
    exact (run_map_ok pushed Answer.frame).trans (congrArg _ after.symm)
  | @write n a here value =>
    have after : (s.put n { a with value }).parts = _ := parts_put here rfl rfl
    have written : (write n value).run.run s.parts = _ :=
      (run_bind_ok (run_allocation here)).trans (run_change here _)
    refine (run_bind_ok run_number).trans ?_
    exact (run_map_ok written _).trans (congrArg _ after.symm)
  | get here =>
    refine (run_bind_ok run_number).trans ?_
    exact run_map_ok (run_allocation here) Answer.allocation
  | rootPointer here bottom =>
    refine (run_bind_ok run_number).trans (run_map_ok ?_ Answer.pointer)
    exact (run_bind_ok (run_allocation here)).trans (run_bind_ok (run_item bottom))
  | read here =>
    refine (run_bind_ok run_number).trans ?_
    exact run_map_ok (run_allocation (p := s.parts) here) fun a => Answer.value a.value
  | @lookup n name here =>
    obtain ⟨a, named, place⟩ := hs.named?_of_place here
    have found : s.parts.index.lookup name = some (n : AllocationId) := by
      rw [lookup_index, named, ← place]
      rfl
    refine run_map_ok ?_ Answer.id
    rw [lookup, run_bind_ok run_get, found]
    rfl
  | has name =>
    show (Except.ok (Answer.isDeclared _), s.parts) = _
    rw [isSome_lookup_index]
  | names => rfl
  | values =>
    have listed : s.parts.values = s.values := foldl_setKey s.allocations [] hs.distinct
    exact congrArg (fun found => (Except.ok (Answer.values found), s.parts)) listed

/-- The call of a request that goes to an id takes what is given for it as a number first, and is
    refused where the number is unknown. -/
theorem call_of_target {q : Request} {handle : Handle} (target : q.target? = some handle) :
    ∃ k : AllocationId → Call Answer, call q = number handle >>= k ∧
      ∀ (p : StoreParts) (id : Int), ¬(0 ≤ id ∧ id < p.arena.length) →
        (k id).run.run p = (.error (.raised (StoreError.unknownId id).raised), p) := by
  cases q with
  | get | read =>
    cases target
    exact ⟨_, rfl, fun p id unknown => run_map_error (run_allocation_unknown unknown) _⟩
  | push | write | rootPointer =>
    cases target
    refine ⟨_, rfl, fun p id unknown => ?_⟩
    exact run_map_error (run_bind_error (run_allocation_unknown unknown)) _
  | _ => cases target

/-- The call of a request that goes to an unknown id leaves the parts as they are. -/
theorem serve_of_unknown {s : Store} {q : Request} {id : Int}
    (target : q.target? = some (.number id)) (unknown : ¬(0 ≤ id ∧ id < s.allocations.length)) :
    s.parts.serve q = (.error (.raised (StoreError.unknownId id).raised), s.parts) := by
  obtain ⟨k, called, refuses⟩ := call_of_target target
  rw [serve, called, run_bind_ok run_number]
  exact refuses s.parts id unknown

/-- The call of a request that is refused leaves the parts as they are. -/
theorem serve_of_refuses {s : Store} {q : Request} {e : StoreError} (refused : s.Refuses q e) :
    s.parts.serve q = (.error (.raised (.refused e)), s.parts) := by
  cases refused with
  | @taken name value isMutable interiorMutable declared =>
    have key : (s.parts.index.lookup name).isSome = true := by
      simpa [isSome_lookup_index] using declared
    refine run_map_error ?_ Answer.id
    rw [declare, run_bind_ok run_get, if_pos key]
    exact run_refuse
  | unknownId target unknown short =>
    rw [serve_of_unknown target unknown, StoreError.raised, if_pos short]
  | @unknownName name absent =>
    have noKey : s.parts.index.lookup name = none :=
      Option.not_isSome_iff_eq_none.mp (by simpa [isSome_lookup_index] using absent)
    refine run_map_error ?_ Answer.id
    rw [lookup, run_bind_ok run_get, noKey]
    exact run_refuse

/-- The call of a request that fails in another way raises what the request raises, and leaves the
    parts of the store that the request leaves. -/
theorem serve_of_fails {s : Store} {q : Request} {raised : Raised} {s' : Store}
    (failed : s.Fails q raised s') : s.parts.serve q = (.error (.raised raised), s'.parts) := by
  cases failed with
  | noNumber target =>
    obtain ⟨k, called, -⟩ := call_of_target target
    rw [serve, called, run_bind_error run_number_text]
  | longId target unknown long =>
    rw [serve_of_unknown target unknown, StoreError.raised, if_neg (by simp [long])]
  | @longParent n a here f long =>
    have after : (s.put n (a.push f)).parts = _ := parts_put here rfl rfl
    have pushed : (pushFrame n f).run.run s.parts = (.error (.raised .unwritable), _) :=
      (run_pushFrame here f).trans (by rw [if_neg (by simp [long])])
    refine (run_bind_ok run_number).trans ?_
    exact (run_map_error pushed Answer.frame).trans (congrArg _ after.symm)

section Together

variable {start : Int} {asked : List Request} {s : Store}

end Together

/-- A name that is taken and a text that is given for an id change nothing. -/
example : (Store.empty 5).parts.serveAll [.declare "x" 1 true false, .declare "x" 2 true false,
    .write (.text "x") 9, .read (.number 0)] =
    ([.ok (.id 0), .error (.raised (.refused (.nameTaken "x" 1))), .error (.raised .incomparable),
      .ok (.value 1)],
    ⟨[⟨0, "x", 1, true, false, [⟨⟨5⟩, .unique, none⟩], [(⟨5⟩, none)]⟩], [("x", 0)], 6⟩) := by
  rfl

end StoreParts

end PointerTrace
