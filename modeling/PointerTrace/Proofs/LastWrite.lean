import PointerTrace.Proofs.Derivation
import PointerTrace.Proofs.Verdict

/- What memory holds. A declaration, a write and a call give a value to the variable that the name
   they use goes back to, and `Program.lastValue?` is what the first operations of a program gave a
   variable last. Nothing else touches a value, however many pointers lead to it, since a pointer
   stands in the allocation of its variable in every state of a run (`Run.traced`). So a read sees
   the last value, and the last values are what a run ends with (`Run.last_write`). -/
namespace PointerTrace

/-- The variable that an action gives a value to, and the value, when the names are derived as
    given. -/
def Action.assignment? (of : String → Derivation) (externalValue : Int) :
    Action → Option (String × Int)
  | .declare name value .. => some (name, value)
  | .write source value => some ((of source).origin, value)
  | .call source _ => some ((of source).origin, externalValue)
  | .borrow .. | .reborrow .. | .toInteger .. | .read .. => none

namespace Program

/-- The values that the first operations give to variables. -/
def assignments (p : Program) (externalValue : Int) (n : Nat) : List (String × Int) :=
  (p.operations.take n).filterMap fun op => op.action.assignment? p.derivation externalValue

/-- The value that the first operations give to a variable last. -/
def lastValue? (p : Program) (externalValue : Int) (n : Nat) (name : String) : Option Int :=
  (p.assignments externalValue n).reverse.lookup name

/-- The names that the first operations declare. -/
def declarations (p : Program) (n : Nat) : List String :=
  (p.operations.take n).filterMap fun op => op.action.declares?

/-- What the operation at an index sees when it is a read: the name that it reads through, the
    variable that the name goes back to, and the value that the variable was given last. -/
def sight? (p : Program) (externalValue : Int) (n : Nat) :
    Option (Nat × String × String × Option Int) :=
  match (p.operations[n]?).map Operation.action with
  | some (.read source _) =>
    let name := (p.derivation source).origin
    some (n, source, name, p.lastValue? externalValue n name)
  | _ => none

variable {p : Program} {externalValue : Int} {n : Nat} {op : Operation}

theorem lastValue?_succ (here : p.operations[n]? = some op) (name : String) :
    p.lastValue? externalValue (n + 1) name =
      match op.action.assignment? p.derivation externalValue with
      | some (x, value) => if name = x then some value else p.lastValue? externalValue n name
      | none => p.lastValue? externalValue n name := by
  rw [lastValue?, assignments, List.take_add_one, here, Option.toList_some, List.filterMap_append,
    List.reverse_append, List.filterMap_cons]
  cases op.action.assignment? p.derivation externalValue with
  | none => rfl
  | some e =>
    show List.lookup name (e :: (p.assignments externalValue n).reverse) = _
    rw [List.lookup_cons]
    by_cases same : name = e.1
    · simp [same]
    · simp [same, beq_eq_false_iff_ne.mpr same, lastValue?]

theorem sight?_of_read (here : p.operations[n]? = some op) {source : String}
    {binding : Option String} (read : op.action = .read source binding) : p.sight? externalValue n =
      some (n, source, (p.derivation source).origin,
        p.lastValue? externalValue n (p.derivation source).origin) := by
  rw [sight?, here, Option.map_some, read]

theorem sight?_of_silent (here : p.operations[n]? = some op)
    (silent : ∀ source binding, op.action ≠ .read source binding) :
    p.sight? externalValue n = none := by
  rw [sight?, here, Option.map_some]
  split
  · next source binding same => exact absurd (Option.some.inj same) (silent source binding)
  · rfl

theorem declarations_succ (here : p.operations[n]? = some op) :
    p.declarations (n + 1) = p.declarations n ++ op.action.declares?.toList := by
  rw [declarations, List.take_add_one, here, Option.toList_some, List.filterMap_append,
    List.filterMap_cons]
  cases op.action.declares? <;> rfl

end Program

/-! ## One step -/

/-- What a changed store holds: the allocation that was changed, and the others as they were. -/
theorem Store.Valid.mem_modify {s : Store} (hs : s.Valid) {id : AllocationId} {a b : Allocation}
    (found : s.get? id = some b) {f : Allocation → Allocation}
    (inside : a ∈ (s.modify id f).allocations) : a = f b ∨ a ∈ s.allocations ∧ a.id ≠ id := by
  rw [hs.modify_eq_map found f, List.mem_map] at inside
  obtain ⟨c, there, rfl⟩ := inside
  by_cases same : c.id = id
  · have placed := hs.get?_of_mem there
    rw [same, found, Option.some.injEq] at placed
    exact .inl (by rw [if_pos same, placed])
  · rw [if_neg same]
    exact .inr ⟨there, same⟩

namespace Machine

variable {m m' : Machine} {act : Action} {of : String → Derivation}

theorem Derives.assignment {kind : BorrowKind} {result : String} {p : Pointer}
    (h : m.Derives act kind result p) (of : String → Derivation) (externalValue : Int) :
    act.assignment? of externalValue = none := by
  cases h <;> rfl

/-- A write gives its value to the variable whose allocation its pointer stands in. -/
theorem Writes.assignment {p : Pointer} {value : Int} (h : m.Writes act p value) (hm : m.Valid)
    (traced : m.Traced of) {a : Allocation} (found : m.store.get? p.target = some a) :
    act.assignment? of m.externalValue = some (a.name, value) := by
  cases h with
  | write resolved => rw [((traced.resolve hm resolved).at found).1]; rfl
  | call resolved => rw [((traced.resolve hm resolved).at found).1]; rfl

/-- After a change an allocation has the value that the operation gave to its variable, or it was
    there with the same value and the operation gave its variable none. -/
theorem Change.value_cases (hm : m.Valid) (distinct : m.store.names.Nodup) (traced : m.Traced of)
    (change : m.Change act m') {a : Allocation} (inside : a ∈ m'.store.allocations) :
    act.assignment? of m.externalValue = some (a.name, a.value) ∨
      (∃ b ∈ m.store.allocations, b.name = a.name ∧ b.value = a.value) ∧
        ∀ value, act.assignment? of m.externalValue ≠ some (a.name, value) := by
  cases change with
  | @declare name value isMutable interiorMutable id store declared =>
    obtain ⟨free, -, rfl⟩ := Store.declare_eq_ok.mp declared
    rcases List.mem_append.mp inside with old | new
    · refine .inr ⟨⟨a, old, rfl, rfl⟩, ?_⟩
      rintro _ same
      cases same
      rw [Store.has_iff.mpr (List.mem_map_of_mem old)] at free
      cases free
    · rw [List.mem_singleton.mp new]
      exact .inl rfl
  | @derive _ kind result p b f derives found =>
    have none := derives.assignment of m.externalValue
    rcases hm.store.mem_modify found inside with rfl | ⟨old, -⟩
    · exact .inr ⟨⟨b, Store.mem_of_get? found, rfl, rfl⟩, by rw [none]; nofun⟩
    · exact .inr ⟨⟨a, old, rfl, rfl⟩, by rw [none]; nofun⟩
  | untagged derives =>
    have none := derives.assignment of m.externalValue
    exact .inr ⟨⟨a, inside, rfl, rfl⟩, by rw [none]; nofun⟩
  | toInteger => exact .inr ⟨⟨a, inside, rfl, rfl⟩, nofun⟩
  | @read source binding p b t grant resolved found =>
    rcases hm.store.mem_modify found inside with rfl | ⟨old, -⟩
    · exact .inr ⟨⟨b, Store.mem_of_get? found, rfl, rfl⟩, nofun⟩
    · exact .inr ⟨⟨a, old, rfl, rfl⟩, nofun⟩
  | @write _ p value b t grant writes found =>
    have assigned := writes.assignment hm traced found
    rcases hm.store.mem_modify found inside with rfl | ⟨old, apart⟩
    · exact .inl assigned
    · refine .inr ⟨⟨a, old, rfl, rfl⟩, ?_⟩
      intro other same
      -- two allocations of one name would be one
      have placed := hm.store.get?_of_mem old
      rw [assigned, Option.some.injEq, Prod.mk.injEq] at same
      have named := Store.named?_of_get? distinct placed
      rw [← same.1, Store.named?_of_get? distinct found, Option.some.injEq] at named
      exact apart (named ▸ (hm.store.get? found).2)

/-- Only a read is noted, with the value of the allocation that its pointer stands in. -/
theorem Change.reads (change : m.Change act m') :
    ((∀ source binding, act ≠ .read source binding) ∧ m'.reads = m.reads) ∨
      ∃ source binding p a, act = .read source binding ∧ m.resolve source = .ok p ∧
        m.store.get? p.target = some a ∧
        m'.reads = m.reads ++ [⟨m.pc, source, a.name, a.value⟩] := by
  cases change with
  | @read source binding p a t grant resolved found =>
    exact .inr ⟨source, binding, p, a, rfl, resolved, found, rfl⟩
  | derive derives => exact .inl ⟨by cases derives <;> nofun, rfl⟩
  | untagged derives => exact .inl ⟨by cases derives <;> nofun, rfl⟩
  | write writes => exact .inl ⟨by cases writes <;> nofun, rfl⟩
  | _ => exact .inl ⟨nofun, rfl⟩

end Machine

/-! ## Along a run -/

/-- An observation beside what a read should see. -/
def Observation.sight (seen : Observation) : Nat × String × String × Option Int :=
  (seen.index, seen.source, seen.allocation, some seen.value)

namespace Run

variable {r : Run} {n : Nat} {m : Machine}

/-- The machine holds what the first operations left and saw what the reads among them should. -/
structure Remembers (r : Run) (n : Nat) (m : Machine) : Prop where
  names : m.store.names = r.program.declarations n
  values : ∀ a ∈ m.store.allocations,
    r.program.lastValue? r.options.externalValue n a.name = some a.value
  reads : m.reads.map Observation.sight =
    (List.range n).filterMap (r.program.sight? r.options.externalValue)

theorem Remembers.final (h : r.Remembers n m) : m.store.values.map (fun e => (e.1, some e.2)) =
    (r.program.declarations n).map fun name =>
      (name, r.program.lastValue? r.options.externalValue n name) := by
  rw [← h.names, Store.values, Store.names, List.map_map, List.map_map]
  refine List.map_congr_left ?_
  intro a inside
  simp only [Function.comp_apply, h.values a inside]

/-- In every state of a run the machine holds the last values and saw those before each read. -/
theorem remembers (h : r.state? n = some m) : r.Remembers n m := by
  induction n generalizing m with
  | zero =>
    rw [(state?_zero h).2]
    exact ⟨rfl, nofun, rfl⟩
  | succ n ih =>
    obtain ⟨before, op, after, found, here, change, rfl⟩ := state?_succ h
    have old := ih found
    have valid := (reached found).valid
    have traced := traced found
    have external := (reached found).externalValue
    refine ⟨?_, ?_, ?_⟩
    · have names := change.names
      rw [Program.declarations_succ here, ← old.names]
      exact names
    · intro a inside
      rw [Program.lastValue?_succ here, ← external]
      rcases change.value_cases valid (names_distinct found) traced inside with
        assigned | ⟨⟨b, there, name, value⟩, untouched⟩
      · rw [assigned]
        exact if_pos rfl
      · have kept : r.program.lastValue? before.externalValue n a.name = some a.value := by
          rw [external, ← name, ← value, old.values b there]
        cases assigns : op.action.assignment? r.program.derivation before.externalValue with
        | none => exact kept
        | some e =>
          have other : a.name ≠ e.1 := fun same => untouched e.2 (by rw [assigns, same])
          exact (if_neg other).trans kept
    · rw [List.range_succ, List.filterMap_append, ← old.reads, List.filterMap_cons]
      show after.reads.map Observation.sight = _
      rcases change.reads with
        ⟨silent, reads⟩ | ⟨source, binding, p, a, read, resolved, placed, reads⟩
      · rw [Program.sight?_of_silent here silent, reads]
        exact (List.append_nil _).symm
      · -- the pointer that is read through stands in the allocation of its variable
        have name := ((traced.resolve valid resolved).at placed).1
        have value := old.values a (Store.mem_of_get? placed)
        rw [Program.sight?_of_read here read, reads, List.map_append, ← name, value,
          (reached found).pc]
        rfl

/-- Where a pointer that an operation uses stands is where its name goes back to. -/
theorem operand_target {op : Operation} {source : String} (h : r.state? n = some m)
    (here : r.program.operations[n]? = some op) (operand : op.action.operand? = some source) :
    ∃ p a, m.resolve source = .ok p ∧ m.store.get? p.target = some a ∧
      a.name = (r.program.derivation source).origin := by
  have valid := (reached h).valid
  obtain ⟨p, resolved⟩ := (ready (wellFormed h) h here).resolves operand
  obtain ⟨a, placed, name, -⟩ := (traced h).resolve valid resolved
  exact ⟨p, a, resolved, placed, name⟩

/-- In every state of a run the operand of the next operation stands in the allocation of the
    variable that its name goes back to. The evaluation of a well-formed program ends with one
    observation for each read that was carried out, in their order, of the value that the
    variable was given last before it; and with the variables that were declared, in their order,
    each with the value that it was given last. -/
theorem last_write (r : Run) (clean : r.program.WellFormed r.options.checkBindings) :
    (∀ n m op source, r.state? n = some m → r.program.operations[n]? = some op →
      op.action.operand? = some source → ∃ p a, m.resolve source = .ok p ∧
        m.store.get? p.target = some a ∧ a.name = (r.program.derivation source).origin) ∧
    ∃ m, r.program.evaluate r.options r.recording = .ok m ∧
      m.reads.map Observation.sight =
        (List.range m.pc).filterMap (r.program.sight? r.options.externalValue) ∧
      m.store.values.map (fun e => (e.1, some e.2)) = (r.program.declarations m.pc).map fun name =>
        (name, r.program.lastValue? r.options.externalValue m.pc name) := by
  refine ⟨fun n m op source found here operand => operand_target found here operand, ?_⟩
  rcases done_or_faults clean with ⟨last, done⟩ | ⟨n, last, op, fault, found, here, faults⟩
  · have memory : r.Remembers last.pc last := (reached done).pc.symm ▸ remembers done
    exact ⟨_, evaluate_of_done done, memory.reads, memory.final⟩
  · have memory : r.Remembers last.pc last := (reached found).pc.symm ▸ remembers found
    exact ⟨_, evaluate_of_faults found here faults, memory.reads, memory.final⟩

/-- A variable is written through a borrow and by a call on its own name, and the borrow is read
    before and after the call. -/
def handedOver : Run := { ofActions [.declare "x" 0 true false, .borrow "x" .unique "m",
  .write "m" 5, .read "m" none, .call "x" "f", .read "x" none, .read "m" none] with
    options := ⟨9, false⟩ }

theorem last_write_handedOver : ∃ m, handedOver.program.evaluate ⟨9, false⟩ false = .ok m ∧
    m.status = .haltedUb ∧
    m.reads.map Observation.sight = [(3, "m", "x", some 5), (5, "x", "x", some 9)] ∧
    m.store.values.map (fun e => (e.1, some e.2)) = [("x", some 9)] := by
  obtain ⟨-, m, evaluated, reads, values⟩ := last_write handedOver rfl
  cases evaluated
  exact ⟨_, rfl, rfl, reads.trans rfl, values.trans rfl⟩

end Run

end PointerTrace
