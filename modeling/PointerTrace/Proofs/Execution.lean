import PointerTrace.Proofs.Change

/- Execution of one operation. Where its names resolve (`Ready`), an operation makes a change or it is
   at fault, and `Faults` lists the ways of that as `Change` does those of success (`Ready.cases`). A
   change is carried out and the program counter moves on (`Change.execute`); of a fault only the
   status and the fault are noted (`Faults.execute`). Where the names do not resolve, the execution
   fails (`ready_of_execute`). -/
namespace PointerTrace

namespace Machine

/-- The machine after a fault. -/
def faulted (m : Machine) (op : Operation) (fault : AccessFault) : Machine :=
  { m with status := .haltedUb, fault := some ⟨m.pc, op, fault⟩ }

/-- Every name that an action uses stands for something, and the name of a declaration is free. -/
def Ready (m : Machine) : Action → Prop
  | .declare name .. => m.store.has name = false
  | .borrow target _ _ => m.store.has target = true
  | .reborrow source _ _ | .toInteger source _ | .read source _ | .write source _
  | .call source _ => ∃ p, m.resolve source = .ok p

theorem Ready.resolves {m : Machine} {act : Action} (ready : m.Ready act) {source : String}
    (operand : act.operand? = some source) : ∃ p, m.resolve source = .ok p := by
  cases act <;> cases operand <;> exact ready

/-! ## Effects -/

theorem deriveEffect_of_get {m : Machine} {p : Pointer} {a : Allocation}
    (found : m.store.get? p.target = some a) (kind : BorrowKind) (result : String) :
    m.deriveEffect p kind result = .ok (match a.parentFault? p.tag .read with
      | some fault => .refuse fault
      | none => match p.tag with
        | none => .bind result ⟨p.target, none⟩
        | some t => match (a.find t).bind fun depth => a.stack[depth]? with
          | none => .refuse (a.faultOf .read (.parentGone t))
          | some frame =>
            .derive a.id t (frame.permission.derive kind a.interiorMutable) result) := by
  unfold deriveEffect
  rw [Store.get_eq_ok.mpr found]
  show (match a.parentFault? p.tag .read with | some _ => _ | none => _) = _
  cases a.parentFault? p.tag .read with
  | some fault => rfl
  | none =>
    cases p.tag with
    | none => rfl
    | some t =>
      dsimp only
      cases (a.find t).bind fun depth => a.stack[depth]? <;> rfl

theorem readEffect_of_get {m : Machine} {p : Pointer} {a : Allocation}
    (found : m.store.get? p.target = some a) (source : String) :
    m.readEffect source p = .ok (match a.judge p.tag .read with
      | .ok grant => .read p.target grant source
      | .error fault => .refuse fault) := by
  unfold readEffect
  rw [Store.get_eq_ok.mpr found]
  show (match a.judge p.tag .read with | .ok _ => _ | .error _ => _) = _
  cases a.judge p.tag .read <;> rfl

theorem writeEffect_of_get {m : Machine} {p : Pointer} {a : Allocation}
    (found : m.store.get? p.target = some a) (value : Int) :
    m.writeEffect p value = .ok (match a.judge p.tag .write with
      | .ok grant => .write p.target grant value
      | .error fault => .refuse fault) := by
  unfold writeEffect
  rw [Store.get_eq_ok.mpr found]
  show (match a.judge p.tag .write with | .ok _ => _ | .error _ => _) = _
  cases a.judge p.tag .write <;> rfl

theorem perform_derive {m : Machine} (op : Operation) {target : AllocationId} {a : Allocation}
    (found : m.store.get? target = some a) (f : Frame) (permission : Permission)
    (result : String) :
    m.perform op (.derive target f.tag permission result) =
      .ok (m.derived target f permission result) := by
  have got : m.store.takeTag.2.get target = .ok a := Store.get_eq_ok.mpr found
  show (m.store.takeTag.2.get target >>= _) >>= _ = _
  rw [got]
  rfl

theorem perform_read {m : Machine} (op : Operation) {target : AllocationId} {a : Allocation}
    (found : m.store.get? target = some a) (grant : Grant) (source : String) :
    m.perform op (.read target grant source) = .ok
      { m with
        store := m.store.modify target fun a => a.apply grant
        reads := m.reads ++ [⟨m.pc, source, a.name, a.value⟩] } := by
  show (m.store.get target >>= _) >>= _ = _
  rw [Store.get_eq_ok.mpr found]
  rfl

theorem perform_write {m : Machine} (op : Operation) {target : AllocationId} {a : Allocation}
    (found : m.store.get? target = some a) (grant : Grant) (value : Int) :
    m.perform op (.write target grant value) = .ok
      { m with store := m.store.modify target fun a => { a.apply grant with value } } := by
  have changed := Store.get?_modify_self found fun a => a.apply grant
  show ((m.store.modify target fun a => a.apply grant).get target >>= _) >>= _ = _
  rw [Store.get_eq_ok.mpr changed]
  show Except.ok _ = _
  rw [Store.modify_modify]
  rfl

theorem Derives.effect {m : Machine} {act : Action} {kind : BorrowKind} {result : String}
    {p : Pointer} (h : m.Derives act kind result p) :
    m.effect act = m.deriveEffect p kind result := by
  cases h with
  | borrow resolved =>
    simp only [Machine.effect, resolved]
    rfl
  | reborrow resolved =>
    simp only [Machine.effect, resolved]
    rfl

theorem Writes.effect {m : Machine} {act : Action} {p : Pointer} {value : Int}
    (h : m.Writes act p value) : m.effect act = m.writeEffect p value := by
  cases h <;> rename_i resolved <;> simp only [Machine.effect, resolved] <;> rfl

/-! ## What an operation does when its names resolve -/

/-- The faults of operations: a derivation from a parent that is judged unfit, and an access that the
    judge refuses. -/
inductive Faults (m : Machine) : Action → AccessFault → Prop where
  | derive {act : Action} {kind : BorrowKind} {result : String} {p : Pointer} {a : Allocation}
      {fault : AccessFault} (derives : m.Derives act kind result p)
      (found : m.store.get? p.target = some a)
      (refused : a.parentFault? p.tag .read = some fault) : m.Faults act fault
  | access {act : Action} {access : Access} {p : Pointer} {a : Allocation} {fault : AccessFault}
      (accesses : m.Accesses act access p) (found : m.store.get? p.target = some a)
      (refused : a.judge p.tag access = .error fault) : m.Faults act fault

/-- An operation that accesses memory reads or writes. -/
theorem Accesses.cases {m : Machine} {act : Action} {access : Access} {p : Pointer}
    (h : m.Accesses act access p) :
    (access = .read ∧ ∃ source binding, act = .read source binding ∧ m.resolve source = .ok p) ∨
      access = .write ∧ ∃ value, m.Writes act p value := by
  obtain ⟨source, through, resolved⟩ := h
  cases act <;> cases through
  case read binding => exact .inl ⟨rfl, source, binding, rfl, resolved⟩
  case write value => exact .inr ⟨rfl, value, .write resolved⟩
  case call function => exact .inr ⟨rfl, m.externalValue, .call resolved⟩

/-- A derivation from a pointer that the store knows pushes a frame or binds a pointer without
    tag, or its parent is at fault. -/
theorem derive_cases {m : Machine} {act : Action} {kind : BorrowKind} {result : String}
    {p : Pointer} (derives : m.Derives act kind result p) (known : m.store.Knows p) :
    (∃ m', m.Change act m') ∨ ∃ fault, m.Faults act fault := by
  obtain ⟨a, found, -⟩ := known
  cases tagged : p.tag with
  | none => exact .inl ⟨_, .untagged derives tagged⟩
  | some t =>
    cases judged : a.parentFault? (some t) .read with
    | some fault => exact .inr ⟨fault, .derive derives found (tagged ▸ judged)⟩
    | none =>
      obtain ⟨f, present, rfl, enabled, -⟩ := Allocation.parentFault?_eq_none.mp judged
      exact .inl ⟨_, .derive derives found present tagged enabled⟩

/-- An access through a pointer that the store knows is carried out, or it is at fault. -/
theorem access_cases {m : Machine} {act : Action} {access : Access} {p : Pointer}
    (accesses : m.Accesses act access p) (known : m.store.Knows p) :
    (∃ m', m.Change act m') ∨ ∃ fault, m.Faults act fault := by
  obtain ⟨a, found, -⟩ := known
  cases judged : a.judge p.tag access with
  | error fault => exact .inr ⟨fault, .access accesses found judged⟩
  | ok grant =>
    left
    cases tagged : p.tag with
    | none =>
      rw [tagged] at judged
      cases judged
    | some t =>
      rw [tagged] at judged
      rcases accesses.cases with ⟨rfl, source, binding, rfl, resolved⟩ | ⟨rfl, value, writes⟩
      · exact ⟨_, .read resolved found tagged judged⟩
      · exact ⟨_, .write writes found tagged judged⟩

/-- An operation whose names resolve makes a change, or it is at fault. -/
theorem Ready.cases {m : Machine} {act : Action} (hm : m.Valid) (ready : m.Ready act) :
    (∃ m', m.Change act m') ∨ ∃ fault, m.Faults act fault := by
  cases act with
  | declare name value isMutable interiorMutable =>
    exact .inl ⟨_, .declare (Store.declare_eq_ok.mpr ⟨ready, rfl, rfl⟩)⟩
  | borrow target kind result =>
    obtain ⟨p, resolved, known⟩ := Store.rootPointer_of_has hm.store ready
    exact derive_cases (.borrow resolved) known
  | reborrow source kind result =>
    obtain ⟨p, resolved⟩ := ready
    exact derive_cases (.reborrow resolved) (hm.resolve resolved)
  | toInteger source result =>
    obtain ⟨p, resolved⟩ := ready
    exact .inl ⟨_, .toInteger resolved⟩
  | read source binding =>
    obtain ⟨p, resolved⟩ := ready
    exact access_cases ⟨source, rfl, resolved⟩ (hm.resolve resolved)
  | write source value =>
    obtain ⟨p, resolved⟩ := ready
    exact access_cases ⟨source, rfl, resolved⟩ (hm.resolve resolved)
  | call source function =>
    obtain ⟨p, resolved⟩ := ready
    exact access_cases ⟨source, rfl, resolved⟩ (hm.resolve resolved)

/-! ## Execution -/

/-- A change touches the store, the bound pointers and the observations, and nothing else. -/
theorem Change.frame {m m' : Machine} {act : Action} (h : m.Change act m') :
    m' = { m with store := m'.store, pointers := m'.pointers, reads := m'.reads } := by
  cases h <;> rfl

/-- A machine that made a change still runs. -/
theorem Change.running {m m' : Machine} {act : Action} (h : m.Change act m')
    (running : m.status = .running) : m'.status = .running :=
  (congrArg Machine.status h.frame).trans running

/-- Carrying out an operation makes its change. -/
theorem Change.performed {m m' : Machine} {op : Operation} (hm : m.Valid)
    (h : m.Change op.action m') : (m.effect op.action >>= m.perform op) = .ok m' := by
  obtain ⟨action, location⟩ := op
  cases h with
  | @declare name value isMutable interiorMutable id store declared =>
    show (m.store.declare name value isMutable interiorMutable >>= _) = _
    rw [declared]
    rfl
  | @derive _ kind result p a f derives found present tagged enabled =>
    have judged : a.parentFault? (some f.tag) .read = none ∧
        ((a.find f.tag).bind fun depth => a.stack[depth]?) = some f := by
      have at_depth := (hm.store.get? found).1.at_find present
      exact ⟨Allocation.parentFault?_eq_none.mpr ⟨f, present, rfl, enabled, at_depth⟩, at_depth⟩
    have same := (hm.store.get? found).2
    rw [derives.effect, deriveEffect_of_get found, tagged, judged.1]
    show m.perform _ (match (a.find f.tag).bind fun depth => a.stack[depth]? with
      | none => _ | some _ => _) = _
    rw [judged.2, ← same]
    exact perform_derive _ (same ▸ found) f _ result
  | untagged derives noTag =>
    obtain ⟨a, found, -⟩ := derives.known hm
    rw [derives.effect, deriveEffect_of_get found, noTag]
    rfl
  | toInteger resolved =>
    simp only [Machine.effect, resolved]
    rfl
  | @read source binding p a t grant resolved found tagged granted =>
    simp only [Machine.effect, resolved]
    show (m.readEffect source p >>= m.perform ⟨.read source binding, location⟩) = _
    rw [readEffect_of_get found, tagged, granted]
    exact perform_read ⟨.read source binding, location⟩ found grant source
  | write writes found tagged granted =>
    rw [writes.effect, writeEffect_of_get found, tagged, granted]
    exact perform_write ⟨action, location⟩ found _ _

/-- An operation that makes a change is executed. -/
theorem Change.execute {m m' : Machine} {op : Operation} (hm : m.Valid)
    (running : m.status = .running) (h : m.Change op.action m') :
    m.execute op = .ok (m'.advance op) := by
  unfold Machine.execute
  rw [h.performed hm]
  show Except.ok (if m'.status = .running then _ else _) = _
  rw [if_pos (h.running running)]

/-- An operation at fault halts the machine and changes nothing else. -/
theorem Faults.execute {m : Machine} {op : Operation} {fault : AccessFault}
    (h : m.Faults op.action fault) : m.execute op = .ok (m.faulted op fault) := by
  have refused : m.effect op.action = .ok (.refuse fault) := by
    cases h with
    | derive derives found refused => rw [derives.effect, deriveEffect_of_get found, refused]
    | access accesses found refused =>
      rcases accesses.cases with ⟨rfl, source, binding, read, resolved⟩ | ⟨rfl, value, writes⟩
      · rw [read]
        simp only [Machine.effect, resolved]
        show m.readEffect source _ = _
        rw [readEffect_of_get found, refused]
      · rw [writes.effect, writeEffect_of_get found, refused]
  unfold Machine.execute
  rw [refused]
  rfl

/-- An operation whose names resolve makes a change, or it is at fault. -/
theorem execute_ready {m : Machine} (hm : m.Valid) (running : m.status = .running) (op : Operation)
    (ready : m.Ready op.action) :
    (∃ m', m.Change op.action m' ∧ m.execute op = .ok (m'.advance op)) ∨
      ∃ fault, m.execute op = .ok (m.faulted op fault) := by
  rcases ready.cases hm with ⟨m', change⟩ | ⟨fault, faults⟩
  · exact .inl ⟨m', change, change.execute hm running⟩
  · exact .inr ⟨fault, faults.execute⟩

/-- An execution that does not fail found what the names of its operation stand for. -/
theorem ready_of_execute {m m' : Machine} {op : Operation} (h : m.execute op = .ok m') :
    m.Ready op.action := by
  obtain ⟨action, location⟩ := op
  have resolves : ∀ (source : String) (f : Pointer → Except StoreError Effect),
      m.effect action = (m.resolve source >>= f) → ∃ p, m.resolve source = .ok p := by
    intro source f same
    cases resolved : m.resolve source with
    | ok p => exact ⟨p, rfl⟩
    | error e =>
      simp only [execute, same, resolved] at h
      cases h
  cases action with
  | declare name value isMutable interiorMutable =>
    show m.store.has name = false
    cases taken : m.store.has name with
    | false => rfl
    | true =>
      have refused : m.store.declare name value isMutable interiorMutable =
          .error (.nameTaken name m.store.allocations.length) := if_pos taken
      change ((m.store.declare name value isMutable interiorMutable >>= _) >>= _) = _ at h
      rw [refused] at h
      cases h
  | borrow target kind result =>
    show (m.store.named? target).isSome = true
    cases named : m.store.named? target with
    | some a => rfl
    | none =>
      simp only [execute, effect, Store.lookup, named] at h
      cases h
  | reborrow source kind result => exact resolves source _ rfl
  | toInteger source result => exact resolves source _ rfl
  | read source binding => exact resolves source _ rfl
  | write source value => exact resolves source _ rfl
  | call source function => exact resolves source _ rfl

end Machine

end PointerTrace
