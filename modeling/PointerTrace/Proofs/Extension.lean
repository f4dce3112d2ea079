import PointerTrace.Proofs.Verdict

/- A program and what it starts with. The pass over the names and the machine take the operations
   one after the other, and neither the operations still to come nor the recording of memory is
   among what an operation looks at. So two runs whose programs share their first operations go
   through the same states (`Run.state?_within`): the first fault of a program is that of every
   program it is the start of, and what is recorded after an operation is the memory that the
   program up to there ends with (`Program.evaluate_append`). -/
namespace PointerTrace

/-- The problems of operations one after the other. -/
theorem Scope.issuesFrom_append (checkBindings : Bool) (s : Scope) (index : Nat)
    (l k : List Operation) : issuesFrom checkBindings s index (l ++ k) =
      issuesFrom checkBindings s index l ++
        issuesFrom checkBindings (s.afterAll l) (index + l.length) k := by
  induction l generalizing s index with
  | nil => rfl
  | cons op l ih =>
    rw [List.cons_append, issuesFrom, ih, issuesFrom, List.append_assoc, List.length_cons,
      Nat.add_assoc, Nat.add_comm 1]
    rfl

namespace Program

/-- The operations of a program and then those of another, under the name of the first. -/
instance : Append Program := ⟨fun p q => { p with operations := p.operations ++ q.operations }⟩

/-- The program of the first operations. -/
def take (p : Program) (n : Nat) : Program := { p with operations := p.operations.take n }

theorem take_append (p q : Program) : (p ++ q).take p.length = p := by
  have cut : (p.operations ++ q.operations).take p.operations.length = p.operations :=
    List.take_left
  show { p with operations := (p.operations ++ q.operations).take p.operations.length } = p
  rw [cut]

theorem length_take {p : Program} {n : Nat} (le : n ≤ p.length) : (p.take n).length = n :=
  (List.length_take).trans (Nat.min_eq_left le)

theorem getElem?_take (p : Program) {n i : Nat} (inside : i < n) :
    (p.take n).operations[i]? = p.operations[i]? :=
  List.getElem?_take_of_lt inside

/-- What a well-formed program starts with is well formed. -/
theorem WellFormed.take {p : Program} {checkBindings : Bool} (clean : p.WellFormed checkBindings)
    (n : Nat) : (p.take n).WellFormed checkBindings := by
  have split : p.issues checkBindings = _ :=
    (congrArg _ (List.take_append_drop n p.operations).symm).trans (Scope.issuesFrom_append ..)
  rw [WellFormed, split, List.append_eq_nil_iff] at clean
  exact clean.1

end Program

namespace Machine

/-- The machine under another program and with other records of memory. -/
def within (m : Machine) (p : Program) (recording : Bool) (trail : List TrailEntry) : Machine :=
  { m with program := p, recording, trail }

variable {m m' : Machine} {act : Action}

theorem Derives.within {kind : BorrowKind} {result : String} {q : Pointer}
    (h : m.Derives act kind result q) (p : Program) (recording : Bool) (trail : List TrailEntry) :
    (m.within p recording trail).Derives act kind result q := by
  cases h with
  | borrow resolved => exact .borrow resolved
  | reborrow resolved => exact .reborrow resolved

theorem Writes.within {q : Pointer} {value : Int} (h : m.Writes act q value) (p : Program)
    (recording : Bool) (trail : List TrailEntry) :
    (m.within p recording trail).Writes act q value := by
  cases h with
  | write resolved => exact .write resolved
  | call resolved => exact Writes.call (m := m.within p recording trail) resolved

/-- A change looks neither at the program nor at the records. -/
theorem Change.within (h : m.Change act m') (p : Program) (recording : Bool)
    (trail : List TrailEntry) :
    (m.within p recording trail).Change act (m'.within p recording trail) := by
  cases h with
  | declare declared => exact .declare declared
  | derive derives found present tagged enabled =>
    exact .derive (derives.within p recording trail) found present tagged enabled
  | untagged derives noTag => exact .untagged (derives.within p recording trail) noTag
  | toInteger resolved => exact Change.toInteger (m := m.within p recording trail) resolved
  | read resolved found tagged granted =>
    exact Change.read (m := m.within p recording trail) resolved found tagged granted
  | write writes found tagged granted =>
    exact .write (writes.within p recording trail) found tagged granted

/-- Nor does a fault. -/
theorem Faults.within {fault : AccessFault} (h : m.Faults act fault) (p : Program)
    (recording : Bool) (trail : List TrailEntry) :
    (m.within p recording trail).Faults act fault := by
  cases h with
  | derive derives found refused => exact .derive (derives.within p recording trail) found refused
  | access accesses found refused =>
    exact .access (m := m.within p recording trail) accesses found refused

end Machine

namespace Run

variable {r s : Run} {n : Nat} {m : Machine}

/-- Runs whose programs share the first operations go through the same states, but for what is
    recorded of them. -/
theorem state?_within (clean : s.program.WellFormed s.options.checkBindings)
    (sameValue : s.options.externalValue = r.options.externalValue)
    (shared : ∀ i, i < n → s.program.operations[i]? = r.program.operations[i]?)
    (h : r.state? n = some m) :
    ∃ trail, s.state? n = some (m.within s.program s.recording trail) := by
  induction n generalizing m with
  | zero =>
    rw [(state?_zero h).2, state?_start clean, sameValue]
    exact ⟨[], rfl⟩
  | succ n ih =>
    obtain ⟨before, op, after, found, here, change, rfl⟩ := state?_succ h
    obtain ⟨trail, found'⟩ := ih (fun i earlier => shared i (Nat.lt_succ_of_lt earlier)) found
    have here' := (shared n (Nat.lt_succ_self n)).trans here
    exact ⟨_, state?_of_change found' here' (change.within s.program s.recording trail)⟩

/-! ## What is recorded -/

theorem recording_eq (h : r.state? n = some m) : m.recording = r.recording := by
  induction n generalizing m with
  | zero =>
    rw [(state?_zero h).2]
    rfl
  | succ n ih =>
    obtain ⟨before, op, after, found, -, change, rfl⟩ := state?_succ h
    have kept : after.recording = before.recording := by rw [change.frame]
    exact kept.trans (ih found)

/-- The records after one more operation. -/
theorem trail_advance {m' : Machine} {op : Operation} (h : r.state? n = some m)
    (change : m.Change op.action m') : (m'.advance op).trail =
      if r.recording then m.trail ++ [⟨n, op, m'.store.borrowStacks, m'.store.values⟩]
      else m.trail := by
  have recording : m'.recording = r.recording := by rw [change.frame, ← recording_eq h]
  have trail : m'.trail = m.trail := by rw [change.frame]
  have pc : m'.pc = n := by rw [change.frame, ← (reached h).pc]
  simp only [Machine.advance, recording, trail, pc]

/-- Without recording there are no records. -/
theorem trail_eq_nil (off : r.recording = false) (h : r.state? n = some m) : m.trail = [] := by
  induction n generalizing m with
  | zero =>
    rw [(state?_zero h).2]
    rfl
  | succ n ih =>
    obtain ⟨before, op, after, found, -, change, rfl⟩ := state?_succ h
    rw [trail_advance found change, off]
    exact ih found

/-- With recording there is one record for each operation that was carried out, of the memory
    after it. -/
theorem trail_entries (on : r.recording = true) (h : r.state? n = some m) :
    m.trail.length = n ∧ ∀ i entry, m.trail[i]? = some entry → i < n ∧ ∃ op after,
      r.program.operations[i]? = some op ∧ r.state? (i + 1) = some after ∧
        entry = ⟨i, op, after.store.borrowStacks, after.store.values⟩ := by
  induction n generalizing m with
  | zero =>
    rw [(state?_zero h).2]
    exact ⟨rfl, nofun⟩
  | succ n ih =>
    obtain ⟨before, op, after, found, here, change, rfl⟩ := state?_succ h
    obtain ⟨length, entries⟩ := ih found
    rw [trail_advance found change, on, if_pos rfl]
    refine ⟨by rw [List.length_append, length, List.length_singleton], ?_⟩
    intro i entry recorded
    rcases Nat.lt_trichotomy i n with earlier | rfl | later
    · rw [List.getElem?_append_left (by omega)] at recorded
      obtain ⟨-, rest⟩ := entries i entry recorded
      exact ⟨Nat.lt_succ_of_lt earlier, rest⟩
    · rw [← length, List.getElem?_append_right (Nat.le_refl _), Nat.sub_self,
        List.getElem?_cons_zero, Option.some.injEq] at recorded
      rw [length] at recorded
      exact ⟨Nat.lt_succ_self i, op, _, here, h, recorded.symm⟩
    · rw [List.getElem?_eq_none (by simp; omega)] at recorded
      cases recorded

end Run

namespace Program

variable {p : Program} {o : CheckOptions} {n k : Nat} {recorded : Bool} {m : Machine}

/-! ## The run of the first operations -/

theorem state?_of_take (clean : p.WellFormed o.checkBindings) (recording : Bool) (le : k ≤ n)
    (h : (Run.mk (p.take n) o recorded).state? k = some m) :
    ∃ trail, (Run.mk p o recording).state? k = some (m.within p recording trail) := by
  refine Run.state?_within (r := ⟨p.take n, o, recorded⟩) (s := ⟨p, o, recording⟩) clean rfl ?_ h
  intro i earlier
  exact (p.getElem?_take (Nat.lt_of_lt_of_le earlier le)).symm

theorem state?_take (clean : p.WellFormed o.checkBindings) (recording : Bool)
    (h : (Run.mk p o recorded).state? n = some m) :
    ∃ trail, (Run.mk (p.take n) o recording).state? n =
      some (m.within (p.take n) recording trail) := by
  refine Run.state?_within (r := ⟨p, o, recorded⟩) (s := ⟨p.take n, o, recording⟩)
    (clean.take n) rfl ?_ h
  intro i earlier
  exact p.getElem?_take earlier

/-- The first fault of a program's first operations is that of the program. -/
theorem check_of_take_violation (clean : p.WellFormed o.checkBindings) {v : Violation}
    (h : (p.take n).check o = .ok (.violation v)) : p.check o = .ok (.violation v) := by
  rcases check_cases (clean.take n) with ⟨last, done⟩ | ⟨k, m, op, fault, found, here, faults⟩
  · rw [check_of_done done] at h
    cases h
  · rw [check_of_faults found here faults] at h
    cases h
    have short : k < n := by
      have inside := (List.getElem?_eq_some_iff.mp here).1
      exact Nat.lt_of_lt_of_le inside (List.length_take_le n p.operations)
    obtain ⟨trail, found'⟩ := state?_of_take clean false (Nat.le_of_lt short) found
    have here' : p.operations[k]? = some op := (p.getElem?_take short).symm.trans here
    exact check_of_faults found' here' (faults.within p false trail)

/-- Recording changes nothing of what an evaluation ends with but the records. -/
theorem evaluate_recording (clean : p.WellFormed o.checkBindings) :
    ∃ last status fault, (Run.mk p o true).state? last.pc = some last ∧
      p.evaluate o true = .ok { last with status, fault } ∧
      p.evaluate o false = .ok { last with status, fault, recording := false, trail := [] } := by
  have unrecorded : ∀ n m, (Run.mk p o true).state? n = some m →
      (p.run o).state? n = some { m with recording := false, trail := [] } := by
    intro n m found
    obtain ⟨trail, found'⟩ :=
      Run.state?_within (r := ⟨p, o, true⟩) (s := p.run o) clean rfl (fun _ _ => rfl) found
    have off : trail = [] := Run.trail_eq_nil rfl found'
    have same : m.program = p := (Run.reached found).program
    rw [found', off, Machine.within, run, ← same]
  rcases Run.done_or_faults (r := ⟨p, o, true⟩) clean with
    ⟨last, done⟩ | ⟨n, last, op, fault, found, here, faults⟩
  · have pc : last.pc = p.length := (Run.reached done).pc
    have done' := Run.evaluate_of_done (unrecorded _ _ done)
    exact ⟨last, .haltedOk, last.fault, pc ▸ done, Run.evaluate_of_done done, done'⟩
  · have pc : last.pc = n := (Run.reached found).pc
    have faults' := faults.within last.program false []
    have faulted' := Run.evaluate_of_faults (unrecorded _ _ found) here faults'
    exact ⟨last, .haltedUb, _, pc ▸ found, Run.evaluate_of_faults found here faults, faulted'⟩

/-- What a record shows is the memory that the program up to its operation ends with. -/
theorem evaluate_take (clean : p.WellFormed o.checkBindings) (recording : Bool)
    (h : (Run.mk p o recorded).state? n = some m) : ∃ ended,
      (p.take n).evaluate o recording = .ok ended ∧ ended.status = .haltedOk ∧
        ended.store = m.store ∧ ended.pointers = m.pointers ∧ ended.reads = m.reads := by
  obtain ⟨trail, found⟩ := state?_take clean recording h
  have all : (p.take n).length = n := length_take (Run.le_length h)
  have done : (Run.mk (p.take n) o recording).state? (p.take n).length = _ :=
    (congrArg _ all).trans found
  exact ⟨_, Run.evaluate_of_done done, rfl, rfl, rfl, rfl⟩

/-- Whatever a well-formed program starts with is well formed, and either its fault is the first
    one of the program, or the run of the program passes through the memory, the bound pointers
    and the observations that it ends with, and goes on from there. Recording keeps the memory
    after every operation that was carried out, which is what the program up to there ends with,
    and changes nothing else. -/
theorem evaluate_append (p q : Program) (o : CheckOptions)
    (clean : (p ++ q).WellFormed o.checkBindings) :
    p.WellFormed o.checkBindings ∧
    ((∃ v, p.check o = .ok (.violation v) ∧ (p ++ q).check o = .ok (.violation v)) ∨
      ∃ values reads, p.check o = .ok (.sound p.name p.length values reads) ∧
        ∀ recording, ∃ ended passed, p.evaluate o recording = .ok ended ∧
          (Run.mk (p ++ q) o recording).state? p.length = some passed ∧
          passed.store = ended.store ∧ passed.pointers = ended.pointers ∧
          passed.reads = ended.reads ∧ (p ++ q).evaluate o recording =
            (passed.runThrough q.operations).mapError fun e => [e.issue]) ∧
    ∃ m, (p ++ q).evaluate o true = .ok m ∧
      (p ++ q).evaluate o false = .ok { m with recording := false, trail := [] } ∧
      m.trail.length = m.pc ∧
      ∀ i entry, m.trail[i]? = some entry →
        entry.index = i ∧ (p ++ q).operations[i]? = some entry.operation ∧
        ∃ ended, ((p ++ q).take (i + 1)).evaluate o false = .ok ended ∧
          ended.status = .haltedOk ∧ entry.borrowStacks = ended.store.borrowStacks ∧
          entry.values = ended.store.values := by
  have cut : (p ++ q).take p.length = p := take_append p q
  have start : p.WellFormed o.checkBindings := cut ▸ clean.take p.length
  refine ⟨start, ?_, ?_⟩
  · rcases check_cases start with ⟨last, done⟩ | ⟨n, m, op, fault, found, here, faults⟩
    · refine .inr ⟨_, _, check_of_done done, ?_⟩
      intro recording
      have done' : (Run.mk ((p ++ q).take p.length) o false).state? p.length = some last := by
        rw [cut]
        exact done
      obtain ⟨trail, passed⟩ := state?_of_take clean recording (Nat.le_refl _) done'
      obtain ⟨ended, evaluated, -, store, pointers, reads⟩ :=
        evaluate_take clean recording passed
      rw [cut] at evaluated
      have rest : (p ++ q).operations.drop p.length = q.operations := List.drop_left
      have continued := Run.evaluate_of_state? passed
      rw [rest] at continued
      exact ⟨ended, _, evaluated, passed, store.symm, pointers.symm, reads.symm, continued⟩
    · have violated := check_of_faults found here faults
      have violated' : ((p ++ q).take p.length).check o = _ := cut.symm ▸ violated
      exact .inl ⟨_, violated, check_of_take_violation clean violated'⟩
  · obtain ⟨last, status, fault, found, recorded, unrecorded⟩ := evaluate_recording clean
    obtain ⟨length, entries⟩ := Run.trail_entries rfl found
    refine ⟨_, recorded, unrecorded, length, ?_⟩
    intro i entry shown
    obtain ⟨-, op, after, here, reached, rfl⟩ := entries i entry shown
    obtain ⟨ended, evaluated, halted, store, -⟩ := evaluate_take clean false reached
    exact ⟨rfl, here, ended, evaluated, halted, by rw [store], by rw [store]⟩

/-- A read through a unique borrow after a write through the variable's own name. -/
def overwritten : Program := (Run.ofActions [.declare "x" 0 true false, .borrow "x" .unique "m",
  .write "x" 1, .read "m" none]).program

/-- A second variable, borrowed and written. -/
def unrelated : Program := (Run.ofActions [.declare "y" 0 true false, .borrow "y" .unique "n",
  .write "n" 2]).program

theorem evaluate_append_overwritten :
    (∃ v, overwritten.check {} = .ok (.violation v) ∧ v.index = 3 ∧
      (overwritten ++ unrelated).check {} = .ok (.violation v)) ∧
    ∃ ended passed, unrelated.evaluate {} true = .ok ended ∧
      (Run.mk (unrelated ++ overwritten) {} true).state? 3 = some passed ∧
      passed.store = ended.store ∧ passed.store.values = [("y", 2)] := by
  obtain ⟨-, faulted, -⟩ := evaluate_append overwritten unrelated {} rfl
  obtain ⟨-, ended, -⟩ := evaluate_append unrelated overwritten {} rfl
  constructor
  · rcases faulted with ⟨v, violated, violated'⟩ | ⟨values, reads, sound, -⟩
    · cases violated
      exact ⟨_, rfl, rfl, violated'⟩
    · cases sound
  · rcases ended with ⟨v, violated, -⟩ | ⟨values, reads, -, passes⟩
    · cases violated
    · obtain ⟨ended, passed, evaluated, found, store, -⟩ := passes true
      cases evaluated
      exact ⟨_, passed, rfl, found, store, by rw [store]; rfl⟩

end Program

end PointerTrace
