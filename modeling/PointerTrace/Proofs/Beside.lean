import PointerTrace.Proofs.DirectUse
import PointerTrace.Proofs.IdleTag
import PointerTrace.Proofs.Recast

/- A machine and one that has an idle pointer besides. `Machine.Beside` relates two machines of which
   the second is one operation further: it has one more pointer name, which no operation to come uses,
   and an idle tag besides, and its other tags are those of the first under a renaming. What an
   operation does to the first machine it does to the second one, the new tag going to the new tag
   (`Beside.change`), and where it is at fault in the first it is at fault in the second for the same
   cause (`Beside.faults`). A name bound to a pointer without tag, or to a shared frame, puts a machine
   beside itself (`Valid.beside_bind`, `Valid.beside_derived`). -/
namespace PointerTrace

/-- A pointer with its tag renamed, into the same allocation. -/
def Pointer.retag (ρ : Equiv.Perm Tag) (p : Pointer) : Pointer := { p with tag := p.tag.map ρ }

/-- The second allocation is the first one under a renaming of the tags, with an idle tag besides. -/
structure Allocation.Beside (e : Tag) (ρ : Equiv.Perm Tag) (a b : Allocation) : Prop where
  place : b.id = a.id
  idle : b.Idle e
  others : b.without e = a.relabel ρ

/-- Faults of one access, in an allocation and in one with an idle tag besides. -/
def AccessFault.Beside (e : Tag) (ρ : Equiv.Perm Tag) (fault fault' : AccessFault) : Prop :=
  ∃ a b, Allocation.Beside e ρ a b ∧ fault = a.faultOf fault.access fault.cause ∧
    fault' = b.faultOf fault.access (fault.cause.relabel ρ)

/-! ## Allocations -/

namespace Allocation.Beside

variable {e : Tag} {ρ : Equiv.Perm Tag} {a b : Allocation} (h : a.Beside e ρ b)
include h

theorem name : b.name = a.name :=
  show (b.without e).name = (a.relabel ρ).name from congrArg _ h.others

theorem value : b.value = a.value :=
  show (b.without e).value = (a.relabel ρ).value from congrArg _ h.others

theorem interior : b.interiorMutable = a.interiorMutable :=
  show (b.without e).interiorMutable = (a.relabel ρ).interiorMutable from congrArg _ h.others

theorem frames : b.stack.filter (·.tag ≠ e) = a.stack.map (Frame.relabel ρ) :=
  congrArg Allocation.stack h.others

theorem present {f : Frame} (hf : f ∈ a.stack) : f.relabel ρ ∈ b.stack := by
  have kept : f.relabel ρ ∈ b.stack.filter (·.tag ≠ e) := h.frames ▸ List.mem_map_of_mem hf
  exact (List.mem_filter.mp kept).1

/-- A tag of the first allocation does not become the idle one. -/
theorem apart {t : Tag} (ht : t ∈ a.tags) : ρ t ≠ e := by
  have renamed : ρ t ∈ (a.relabel ρ).tags := by
    rw [tags_relabel]
    exact List.mem_map_of_mem ht
  exact mem_tags_without (h.others ▸ renamed)

theorem apart_some {tag : Option Tag} (known : ∀ t, tag = some t → t ∈ a.tags) :
    tag.map ρ ≠ some e := by
  cases tag with
  | none => nofun
  | some t => exact fun same => h.apart (known t rfl) (Option.some.inj same)

/-- The lowest frame has no parent, so that it is not the idle one. -/
theorem rootPointer (hb : b.Valid) : b.rootPointer = a.rootPointer.retag ρ := by
  obtain ⟨root, above, bottom, orphan, -⟩ := hb.rooted
  have own : root.tag ≠ e := fun same => h.idle.derived root (by simp [bottom]) same orphan
  have heads := congrArg List.head? h.frames
  rw [bottom, List.filter_cons_of_pos (by simpa using own), List.head?_cons, List.head?_map] at heads
  simp only [Allocation.rootPointer, Pointer.retag, h.place, bottom, List.head?_cons]
  cases lowest : a.stack.head? with
  | none => simp [lowest] at heads
  | some f =>
    rw [lowest, Option.map_some, Option.some.injEq] at heads
    simp [heads, Frame.relabel]

/-! ## Judging -/

theorem judge_ok (hb : b.Valid) {tag : Option Tag} (known : ∀ t, tag = some t → t ∈ a.tags)
    {access : Access} {grant : Grant} (granted : a.judge tag access = .ok grant) :
    ∃ grant' depth, b.judge (tag.map ρ) access = .ok grant' ∧
      grant'.without e depth = grant.relabel ρ := by
  obtain ⟨depth, judged⟩ := h.idle.judge_without hb.descending (h.apart_some known) access
  rw [h.others, judge_relabel, granted] at judged
  cases other : b.judge (tag.map ρ) access with
  | ok grant' =>
    rw [other] at judged
    exact ⟨grant', depth, rfl, (Except.ok.inj judged).symm⟩
  | error fault =>
    rw [other] at judged
    cases judged

theorem judge_error (hb : b.Valid) {tag : Option Tag} (known : ∀ t, tag = some t → t ∈ a.tags)
    {access : Access} {fault : AccessFault} (refused : a.judge tag access = .error fault) :
    b.judge (tag.map ρ) access = .error (b.faultOf access (fault.cause.relabel ρ)) := by
  obtain ⟨depth, judged⟩ := h.idle.judge_without hb.descending (h.apart_some known) access
  rw [h.others, judge_relabel, refused] at judged
  cases other : b.judge (tag.map ρ) access with
  | ok grant =>
    rw [other] at judged
    cases judged
  | error fault' =>
    rw [other] at judged
    obtain ⟨cause, -, rfl⟩ := judge_refusal other
    have same := congrArg AccessFault.cause (Except.error.inj judged)
    exact congrArg (fun c => Except.error (b.faultOf access c)) same.symm

theorem parentFault? {tag : Option Tag} (known : ∀ t, tag = some t → t ∈ a.tags)
    {access : Access} {fault : AccessFault} (refused : a.parentFault? tag access = some fault) :
    b.parentFault? (tag.map ρ) access = some (b.faultOf access (fault.cause.relabel ρ)) := by
  have judged := parentFault?_without (a := b) (h.apart_some known) access
  rw [h.others, parentFault?_relabel, refused] at judged
  obtain ⟨fault', other, same⟩ := Option.map_eq_some_iff.mp judged.symm
  obtain ⟨t, -, rfl | rfl⟩ := parentFault_cases other <;>
    exact other.trans (congrArg (fun c => some (b.faultOf access c))
      (congrArg AccessFault.cause same))

/-! ## Changes -/

theorem apply {grant grant' : Grant} {depth : Nat}
    (same : grant'.without e depth = grant.relabel ρ) :
    (a.apply grant).Beside e ρ (b.apply grant') where
  place := h.place
  idle := h.idle.apply grant'
  others := by rw [← apply_without b e grant' depth, same, h.others, apply_relabel]

theorem withValue (value : Int) : Allocation.Beside e ρ { a with value } { b with value } where
  place := h.place
  idle := ⟨h.idle.shared, h.idle.derived, h.idle.childless⟩
  others := congrArg (fun c : Allocation => { c with value }) h.others

theorem push {f : Frame} (own : (f.relabel ρ).tag ≠ e) (parent : (f.relabel ρ).parent ≠ some e) :
    (a.push f).Beside e ρ (b.push (f.relabel ρ)) where
  place := h.place
  idle := h.idle.push parent fun same => absurd same own
  others := by rw [push_without own, h.others, push_relabel]

/-- A frame of the idle tag may be pushed. -/
theorem push_idle {f : Frame} (own : f.tag = e) (shared : f.permission ≠ .unique)
    (derived : f.parent ≠ none) (parent : f.parent ≠ some e) : a.Beside e ρ (b.push f) where
  place := h.place
  idle := h.idle.push parent fun _ => ⟨shared, derived⟩
  others := by rw [← own, push_without_self, own, h.others]

end Allocation.Beside

theorem Allocation.relabel_refl (a : Allocation) :
    a.relabel (Equiv.refl Tag) = { a with id := 0 } := by
  have frames : a.stack.map (Frame.relabel (Equiv.refl Tag)) = a.stack :=
    List.map_id'' (fun f => by simp [Frame.relabel]) a.stack
  have entries : a.lineage.map (Prod.map (Equiv.refl Tag) (Option.map (Equiv.refl Tag))) =
      a.lineage := List.map_id'' (fun x => by simp) a.lineage
  rw [relabel, frames, entries]

/-- An allocation that never had a tag stands beside itself, when its own tags keep their names. -/
theorem Allocation.Valid.beside {a : Allocation} {e : Tag} {ρ : Equiv.Perm Tag} (ha : a.Valid)
    (distinct : a.tags.Nodup) (absent : e ∉ a.tags) (same : ∀ t ∈ a.tags, ρ t = t) :
    a.Beside e ρ a where
  place := rfl
  idle := ha.idle_of_not_mem absent
  others := by
    rw [ha.without_eq absent, ha.relabel_congr (σ := Equiv.refl Tag) distinct same, relabel_refl]

/-! ## Machines -/

/-- An observation of a program when one more operation stands at an index. -/
def Observation.shift (k : Nat) (o : Observation) : Observation :=
  { o with index := if k ≤ o.index then o.index + 1 else o.index }

namespace Machine

/-- The second machine is the first one after one more operation, at an index that has been passed,
    which bound a name and pushed an idle tag. -/
structure Beside (n : String) (k : Nat) (e : Tag) (ρ : Equiv.Perm Tag) (m m' : Machine) : Prop where
  allocations : List.Forall₂ (Allocation.Beside e ρ) m.store.allocations m'.store.allocations
  pointers : m'.pointers.filter (·.1 ≠ n) = m.pointers.map (Prod.map id (Pointer.retag ρ))
  reads : m'.reads = m.reads.map (Observation.shift k)
  /-- The tags to come correspond. -/
  supply : ∀ i : Nat, ρ ⟨m.store.nextTag + i⟩ = ⟨m'.store.nextTag + i⟩
  older : e.serial < m'.store.nextTag
  externalValue : m'.externalValue = m.externalValue
  pc : m'.pc = m.pc + 1
  passed : k ≤ m.pc

namespace Beside

variable {n : String} {k : Nat} {e : Tag} {ρ : Equiv.Perm Tag} {m m' after : Machine} {act : Action}
  (h : m.Beside n k e ρ m')
include h

/-! ## What names stand for -/

theorem get? {id : AllocationId} {a : Allocation} (found : m.store.get? id = some a) :
    ∃ b, m'.store.get? id = some b ∧ a.Beside e ρ b := by
  obtain ⟨i, rfl, here⟩ := Store.get?_eq_some.mp found
  obtain ⟨b, here', beside⟩ := forall₂_getElem? h.allocations here
  exact ⟨b, Store.get?_eq_some.mpr ⟨i, rfl, here'⟩, beside⟩

theorem variable_root (hm : m.Valid) (hm' : m'.Valid) {x : String} {p : Pointer}
    (resolved : (m.store.lookup x >>= m.store.rootPointer) = .ok p) :
    (m'.store.lookup x >>= m'.store.rootPointer) = .ok (p.retag ρ) := by
  obtain ⟨a, named, -, rfl⟩ := (Store.lookup_rootPointer hm.store).mp resolved
  obtain ⟨b, named', beside⟩ := forall₂_find? (w := (·.name = x)) h.allocations
    (fun _ _ beside => by rw [beside.name]) named
  have placed := hm'.store.get?_of_named named'
  have root := beside.rootPointer (hm'.store.get? placed).1
  exact (Store.lookup_rootPointer hm'.store).mpr ⟨b, named', placed, root.symm⟩

/-- A name other than the additional one stands for the same pointer. -/
theorem resolve (hm : m.Valid) (hm' : m'.Valid) {x : String} {p : Pointer} (other : x ≠ n)
    (resolved : m.resolve x = .ok p) : m'.resolve x = .ok (p.retag ρ) := by
  have kept := lookup_filter (fun y => decide (y ≠ n)) m'.pointers x
  have mapped := lookup_map id (Pointer.retag ρ) m.pointers x fun _ _ same => same
  rw [if_pos (decide_eq_true other), h.pointers] at kept
  have bound : m'.pointers.lookup x = (m.pointers.lookup x).map (Pointer.retag ρ) :=
    kept.symm.trans mapped
  unfold Machine.resolve at resolved ⊢
  rw [bound]
  cases found : m.pointers.lookup x with
  | some q =>
    simp only [found, Except.ok.injEq] at resolved
    simp [resolved]
  | none =>
    rw [found] at resolved
    exact h.variable_root hm hm' resolved

theorem derives (hm : m.Valid) (hm' : m'.Valid) (unused : act.operand? ≠ some n)
    {kind : BorrowKind} {result : String} {p : Pointer} (derives : m.Derives act kind result p) :
    m'.Derives act kind result (p.retag ρ) := by
  cases derives with
  | borrow resolved => exact .borrow (h.variable_root hm hm' resolved)
  | reborrow resolved =>
    exact .reborrow (h.resolve hm hm' (fun same => unused (congrArg some same)) resolved)

theorem accesses (hm : m.Valid) (hm' : m'.Valid) (unused : act.operand? ≠ some n)
    {access : Access} {p : Pointer} (accesses : m.Accesses act access p) :
    m'.Accesses act access (p.retag ρ) := by
  obtain ⟨source, through, resolved⟩ := accesses
  have operand := Action.operand_of_access through
  exact ⟨source, through,
    h.resolve hm hm' (fun same => unused (operand.trans (congrArg some same))) resolved⟩

theorem writes (hm : m.Valid) (hm' : m'.Valid) (unused : act.operand? ≠ some n) {p : Pointer}
    {value : Int} (writes : m.Writes act p value) : m'.Writes act (p.retag ρ) value := by
  cases writes with
  | write resolved =>
    exact .write (h.resolve hm hm' (fun same => unused (congrArg some same)) resolved)
  | call resolved =>
    rw [← h.externalValue]
    exact .call (h.resolve hm hm' (fun same => unused (congrArg some same)) resolved)

/-! ## Steps -/

/-- An operation at fault is at fault in the other machine too, for the same cause. -/
theorem faults (hm : m.Valid) (hm' : m'.Valid) (unused : act.operand? ≠ some n)
    {fault : AccessFault} (faults : m.Faults act fault) :
    ∃ fault', m'.Faults act fault' ∧ fault.Beside e ρ fault' := by
  cases faults with
  | @derive kind result p a _ derives found refused =>
    obtain ⟨b, found', beside⟩ := h.get? found
    have known := (derives.known hm).recorded found
    have quoted : fault = a.faultOf .read fault.cause := by
      obtain ⟨t, -, rfl | rfl⟩ := Allocation.parentFault_cases refused <;> rfl
    have access : fault.access = .read := congrArg AccessFault.access quoted
    exact ⟨_, .derive (h.derives hm hm' unused derives) found' (beside.parentFault? known refused),
      a, b, beside, by rw [access]; exact quoted, by rw [access]⟩
  | @access access p a _ accesses found refused =>
    obtain ⟨b, found', beside⟩ := h.get? found
    obtain ⟨source, through, resolved⟩ := id accesses
    have known := (hm.resolve resolved).recorded found
    have valid := (hm'.store.get? found').1
    obtain ⟨cause, -, rfl⟩ := Allocation.judge_refusal refused
    exact ⟨_, .access (h.accesses hm hm' unused accesses) found'
      (beside.judge_error valid known refused), a, b, beside, rfl, rfl⟩

theorem pointers_append {result : String} (other : result ≠ n) (p : Pointer) :
    (m'.pointers ++ [(result, p.retag ρ)]).filter (·.1 ≠ n) =
      (m.pointers ++ [(result, p)]).map (Prod.map id (Pointer.retag ρ)) := by
  rw [List.filter_append, h.pointers, List.map_append, List.filter_cons_of_pos (by simpa using other)]
  rfl

/-- The next tag of one machine becomes the next tag of the other. -/
theorem supply_zero : ρ ⟨m.store.nextTag⟩ = ⟨m'.store.nextTag⟩ := by
  simpa using h.supply 0

/-- The tags to come still correspond when both machines have issued one. -/
theorem supply_next (i : Nat) :
    ρ ⟨m.store.nextTag + 1 + i⟩ = ⟨m'.store.nextTag + 1 + i⟩ := by
  have later := h.supply (i + 1)
  have step : ∀ n : Int, n + ((i + 1 : Nat) : Int) = n + 1 + i := fun n => by omega
  rwa [step, step] at later

/-- A change of one machine is a change of the other, and the second stays beside the first. -/
theorem change (hm : m.Valid) (hm' : m'.Valid) (unused : act.operand? ≠ some n)
    (unbound : act.result? ≠ some n) (ready : m'.Ready act) (change : m.Change act after) :
    ∃ after', m'.Change act after' ∧ after.Beside n k e ρ after' := by
  have older : e.serial < m'.store.nextTag + 1 := Int.lt_add_one_of_le (Int.le_of_lt h.older)
  cases change with
  | @declare name value isMutable interiorMutable id store declared =>
    obtain ⟨-, -, rfl⟩ := Store.declare_eq_ok.mp declared
    have place : m'.store.allocations.length = m.store.allocations.length :=
      h.allocations.length_eq.symm
    have fresh : e ∉ (m'.store.declared name value isMutable interiorMutable).tags := by
      intro inside
      have own : e = ⟨m'.store.nextTag⟩ := by
        simpa [Store.declared, Allocation.push, Allocation.tags, recordParent] using inside
      have younger := h.older
      simp [own] at younger
    have valid : (m'.store.declared name value isMutable interiorMutable).Valid :=
      Allocation.valid_declared ..
    have beside : (m.store.declared name value isMutable interiorMutable).Beside e ρ
        (m'.store.declared name value isMutable interiorMutable) := by
      refine ⟨congrArg Nat.cast place, valid.idle_of_not_mem fresh, ?_⟩
      rw [valid.without_eq fresh]
      simp [Store.declared, Allocation.push, Allocation.relabel, Frame.relabel, recordParent,
        h.supply_zero]
    exact ⟨_, .declare (Store.declare_eq_ok.mpr ⟨ready, rfl, rfl⟩),
      List.rel_append h.allocations (.cons beside .nil), h.pointers, h.reads, h.supply_next, older,
      h.externalValue, h.pc, h.passed⟩
  | @derive _ kind result p a f derives found present tagged enabled =>
    obtain ⟨b, found', beside⟩ := h.get? found
    have other : result ≠ n := fun same => unbound (derives.result.trans (congrArg some same))
    have tagged' : (p.retag ρ).tag = some (f.relabel ρ).tag := by
      simp [Pointer.retag, tagged, Frame.relabel]
    have change := Change.derive (h.derives hm hm' unused derives) found' (beside.present present)
      tagged' enabled
    let new : Frame := ⟨⟨m.store.nextTag⟩, f.permission.derive kind a.interiorMutable, some f.tag⟩
    have renamed : (new.relabel ρ) = ⟨⟨m'.store.nextTag⟩,
        (f.relabel ρ).permission.derive kind b.interiorMutable, some (f.relabel ρ).tag⟩ := by
      rw [beside.interior, ← h.supply_zero]
      rfl
    have own : (new.relabel ρ).tag ≠ e := by
      rw [renamed]
      rintro rfl
      exact absurd h.older (Int.lt_irrefl _)
    have parent : (new.relabel ρ).parent ≠ some e := fun same =>
      beside.apart ((hm.store.get? found).1.tag_mem present) (Option.some.inj same)
    refine ⟨_, change, ?_, ?_, h.reads, h.supply_next, older, h.externalValue, h.pc, h.passed⟩
    · refine forall₂_modify h.allocations p.target.toNat fun c d side => ?_
      have pushed := side.push own parent
      rw [renamed] at pushed
      exact pushed
    · have longer := h.pointers_append other ⟨p.target, some ⟨m.store.nextTag⟩⟩
      rw [Pointer.retag, Option.map_some, h.supply_zero] at longer
      exact longer
  | @untagged _ kind result p derives noTag =>
    have other : result ≠ n := fun same => unbound (derives.result.trans (congrArg some same))
    have noTag' : (p.retag ρ).tag = none := by simp [Pointer.retag, noTag]
    exact ⟨_, .untagged (h.derives hm hm' unused derives) noTag', h.allocations,
      h.pointers_append other ⟨p.target, none⟩, h.reads, h.supply, h.older, h.externalValue, h.pc,
      h.passed⟩
  | @toInteger source result p resolved =>
    have other : result ≠ n := fun same => unbound (congrArg some same)
    have resolved' := h.resolve hm hm' (fun same => unused (congrArg some same)) resolved
    exact ⟨_, .toInteger resolved', h.allocations, h.pointers_append other ⟨p.target, none⟩, h.reads,
      h.supply, h.older, h.externalValue, h.pc, h.passed⟩
  | @read source binding p a t grant resolved found tagged granted =>
    obtain ⟨b, found', beside⟩ := h.get? found
    have known := (hm.resolve resolved).recorded found
    have resolved' := h.resolve hm hm' (fun same => unused (congrArg some same)) resolved
    have valid := (hm'.store.get? found').1
    obtain ⟨grant', depth, granted', same⟩ :=
      beside.judge_ok valid (tagged ▸ known) granted
    have tagged' : (p.retag ρ).tag = some (ρ t) := by simp [Pointer.retag, tagged]
    refine ⟨_, .read resolved' found' tagged' granted', ?_, h.pointers, ?_, h.supply, h.older,
      h.externalValue, h.pc, h.passed⟩
    · exact forall₂_modify h.allocations p.target.toNat fun c d side => side.apply same
    · show m'.reads ++ [_] = (m.reads ++ [_]).map _
      rw [List.map_append, h.reads, beside.name, beside.value, h.pc]
      simp [Observation.shift, h.passed]
  | @write _ p value a t grant writes found tagged granted =>
    obtain ⟨b, found', beside⟩ := h.get? found
    obtain ⟨source, -, resolved⟩ := writes.accesses
    have known := (hm.resolve resolved).recorded found
    have valid := (hm'.store.get? found').1
    obtain ⟨grant', depth, granted', same⟩ :=
      beside.judge_ok valid (tagged ▸ known) granted
    have tagged' : (p.retag ρ).tag = some (ρ t) := by simp [Pointer.retag, tagged]
    exact ⟨_, .write (h.writes hm hm' unused writes) found' tagged' granted',
      forall₂_modify h.allocations p.target.toNat fun c d side => (side.apply same).withValue value,
      h.pointers, h.reads, h.supply, h.older, h.externalValue, h.pc, h.passed⟩

end Beside

end Machine

/-! ## The additional pointer -/

/-- The renaming that leaves out one tag: those before it stay, the others become the next. Tags
    that are never issued make room. -/
def Tag.skip (next : Int) (nonneg : 0 ≤ next) : Equiv.Perm Tag where
  toFun t := ⟨if next ≤ t.serial then t.serial + 1 else if 0 ≤ t.serial then t.serial
    else if t.serial = -1 then next else t.serial + 1⟩
  invFun t := ⟨if next < t.serial then t.serial - 1 else if t.serial = next then -1
    else if 0 ≤ t.serial then t.serial else t.serial - 1⟩
  left_inv t := by
    obtain ⟨serial⟩ := t
    simp only [Tag.mk.injEq]
    split_ifs <;> omega
  right_inv t := by
    obtain ⟨serial⟩ := t
    simp only [Tag.mk.injEq]
    split_ifs <;> omega

namespace Machine

variable {m after : Machine} {n : String} {e : Tag} {ρ : Equiv.Perm Tag}

/-- Allocations without a tag stand beside themselves. -/
theorem Valid.beside_allocations (hm : m.Valid) (absent : e ∉ m.store.allTags)
    (same : ∀ t ∈ m.store.allTags, ρ t = t) :
    List.Forall₂ (Allocation.Beside e ρ) m.store.allocations m.store.allocations := by
  refine List.forall₂_same.mpr fun a ha => ?_
  have issued : ∀ t ∈ a.tags, t ∈ m.store.allTags :=
    fun t ht => Store.mem_allTags.mpr ⟨a, ha, ht⟩
  have distinct : a.tags.Nodup := (List.nodup_flatMap.mp hm.store.distinct).1 a ha
  exact (hm.store.allocations a ha).beside distinct (fun inside => absent (issued e inside))
    fun t ht => same t (issued t ht)

/-- One more pointer name is left out again. -/
theorem Valid.beside_pointers (hm : m.Valid) (same : ∀ t ∈ m.store.allTags, ρ t = t)
    (unbound : ∀ x ∈ m.pointers, x.1 ≠ n) (p : Pointer) :
    (m.pointers ++ [(n, p)]).filter (·.1 ≠ n) = m.pointers.map (Prod.map id (Pointer.retag ρ)) := by
  have kept : m.pointers.filter (·.1 ≠ n) = m.pointers :=
    List.filter_eq_self.mpr fun x hx => decide_eq_true (unbound x hx)
  have renamed : m.pointers.map (Prod.map id (Pointer.retag ρ)) = m.pointers := by
    refine (List.map_congr_left fun x hx => ?_).trans (List.map_id _)
    obtain ⟨a, found, recorded⟩ := hm.pointers x hx
    have tags : x.2.tag.map ρ = x.2.tag := by
      cases tag : x.2.tag with
      | none => rfl
      | some t =>
        have issued := Store.mem_allTags.mpr ⟨a, Store.mem_of_get? found, recorded t tag⟩
        exact congrArg some (same t issued)
    simp only [Prod.map, Pointer.retag, tags, id]
  rw [List.filter_append, kept, renamed, List.filter_cons_of_neg (by simp), List.filter_nil,
    List.append_nil]

/-- What was seen before an operation is inserted is seen at the same index. -/
theorem reads_shift {l : List Observation} {k : Nat} (past : ∀ o ∈ l, o.index < k) :
    l = l.map (Observation.shift k) := by
  refine ((List.map_congr_left fun o ho => ?_).trans (List.map_id _)).symm
  have before := past o ho
  rw [Observation.shift, if_neg (by omega)]
  rfl

/-- A name bound to a pointer without tag. -/
theorem Valid.beside_bind (hm : m.Valid) (unbound : ∀ x ∈ m.pointers, x.1 ≠ n)
    (past : ∀ o ∈ m.reads, o.index < m.pc) (target : AllocationId) (op : Operation) :
    m.Beside n m.pc ⟨-1⟩ (Equiv.refl Tag) ((m.bind n ⟨target, none⟩).advance op) where
  allocations := hm.beside_allocations
    (fun issued => absurd ((hm.store.issued _).mp issued).1 (by simp)) fun _ _ => rfl
  pointers := hm.beside_pointers (fun _ _ => rfl) unbound _
  reads := reads_shift past
  supply := fun _ => rfl
  older := by
    have := hm.store.nonneg
    show -1 < m.store.nextTag
    omega
  externalValue := rfl
  pc := rfl
  passed := Nat.le_refl _

/-- A shared frame pushed for a new name. -/
theorem Valid.beside_derived (hm : m.Valid) (unbound : ∀ x ∈ m.pointers, x.1 ≠ n)
    (past : ∀ o ∈ m.reads, o.index < m.pc) {target : AllocationId} {a : Allocation}
    (found : m.store.get? target = some a) {f : Frame} (present : f ∈ a.stack)
    {permission : Permission} (shared : permission ≠ .unique) (op : Operation) :
    m.Beside n m.pc ⟨m.store.nextTag⟩ (Tag.skip m.store.nextTag hm.store.nonneg)
      ((m.derived target f permission n).advance op) := by
  have nonneg := hm.store.nonneg
  have same : ∀ t ∈ m.store.allTags, Tag.skip m.store.nextTag nonneg t = t := by
    intro t issued
    obtain ⟨low, high⟩ := (hm.store.issued t).mp issued
    simp [Tag.skip, Int.not_le.mpr high, low]
  have absent : ⟨m.store.nextTag⟩ ∉ m.store.allTags := fun issued =>
    absurd ((hm.store.issued _).mp issued).2 (Int.lt_irrefl _)
  have parent : some f.tag ≠ some ⟨m.store.nextTag⟩ := by
    intro next
    have recorded := (hm.store.get? found).1.tag_mem present
    rw [Option.some.injEq] at next
    exact absent (next ▸ Store.mem_allTags.mpr ⟨a, Store.mem_of_get? found, recorded⟩)
  refine ⟨?_, hm.beside_pointers same unbound _, reads_shift past, ?_, ?_, rfl, rfl, Nat.le_refl _⟩
  · have pushed := forall₂_modify (hm.beside_allocations absent same) target.toNat
      (f := fun c => c) (g := fun c => c.push ⟨⟨m.store.nextTag⟩, permission, some f.tag⟩)
      fun c d side => side.push_idle rfl shared nofun parent
    rw [show (fun c : Allocation => c) = id from rfl, List.modify_id] at pushed
    exact pushed
  · intro i
    show Tag.skip m.store.nextTag nonneg ⟨m.store.nextTag + i⟩ = ⟨m.store.nextTag + 1 + i⟩
    simp only [Tag.skip, Equiv.coe_fn_mk, Tag.mk.injEq]
    rw [if_pos (by omega)]
    omega
  · exact Int.lt_add_one_iff.mpr (Int.le_refl _)

end Machine

end PointerTrace
