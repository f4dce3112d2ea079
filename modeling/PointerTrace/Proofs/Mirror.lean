import Mathlib.Logic.Equiv.Basic
import PointerTrace.Proofs.Projection
import PointerTrace.Proofs.Refusal
import PointerTrace.Proofs.Relabel

/- A machine and its part for one variable. `Mirrors` relates a machine to one that carries out the
   operations about the variable alone: the second has the allocation of the variable, up to the
   names of tags, the pointers that go back to it and the values that were read from it. What an
   operation about the variable does to the first machine it does to the second one, with a renaming
   that also takes the new tag to the new tag (`Mirrors.change_own`), and where it is at fault there,
   it is at fault here by the same rule (`Mirrors.faults`). All other operations leave the relation as
   it is (`Mirrors.change_other`). -/
namespace PointerTrace

/-! ## Renaming a new tag -/

/-- The renaming that also takes one tag to another. -/
def freshen (ρ : Equiv.Perm Tag) (t t' : Tag) : Equiv.Perm Tag := ρ.trans (Equiv.swap (ρ t) t')

theorem freshen_self (ρ : Equiv.Perm Tag) (t t' : Tag) : freshen ρ t t' t = t' := by
  simp [freshen]

theorem freshen_of_ne {ρ : Equiv.Perm Tag} {t t' u : Tag} (old : u ≠ t) (image : ρ u ≠ t') :
    freshen ρ t t' u = ρ u := by
  have apart : ρ u ≠ ρ t := fun same => old (ρ.injective same)
  simp [freshen, Equiv.swap_apply_of_ne_of_ne apart image]

/-! ## Stores -/

namespace Store

variable {s : Store} {name : String}

theorem Valid.tags_nodup (hs : s.Valid) {a : Allocation} (ha : a ∈ s.allocations) :
    a.tags.Nodup :=
  (List.nodup_flatMap.mp hs.distinct).1 a ha

/-- Where names are distinct, what follows from a variable stands in the variable's allocation. -/
theorem Follows.named (distinct : s.names.Nodup) {d : Derivation} {p : Pointer}
    (h : s.Follows d p) :
    ∃ a, s.get? p.target = some a ∧ s.named? d.origin = some a ∧ a.Leads d.links p.tag := by
  obtain ⟨a, found, same, leads⟩ := h
  exact ⟨a, found, same ▸ named?_of_get? distinct found, leads⟩

/-- What a name stands for is not changed with the allocation of another name. -/
theorem Valid.named?_modify_other (hs : s.Valid) {id : AllocationId} {b : Allocation}
    (found : s.get? id = some b) (other : b.name ≠ name) {f : Allocation → Allocation}
    (kept : ∀ a, (f a).name = a.name) {store : Store}
    (same : store.allocations = (s.modify id f).allocations) :
    store.named? name = s.named? name := by
  rw [hs.named?_modify found kept same]
  cases named : s.named? name with
  | none => rfl
  | some a =>
    have apart : a.id ≠ id := by
      intro here
      have placed := hs.get?_of_named named
      rw [here, found, Option.some.injEq] at placed
      exact other (placed ▸ name_of_named? named)
    rw [Option.map_some, if_neg apart]

theorem Valid.named?_modify_self (hs : s.Valid) {a : Allocation} (named : s.named? name = some a)
    {id : AllocationId} (found : s.get? id = some a) {f : Allocation → Allocation}
    (kept : ∀ a, (f a).name = a.name) {store : Store}
    (same : store.allocations = (s.modify id f).allocations) :
    store.named? name = some (f a) := by
  rw [hs.named?_modify found kept same, named, Option.map_some, if_pos (hs.get? found).2]

end Store

namespace Machine

/-! ## What operations are about -/

section About

variable {m : Machine} {of : String → Derivation} {act : Action} {p : Pointer} {a : Allocation}

/-- A pointer is derived in the allocation of the operation's subject. -/
theorem Derives.about {kind : BorrowKind} {result : String} (derives : m.Derives act kind result p)
    (traced : m.Traced of) (hm : m.Valid) (found : m.store.get? p.target = some a) :
    a.name = act.subject of := by
  obtain ⟨d, follows, derived⟩ := derives.follows traced hm
  have origin : (d.extend (some kind)).origin = act.subject of := Action.derived?_origin derived
  exact (follows.at found).1.trans origin

/-- Memory is accessed in the allocation of the operation's subject. -/
theorem Accesses.about {access : Access} (accesses : m.Accesses act access p)
    (traced : m.Traced of) (hm : m.Valid) (found : m.store.get? p.target = some a) :
    a.name = act.subject of := by
  obtain ⟨source, through, resolved⟩ := accesses
  exact ((traced.resolve hm resolved).at found).1.trans
    (Action.origin_of_operand (Action.operand_of_access through))

end About

/-- One more pointer name among those that go back to a variable. -/
theorem pointers_append {of : String → Derivation} {name x : String} {act : Action}
    {ρ : Equiv.Perm Tag} {l k : List (String × Pointer)}
    (old : k = (l.filter fun e => (of e.1).origin = name).map (Prod.map id (Pointer.relabel ρ)))
    (fits : ∀ x d, act.derived? of = some (x, d) → of x = d) (own : act.subject of = name)
    (result : act.result? = some x) (p : Pointer) :
    k ++ [(x, p.relabel ρ)] = ((l ++ [(x, p)]).filter fun e => (of e.1).origin = name).map
      (Prod.map id (Pointer.relabel ρ)) := by
  have origin : (of x).origin = name := (Action.origin_of_fits result fits).trans own
  simp [old, origin]

/-- The machine is the part of another one for a variable, up to the names of tags. -/
structure Mirrors (m' m : Machine) (of : String → Derivation) (name : String)
    (ρ : Equiv.Perm Tag) : Prop where
  allocations : m'.store.allocations = ((m.store.named? name).map (Allocation.relabel ρ)).toList
  pointers : m'.pointers = (m.pointers.filter fun e => (of e.1).origin = name).map
    (Prod.map id (Pointer.relabel ρ))
  reads : m'.reads.map Observation.value =
    (m.reads.filter fun o => o.allocation = name).map Observation.value
  externalValue : m'.externalValue = m.externalValue

namespace Mirrors

variable {m m' m₁ : Machine} {of : String → Derivation} {name : String} {ρ : Equiv.Perm Tag}
  {act : Action} {a : Allocation} (h : m'.Mirrors m of name ρ)
include h

/-! ## What names stand for -/

theorem get?_zero (named : m.store.named? name = some a) :
    m'.store.get? 0 = some (a.relabel ρ) := by
  refine Store.get?_eq_some.mpr ⟨0, rfl, ?_⟩
  rw [h.allocations, named]
  rfl

theorem named (named : m.store.named? name = some a) :
    m'.store.named? name = some (a.relabel ρ) := by
  have same : (a.relabel ρ).name = name := show a.name = name from Store.name_of_named? named
  unfold Store.named?
  rw [h.allocations, named]
  simp [same]

theorem rootPointer (hm' : m'.Valid) (named : m.store.named? name = some a) :
    (m'.store.lookup name >>= m'.store.rootPointer) = .ok (a.rootPointer.relabel ρ) := by
  have placed : m'.store.get? (a.relabel ρ).id = some (a.relabel ρ) := h.get?_zero named
  exact (Store.lookup_rootPointer hm'.store).mpr
    ⟨_, h.named named, placed, (a.rootPointer_relabel ρ).symm⟩

theorem lookup {source : String} (origin : (of source).origin = name) :
    m'.pointers.lookup source = (m.pointers.lookup source).map (Pointer.relabel ρ) := by
  have kept := lookup_filter (fun x => decide ((of x).origin = name)) m.pointers source
  rw [if_pos (by simpa using origin)] at kept
  have mapped := lookup_map id (Pointer.relabel ρ)
    (m.pointers.filter fun e => (of e.1).origin = name) source fun _ _ same => same
  rw [h.pointers, ← kept]
  exact mapped

/-- A name that goes back to the variable stands for the same pointer. -/
theorem resolve (hm : m.Valid) (hm' : m'.Valid) (traced : m.Traced of) {source : String}
    {p : Pointer} (origin : (of source).origin = name) (resolved : m.resolve source = .ok p) :
    m'.resolve source = .ok (p.relabel ρ) := by
  unfold Machine.resolve at resolved ⊢
  rw [h.lookup origin]
  cases bound : m.pointers.lookup source with
  | some q =>
    simp only [bound, Except.ok.injEq] at resolved
    simp [resolved]
  | none =>
    simp only [bound] at resolved
    -- a name without pointer is a variable's own, and then it is the variable itself
    obtain ⟨a, named, -, rfl⟩ := (Store.lookup_rootPointer hm.store).mp resolved
    have has : m.store.has source = true := by rw [Store.has, named]; rfl
    rw [traced.declared source has] at origin
    have same : source = name := origin
    subst same
    exact h.rootPointer hm' named

/-- The renaming may be changed where it does not reach the variable's allocation. -/
theorem pointers_congr (hm : m.Valid) (traced : m.Traced of) (distinct : m.store.names.Nodup)
    {σ : Equiv.Perm Tag} (same : ∀ a, m.store.named? name = some a → ∀ t ∈ a.tags, σ t = ρ t) :
    m'.pointers = (m.pointers.filter fun e => (of e.1).origin = name).map
      (Prod.map id (Pointer.relabel σ)) := by
  rw [h.pointers]
  apply List.map_congr_left
  intro e he
  obtain ⟨inside, origin⟩ := List.mem_filter.mp he
  obtain ⟨a, found, named, -⟩ := (traced.pointers e inside).named distinct
  obtain ⟨b, found', recorded⟩ := hm.pointers e inside
  rw [found, Option.some.injEq] at found'
  subst found'
  rw [decide_eq_true_eq] at origin
  rw [origin] at named
  have tags : e.2.tag.map ρ = e.2.tag.map σ := by
    cases tag : e.2.tag with
    | none => rfl
    | some t => exact congrArg some (same a named t (recorded t tag)).symm
  simp only [Prod.map, Pointer.relabel, tags]

/-! ## Operations about other variables -/

/-- An operation about another variable leaves the relation as it is. -/
theorem change_other (hm : m.Valid) (traced : m.Traced of)
    (fits : ∀ x d, act.derived? of = some (x, d) → of x = d) (other : act.subject of ≠ name)
    (change : m.Change act m₁) : m'.Mirrors m₁ of name ρ := by
  have dropped : ∀ (x : String) (p : Pointer), act.result? = some x →
      (m.pointers ++ [(x, p)]).filter (fun e => (of e.1).origin = name) =
        m.pointers.filter fun e => (of e.1).origin = name := by
    intro x p result
    have origin : (of x).origin ≠ name := Action.origin_of_fits result fits ▸ other
    simp [origin]
  cases change with
  | @declare x value isMutable interiorMutable id store declared =>
    have apart : name ≠ x := Ne.symm other
    have same := Store.named?_declare declared name
    rw [if_neg apart] at same
    exact ⟨same ▸ h.allocations, h.pointers, h.reads, h.externalValue⟩
  | @derive _ kind result p a f derives found present tagged enabled =>
    have apart : a.name ≠ name := derives.about traced hm found ▸ other
    have same : (m.derived p.target f (f.permission.derive kind a.interiorMutable)
        result).store.named? name = m.store.named? name :=
      hm.store.named?_modify_other found apart (f := fun b => b.push _) (fun _ => rfl) rfl
    exact ⟨same ▸ h.allocations,
      h.pointers.trans (congrArg _ (dropped result _ derives.result).symm), h.reads, h.externalValue⟩
  | @untagged _ kind result p derives noTag =>
    exact ⟨h.allocations, h.pointers.trans (congrArg _ (dropped result _ derives.result).symm),
      h.reads, h.externalValue⟩
  | @toInteger source result p resolved =>
    exact ⟨h.allocations, h.pointers.trans (congrArg _ (dropped result _ rfl).symm), h.reads,
      h.externalValue⟩
  | @read source binding p a t grant resolved found tagged granted =>
    have accesses : m.Accesses (.read source binding) .read p := ⟨source, rfl, resolved⟩
    have apart : a.name ≠ name := accesses.about traced hm found ▸ other
    have same := hm.store.named?_modify_other found apart (f := fun a => a.apply grant)
      (fun _ => rfl) rfl
    refine ⟨same.symm ▸ h.allocations, h.pointers, ?_, h.externalValue⟩
    simp [h.reads, apart]
  | @write _ p value a t grant writes found tagged granted =>
    have apart : a.name ≠ name := writes.accesses.about traced hm found ▸ other
    have same := hm.store.named?_modify_other found apart
      (f := fun a => { a.apply grant with value }) (fun _ => rfl) rfl
    exact ⟨same.symm ▸ h.allocations, h.pointers, h.reads, h.externalValue⟩

/-! ## Operations about the variable -/

theorem derives (hm : m.Valid) (hm' : m'.Valid) (traced : m.Traced of)
    (own : act.subject of = name) {kind : BorrowKind} {result : String} {p : Pointer}
    (derives : m.Derives act kind result p) : m'.Derives act kind result (p.relabel ρ) := by
  cases derives with
  | borrow resolved =>
    obtain ⟨b, named, -, rfl⟩ := (Store.lookup_rootPointer hm.store).mp resolved
    subst own
    exact .borrow (h.rootPointer hm' named)
  | reborrow resolved => exact .reborrow (h.resolve hm hm' traced own resolved)

theorem accesses (hm : m.Valid) (hm' : m'.Valid) (traced : m.Traced of)
    (own : act.subject of = name) {access : Access} {p : Pointer}
    (accesses : m.Accesses act access p) : m'.Accesses act access (p.relabel ρ) := by
  obtain ⟨source, through, resolved⟩ := accesses
  have origin : (of source).origin = name :=
    (Action.origin_of_operand (Action.operand_of_access through)).trans own
  exact ⟨source, through, h.resolve hm hm' traced origin resolved⟩

theorem writes (hm : m.Valid) (hm' : m'.Valid) (traced : m.Traced of)
    (own : act.subject of = name) {p : Pointer} {value : Int} (writes : m.Writes act p value) :
    m'.Writes act (p.relabel ρ) value := by
  cases writes with
  | write resolved => exact .write (h.resolve hm hm' traced own resolved)
  | call resolved =>
    rw [← h.externalValue]
    exact .call (h.resolve hm hm' traced own resolved)

/-- Both machines issue a tag for the variable: the renaming that takes the one to the other, and is
    the old one for the tags that the variable had. -/
theorem freshen_same (hm : m.Valid) (hm' : m'.Valid) :
    ∀ a, m.store.named? name = some a → ∀ t ∈ a.tags,
      freshen ρ ⟨m.store.nextTag⟩ ⟨m'.store.nextTag⟩ t = ρ t := by
  intro a named t ht
  have older := hm.store.fresh (List.mem_of_find?_eq_some named) t ht
  have image : ρ t ∈ (a.relabel ρ).tags := by
    rw [Allocation.tags_relabel]
    exact List.mem_map_of_mem ht
  have older' := hm'.store.fresh (Store.mem_of_get? (h.get?_zero named)) (ρ t) image
  apply freshen_of_ne
  · rintro rfl
    exact absurd older (Int.lt_irrefl _)
  · intro same
    rw [same] at older'
    exact absurd older' (Int.lt_irrefl _)

/-- A frame that is pushed with the new tag is pushed with the new tag of the part as well. -/
theorem push_freshen (hm : m.Valid) (hm' : m'.Valid) (named : m.store.named? name = some a)
    {f : Frame} (present : f ∈ a.stack) (permission : Permission) :
    (a.relabel ρ).push ⟨⟨m'.store.nextTag⟩, permission, some (ρ f.tag)⟩ =
      (a.push ⟨⟨m.store.nextTag⟩, permission, some f.tag⟩).relabel
        (freshen ρ ⟨m.store.nextTag⟩ ⟨m'.store.nextTag⟩) := by
  have inside := List.mem_of_find?_eq_some named
  have ha := hm.store.allocations a inside
  have old := h.freshen_same hm hm' a named
  have kept := ha.relabel_congr (hm.store.tags_nodup inside) old
  have renamed : Frame.relabel (freshen ρ ⟨m.store.nextTag⟩ ⟨m'.store.nextTag⟩)
      ⟨⟨m.store.nextTag⟩, permission, some f.tag⟩ =
      ⟨⟨m'.store.nextTag⟩, permission, some (ρ f.tag)⟩ := by
    simp only [Frame.relabel, freshen_self, Option.map_some, old f.tag (ha.tag_mem present)]
  rw [← Allocation.push_relabel, kept, renamed]

/-- The same change of the variable's allocation in both machines. -/
theorem allocations_modify (hm : m.Valid) (named : m.store.named? name = some a) {id : AllocationId}
    (found : m.store.get? id = some a) {f g : Allocation → Allocation}
    (kept : ∀ a, (f a).name = a.name) {σ : Equiv.Perm Tag}
    (same : g (a.relabel ρ) = (f a).relabel σ) {store : Store}
    (changed : store.allocations = (m.store.modify id f).allocations) :
    (m'.store.modify 0 g).allocations =
      ((store.named? name).map (Allocation.relabel σ)).toList := by
  rw [hm.store.named?_modify_self named found kept changed, Store.modify, h.allocations, named]
  exact congrArg (fun b => [b]) same

/-- What an operation about the variable does is done to the part as well. -/
theorem change_own (hm : m.Valid) (hm' : m'.Valid) (traced : m.Traced of)
    (distinct : m.store.names.Nodup) (fits : ∀ x d, act.derived? of = some (x, d) → of x = d)
    (own : act.subject of = name) (change : m.Change act m₁) :
    ∃ σ m₁', m'.Change act m₁' ∧ m₁'.Mirrors m₁ of name σ := by
  cases change with
  | @declare x value isMutable interiorMutable id store declared =>
    obtain ⟨free, -, -⟩ := Store.declare_eq_ok.mp declared
    have same : x = name := own
    subst same
    -- before its declaration there is nothing of the variable to mirror
    have absent : m.store.named? x = none := by simpa [Store.has] using free
    have empty : m'.store.allocations = [] := by rw [h.allocations, absent]; rfl
    have free' : m'.store.has x = false := by simp [Store.has, Store.named?, empty]
    have named := Store.named?_declare declared x
    rw [if_pos rfl] at named
    refine ⟨freshen ρ ⟨m.store.nextTag⟩ ⟨m'.store.nextTag⟩, _,
      .declare (Store.declare_eq_ok.mpr ⟨free', rfl, rfl⟩), ?_,
      h.pointers_congr hm traced distinct (h.freshen_same hm hm'), h.reads, h.externalValue⟩
    have renamed : (m.store.declared x value isMutable interiorMutable).relabel
        (freshen ρ ⟨m.store.nextTag⟩ ⟨m'.store.nextTag⟩) =
        m'.store.declared x value isMutable interiorMutable := by
      simp [Store.declared, empty, Allocation.push, recordParent, Allocation.relabel, Frame.relabel,
        freshen_self]
    simp [named, renamed, empty]
  | @derive _ kind result p a f derives found present tagged enabled =>
    have about := (derives.about traced hm found).trans own
    have named : m.store.named? name = some a := about ▸ Store.named?_of_get? distinct found
    have parent : (p.relabel ρ).tag = some (f.relabel ρ).tag := by rw [Pointer.relabel, tagged]; rfl
    refine ⟨freshen ρ ⟨m.store.nextTag⟩ ⟨m'.store.nextTag⟩, _,
      .derive (h.derives hm hm' traced own derives) (h.get?_zero named)
        (List.mem_map_of_mem present) parent enabled, ?_, ?_, h.reads, h.externalValue⟩
    · exact h.allocations_modify hm named found (f := fun b => b.push _) (fun _ => rfl)
        (h.push_freshen hm hm' named present _) rfl
    · have bound := pointers_append (h.pointers_congr hm traced distinct (h.freshen_same hm hm'))
        fits own derives.result ⟨p.target, some ⟨m.store.nextTag⟩⟩
      rw [Pointer.relabel, Option.map_some, freshen_self] at bound
      exact bound
  | @untagged _ kind result p derives noTag =>
    exact ⟨ρ, _, .untagged (h.derives hm hm' traced own derives) (by simp [Pointer.relabel, noTag]),
      h.allocations, pointers_append h.pointers fits own derives.result ⟨p.target, none⟩, h.reads,
      h.externalValue⟩
  | @toInteger source result p resolved =>
    exact ⟨ρ, _, .toInteger (h.resolve hm hm' traced own resolved),
      h.allocations, pointers_append h.pointers fits own rfl ⟨p.target, none⟩, h.reads,
      h.externalValue⟩
  | @read source binding p a t grant resolved found tagged granted =>
    have accesses : m.Accesses (.read source binding) .read p := ⟨source, rfl, resolved⟩
    have about : a.name = name := (accesses.about traced hm found).trans own
    have named : m.store.named? name = some a := about ▸ Store.named?_of_get? distinct found
    have granted' := a.judge_relabel ρ (some t) .read
    rw [granted] at granted'
    refine ⟨ρ, _, .read (h.resolve hm hm' traced own resolved) (h.get?_zero named)
      (by rw [Pointer.relabel, tagged]; rfl) granted', ?_, h.pointers, ?_, h.externalValue⟩
    · exact h.allocations_modify hm named found (f := fun b => b.apply grant) (fun _ => rfl)
        (a.apply_relabel ρ grant) rfl
    · simp [h.reads, about, Allocation.relabel]
  | @write _ p value a t grant writes found tagged granted =>
    have about := (writes.accesses.about traced hm found).trans own
    have named : m.store.named? name = some a := about ▸ Store.named?_of_get? distinct found
    have granted' := a.judge_relabel ρ (some t) .write
    rw [granted] at granted'
    refine ⟨ρ, _, .write (h.writes hm hm' traced own writes) (h.get?_zero named)
      (by rw [Pointer.relabel, tagged]; rfl) granted', ?_, h.pointers, h.reads, h.externalValue⟩
    have written : { (a.relabel ρ).apply (grant.relabel ρ) with value } =
        Allocation.relabel ρ { a.apply grant with value } :=
      congrArg (fun b => { b with value }) (a.apply_relabel ρ grant)
    exact h.allocations_modify hm named found (f := fun b => { b.apply grant with value })
      (fun _ => rfl) written rfl

/-- Where an operation about the variable is at fault, it is so in the part by the same rule. -/
theorem faults (hm : m.Valid) (hm' : m'.Valid) (traced : m.Traced of)
    (distinct : m.store.names.Nodup) (own : act.subject of = name) {fault : AccessFault}
    (faults : m.Faults act fault) : fault.allocation = name ∧
      ∃ fault', m'.Faults act fault' ∧ fault'.rule = fault.rule := by
  cases faults with
  | @derive kind result p a _ derives found refused =>
    have about := (derives.about traced hm found).trans own
    have named : m.store.named? name = some a := about ▸ Store.named?_of_get? distinct found
    have refused' := a.parentFault?_relabel ρ p.tag .read
    rw [refused] at refused'
    refine ⟨?_, _, .derive (h.derives hm hm' traced own derives) (h.get?_zero named) refused', ?_⟩
    · obtain ⟨t, -, rfl | rfl⟩ := Allocation.parentFault_cases refused <;> exact about
    · exact fault.cause.rule_relabel ρ
  | @access access p a _ accesses found refused =>
    have about := (accesses.about traced hm found).trans own
    have named : m.store.named? name = some a := about ▸ Store.named?_of_get? distinct found
    have refused' := a.judge_relabel ρ p.tag access
    rw [refused] at refused'
    refine ⟨?_, _, .access (h.accesses hm hm' traced own accesses) (h.get?_zero named) refused', ?_⟩
    · obtain ⟨cause, -, rfl⟩ := Allocation.judge_refusal refused
      exact about
    · exact fault.cause.rule_relabel ρ

end Mirrors

end Machine

end PointerTrace
