import Mathlib.Logic.Equiv.Defs
import PointerTrace.Proofs.BorrowStack

/- Renaming of tags. A tag is only ever compared with other tags of its allocation, so that nothing
   that is judged or done depends on which tags were issued: judging, granting and pushing commute
   with every permutation of the tags (`judge_relabel`, `apply_relabel`, `push_relabel`). Renaming an
   allocation also moves it to the first place of a store. It looks only at the tags that the
   allocation recorded (`Valid.relabel_congr`). -/
namespace PointerTrace

/-- A frame with its tags renamed. -/
def Frame.relabel (ρ : Equiv.Perm Tag) (f : Frame) : Frame :=
  { f with tag := ρ f.tag, parent := f.parent.map ρ }

/-- A pointer with its tag renamed, into the first allocation. -/
def Pointer.relabel (ρ : Equiv.Perm Tag) (p : Pointer) : Pointer := ⟨0, p.tag.map ρ⟩

/-- A grant with its tags renamed. -/
def Grant.relabel (ρ : Equiv.Perm Tag) (g : Grant) : Grant :=
  { g with popped := g.popped.map ρ, disabled := g.disabled.map ρ }

/-- A cause with its tags renamed. -/
def FaultCause.relabel (ρ : Equiv.Perm Tag) : FaultCause → FaultCause
  | .untagged => .untagged
  | .gone t => .gone (ρ t)
  | .parentGone t => .parentGone (ρ t)
  | .parentDisabled t => .parentDisabled (ρ t)
  | .conflict t holder => .conflict (ρ t) (ρ holder)
  | .disabled t => .disabled (ρ t)
  | .readOnly t => .readOnly (ρ t)

/-- An allocation with its tags renamed, as the first one of a store. -/
def Allocation.relabel (ρ : Equiv.Perm Tag) (a : Allocation) : Allocation :=
  { a with
    id := 0
    stack := a.stack.map (Frame.relabel ρ)
    lineage := a.lineage.map (Prod.map ρ (Option.map ρ)) }

theorem FaultCause.rule_relabel (ρ : Equiv.Perm Tag) (cause : FaultCause) :
    (cause.relabel ρ).rule = cause.rule := by
  cases cause <;> rfl

variable (ρ : Equiv.Perm Tag)

/-! ## The stack and the lineage -/

theorem depthOf_relabel (l : List Frame) (t : Tag) :
    depthOf (l.map (Frame.relabel ρ)) (ρ t) = depthOf l t := by
  induction l with
  | nil => rfl
  | cons f l ih => simp [depthOf, ih, Frame.relabel]

/-- A lookup where keys are renamed and values are changed. -/
theorem lookup_map {α β γ : Type} [DecidableEq α] (key : α → α) (value : β → γ)
    (l : List (α × β)) (x : α) (apart : ∀ e ∈ l, key x = key e.1 → x = e.1) :
    (l.map (Prod.map key value)).lookup (key x) = (l.lookup x).map value := by
  induction l with
  | nil => rfl
  | cons e l ih =>
    obtain ⟨first, rest⟩ := List.forall_mem_cons.mp apart
    have same : (key x == key e.1) = (x == e.1) := by
      rw [Bool.eq_iff_iff, beq_iff_eq, beq_iff_eq]
      exact ⟨first, congrArg key⟩
    rw [List.map_cons, List.lookup_cons, List.lookup_cons, ih rest, Prod.map_fst, same]
    cases x == e.1 <;> rfl

/-- A lookup among the entries whose keys are kept. -/
theorem lookup_filter {α β : Type} [BEq α] [LawfulBEq α] (q : α → Bool) (l : List (α × β)) (x : α) :
    (l.filter fun e => q e.1).lookup x = if q x then l.lookup x else none := by
  induction l with
  | nil => simp
  | cons e l ih =>
    obtain ⟨key, value⟩ := e
    rw [List.filter_cons, List.lookup_cons]
    by_cases same : x = key
    · subst same
      by_cases kept : q x = true <;> simp [kept, ih]
    · have apart : (x == key) = false := beq_eq_false_iff_ne.mpr same
      by_cases kept : q key = true <;> simp [kept, ih, List.lookup_cons, apart]

theorem recordParent_relabel (l : List (Tag × Option Tag)) (t : Tag) (parent : Option Tag) :
    recordParent (l.map (Prod.map ρ (Option.map ρ))) (ρ t) (parent.map ρ) =
      (recordParent l t parent).map (Prod.map ρ (Option.map ρ)) := by
  induction l with
  | nil => rfl
  | cons e l ih =>
    obtain ⟨key, old⟩ := e
    by_cases same : key = t <;> simp [recordParent, same, ih]

namespace Allocation

variable (a : Allocation)

theorem find_relabel (t : Tag) : (a.relabel ρ).find (ρ t) = a.find t :=
  depthOf_relabel ρ a.stack t

theorem tags_relabel : (a.relabel ρ).tags = a.tags.map ρ := by
  simp [tags, relabel, Function.comp_def]

theorem parentOf_relabel (t : Tag) : (a.relabel ρ).parentOf (ρ t) = (a.parentOf t).map ρ := by
  have entry := lookup_map ρ (Option.map ρ) a.lineage t fun _ _ same => ρ.injective same
  simp only [parentOf, relabel, entry]
  rcases a.lineage.lookup t with - | - | p <;> rfl

theorem derivesWithin_relabel (u : Tag) (links : Nat) (t : Tag) :
    (a.relabel ρ).derivesWithin (ρ u) links (ρ t) = a.derivesWithin u links t := by
  induction links generalizing t with
  | zero => rfl
  | succ links ih =>
    simp only [derivesWithin, parentOf_relabel]
    cases a.parentOf t with
    | none => rfl
    | some p => simp [ih]

theorem derives_relabel (t u : Tag) : (a.relabel ρ).derives (ρ t) (ρ u) = a.derives t u := by
  have entries : (a.relabel ρ).lineage.length = a.lineage.length := by simp [relabel]
  rw [derives, entries, derivesWithin_relabel, derives]

theorem push_relabel (f : Frame) : (a.relabel ρ).push (f.relabel ρ) = (a.push f).relabel ρ := by
  simp [push, relabel, Frame.relabel, recordParent_relabel]

theorem rootPointer_relabel : (a.relabel ρ).rootPointer = a.rootPointer.relabel ρ := by
  cases stack : a.stack <;> simp [rootPointer, relabel, Pointer.relabel, Frame.relabel, stack]

/-! ## Judging and granting -/

theorem isForeignUnique_relabel (t : Tag) (f : Frame) :
    (a.relabel ρ).isForeignUnique (ρ t) (f.relabel ρ) = a.isForeignUnique t f := by
  exact congrArg (decide (f.permission = .unique) && !·) (a.derives_relabel ρ f.tag t)

theorem popsOnWrite_relabel (t : Tag) (f : Frame) :
    (a.relabel ρ).popsOnWrite (ρ t) (f.relabel ρ) = a.popsOnWrite t f := by
  exact congrArg (· || decide (f.permission = .sharedReadOnly)) (a.derives_relabel ρ f.tag t)

theorem disablesOnRead_relabel (t : Tag) (f : Frame) :
    (a.relabel ρ).disablesOnRead (ρ t) (f.relabel ρ) = a.disablesOnRead t f := by
  exact congrArg (· && decide (f.permission = .unique)) (a.derives_relabel ρ f.tag t)

theorem grantAt_relabel (t : Tag) (access : Access) (d : Nat) (above : List Frame) :
    (a.relabel ρ).grantAt (ρ t) access d (above.map (Frame.relabel ρ)) =
      (a.grantAt t access d above).relabel ρ := by
  have pops : (a.relabel ρ).popsOnWrite (ρ t) ∘ Frame.relabel ρ = a.popsOnWrite t :=
    funext (a.popsOnWrite_relabel ρ t)
  have disables : (a.relabel ρ).disablesOnRead (ρ t) ∘ Frame.relabel ρ = a.disablesOnRead t :=
    funext (a.disablesOnRead_relabel ρ t)
  cases access <;>
    simp [grantAt, Grant.relabel, List.filter_map, pops, disables, Frame.relabel]

theorem judgeAt_relabel (t : Tag) (access : Access) (d : Nat) (f : Frame) (above : List Frame) :
    (a.relabel ρ).judgeAt (ρ t) access d (f.relabel ρ) (above.map (Frame.relabel ρ)) =
      match a.judgeAt t access d f above with
      | .ok grant => .ok (grant.relabel ρ)
      | .error fault => .error ((a.relabel ρ).faultOf access (fault.cause.relabel ρ)) := by
  have opposes : (a.relabel ρ).isForeignUnique (ρ t) ∘ Frame.relabel ρ = a.isForeignUnique t :=
    funext (a.isForeignUnique_relabel ρ t)
  unfold judgeAt
  rw [List.find?_map, opposes, grantAt_relabel]
  cases above.find? (a.isForeignUnique t) with
  | some holder => rfl
  | none =>
    simp only [Option.map_none]
    have permission : (f.relabel ρ).permission = f.permission := rfl
    have interior : (a.relabel ρ).interiorMutable = a.interiorMutable := rfl
    rw [permission, interior]
    split
    · rfl
    · split <;> rfl

/-- What is judged does not depend on which tags were issued. -/
theorem judge_relabel (tag : Option Tag) (access : Access) :
    (a.relabel ρ).judge (tag.map ρ) access =
      match a.judge tag access with
      | .ok grant => .ok (grant.relabel ρ)
      | .error fault => .error ((a.relabel ρ).faultOf access (fault.cause.relabel ρ)) := by
  cases tag with
  | none => rfl
  | some t =>
    have cut : ∀ d, (a.relabel ρ).stack.drop d = (a.stack.drop d).map (Frame.relabel ρ) :=
      fun d => List.map_drop.symm
    simp only [judge, Option.map_some, find_relabel, cut]
    cases a.find t with
    | none => rfl
    | some d =>
      simp only
      cases a.stack.drop d with
      | nil => rfl
      | cons f above => exact a.judgeAt_relabel ρ t access d f above

theorem parentFault?_relabel (tag : Option Tag) (access : Access) :
    (a.relabel ρ).parentFault? (tag.map ρ) access = (a.parentFault? tag access).map
      fun fault => (a.relabel ρ).faultOf access (fault.cause.relabel ρ) := by
  cases tag with
  | none => rfl
  | some t =>
    simp only [parentFault?, Option.map_some, find_relabel]
    cases a.find t with
    | none => rfl
    | some d =>
      have permission : ((a.relabel ρ).stack[d]?).map Frame.permission =
          (a.stack[d]?).map Frame.permission := by
        simp [relabel, Frame.relabel, Function.comp_def]
      simp only [permission]
      split <;> rfl

theorem apply_relabel (g : Grant) : (a.relabel ρ).apply (g.relabel ρ) = (a.apply g).relabel ρ := by
  have pops : ∀ f : Frame, decide ((f.relabel ρ).tag ∉ (g.relabel ρ).popped) =
      decide (f.tag ∉ g.popped) := fun f => by simp [Frame.relabel, Grant.relabel]
  have disables : ∀ f : Frame, disableFrame (g.relabel ρ).disabled (f.relabel ρ) =
      (disableFrame g.disabled f).relabel ρ := fun f => by
    by_cases off : f.tag ∈ g.disabled <;> simp [disableFrame, Frame.relabel, Grant.relabel, off]
  simp only [apply, relabel, List.filter_map, List.map_map, Function.comp_def, pops, disables]

/-! ## Which tags are renamed -/

variable {a} {ρ} {σ : Equiv.Perm Tag}

/-- Renaming looks at the tags that an allocation recorded. -/
theorem Valid.relabel_congr (ha : a.Valid) (distinct : a.tags.Nodup)
    (same : ∀ t ∈ a.tags, ρ t = σ t) : a.relabel ρ = a.relabel σ := by
  have entries : ∀ e ∈ a.lineage, ∀ p, e.2 = some p → p ∈ a.tags := by
    intro e he p parent
    -- a tag has one entry only, so that every entry is the one that a lookup finds
    apply ha.closed e.1 p
    obtain ⟨before, after, split⟩ := List.append_of_mem he
    have first : ∀ d ∈ before, (e.1 != d.1) = true := by
      intro d hd
      rw [tags, split, List.map_append, List.nodup_append] at distinct
      exact bne_iff_ne.mpr (distinct.2.2 d.1 (List.mem_map_of_mem hd) e.1 (by simp)).symm
    rw [parentOf_eq_some, split, ← parent]
    exact List.lookup_eq_some_iff.mpr ⟨before, after, rfl, first⟩
  have parents : ∀ q : Option Tag, (∀ p, q = some p → p ∈ a.tags) → q.map ρ = q.map σ := by
    intro q known
    cases q with
    | none => rfl
    | some p => exact congrArg some (same p (known p rfl))
  have frames : a.stack.map (Frame.relabel ρ) = a.stack.map (Frame.relabel σ) := by
    apply List.map_congr_left
    intro f hf
    have parent := parents f.parent fun p link => ha.closed f.tag p (by rw [ha.parentOf_tag hf, link])
    simp only [Frame.relabel, same f.tag (ha.tag_mem hf), parent]
  have lineages : a.lineage.map (Prod.map ρ (Option.map ρ)) =
      a.lineage.map (Prod.map σ (Option.map σ)) := by
    apply List.map_congr_left
    intro e he
    exact Prod.ext (same e.1 (List.mem_map_of_mem he)) (parents e.2 (entries e he))
  rw [relabel, relabel, frames, lineages]

end Allocation

end PointerTrace
