import Mathlib.Data.List.Nodup
import PointerTrace.Memory.Access
import PointerTrace.Proofs.Lineage

/- What a granted access is and what it leaves. `Grants` says, of the stack cut at the frame that
   carries the accessing tag, when the access is granted; `judge_eq_ok` says that this is what the
   judge decides. `remains` says what becomes of one frame above the tag's own, and `stack_apply`
   that carrying out a grant leaves the frames up to the tag's own as they are and does to each
   frame above what `remains` says. The effect is decided by tags, so that the last statement needs
   the tags of the stack to be distinct. -/
namespace PointerTrace

theorem depthOf_eq_none {l : List Frame} {t : Tag} :
    depthOf l t = none ↔ ∀ f ∈ l, f.tag ≠ t := by
  induction l with
  | nil => simp [depthOf]
  | cons f above ih =>
    cases h : depthOf above t with
    | none =>
      have absent := ih.mp h
      by_cases hf : f.tag = t
      · simp [depthOf, h, hf]
      · simp only [depthOf, h, hf, if_false, List.forall_mem_cons, true_iff]
        exact ⟨hf, absent⟩
    | some d =>
      have present : ¬ ∀ g ∈ above, g.tag ≠ t := fun all => by
        rw [ih.mpr all] at h
        cases h
      simp only [depthOf, h, List.forall_mem_cons, reduceCtorEq, false_iff]
      exact fun all => present all.2

/-- The depth of a tag cuts the stack at the topmost frame that carries it. -/
theorem depthOf_eq_some {l : List Frame} {t : Tag} {d : Nat} :
    depthOf l t = some d ↔ ∃ below f above, l = below ++ f :: above ∧ below.length = d ∧
      f.tag = t ∧ ∀ g ∈ above, g.tag ≠ t := by
  constructor
  · intro h
    induction l generalizing d with
    | nil => simp [depthOf] at h
    | cons f above ih =>
      cases hd : depthOf above t with
      | some e =>
        simp only [depthOf, hd, Option.some.injEq] at h
        obtain ⟨below, g, top, rfl, rfl, htag, htop⟩ := ih hd
        exact ⟨f :: below, g, top, rfl, h, htag, htop⟩
      | none =>
        by_cases hf : f.tag = t
        · simp only [depthOf, hd, hf, if_true, Option.some.injEq] at h
          exact ⟨[], f, above, rfl, h, hf, depthOf_eq_none.mp hd⟩
        · simp [depthOf, hd, hf] at h
  · rintro ⟨below, f, above, rfl, rfl, htag, htop⟩
    induction below with
    | nil => simp [depthOf, depthOf_eq_none.mpr htop, htag]
    | cons g below ih => simp [depthOf, ih]

namespace Allocation

theorem isForeignUnique_congr {a b : Allocation} (same : b.lineage = a.lineage) (t : Tag) :
    b.isForeignUnique t = a.isForeignUnique t := by
  funext f
  rw [isForeignUnique, derives_congr same, isForeignUnique]

/-- What an access invalidates is decided by the frames above and the lineage. -/
theorem grantAt_congr {a b : Allocation} (same : b.lineage = a.lineage) (t : Tag) (access : Access)
    (d : Nat) (above : List Frame) :
    b.grantAt t access d above = a.grantAt t access d above := by
  have pops : b.popsOnWrite t = a.popsOnWrite t := by
    funext f
    rw [popsOnWrite, derives_congr same, popsOnWrite]
  have disables : b.disablesOnRead t = a.disablesOnRead t := by
    funext f
    rw [disablesOnRead, derives_congr same, disablesOnRead]
  cases access with
  | read => rw [grantAt, disables, grantAt]
  | write => rw [grantAt, pops, grantAt]

/-- An access through a tag is granted by the frame that cuts the stack into a lower and an upper
    part: the frame is the topmost with the tag, it is not disabled, every live unique frame above
    it was derived from the tag, and a write needs more than a read-only frame unless the
    allocation is interior-mutable. -/
structure Grants (a : Allocation) (t : Tag) (access : Access) (below : List Frame) (f : Frame)
    (above : List Frame) : Prop where
  cut : a.stack = below ++ f :: above
  tag_eq : f.tag = t
  topmost : ∀ g ∈ above, g.tag ≠ t
  unopposed : ∀ g ∈ above, g.permission = .unique → a.derives g.tag t = true
  enabled : f.permission ≠ .disabled
  writable : access = .write → f.permission = .sharedReadOnly → a.interiorMutable = true

theorem judgeAt_eq_ok {a : Allocation} {t : Tag} {access : Access} {d : Nat} {f : Frame}
    {above : List Frame} {grant : Grant} :
    a.judgeAt t access d f above = .ok grant ↔
      (∀ g ∈ above, g.permission = .unique → a.derives g.tag t = true) ∧
      f.permission ≠ .disabled ∧
      (access = .write → f.permission = .sharedReadOnly → a.interiorMutable = true) ∧
      grant = a.grantAt t access d above := by
  unfold judgeAt
  cases opposed : above.find? (a.isForeignUnique t) with
  | some holder =>
    have foreign := List.find?_some opposed
    have present := List.mem_of_find?_eq_some opposed
    simp only [isForeignUnique, Bool.and_eq_true, decide_eq_true_eq, Bool.not_eq_true'] at foreign
    simp only [reduceCtorEq, false_iff]
    rintro ⟨unopposed, -⟩
    have := unopposed holder present foreign.1
    rw [foreign.2] at this
    cases this
  | none =>
    have unopposed : ∀ g ∈ above, g.permission = .unique → a.derives g.tag t = true := by
      intro g hg unique
      have := List.find?_eq_none.mp opposed g hg
      simpa [isForeignUnique, unique] using this
    by_cases disabled : f.permission = .disabled
    · simp [disabled]
    · by_cases readOnly :
        (access = .write && f.permission = .sharedReadOnly && !a.interiorMutable) = true
      · simp only [disabled, readOnly, if_true, if_false, reduceCtorEq, false_iff]
        rintro ⟨-, -, writable, -⟩
        simp only [Bool.and_eq_true, decide_eq_true_eq, Bool.not_eq_true'] at readOnly
        rw [writable readOnly.1.1 readOnly.1.2] at readOnly
        exact Bool.noConfusion readOnly.2
      · simp only [disabled, readOnly, if_false, Except.ok.injEq, Bool.false_eq_true]
        have writable : access = .write → f.permission = .sharedReadOnly →
            a.interiorMutable = true := fun hw hr => by simpa [hw, hr] using readOnly
        exact ⟨fun h => ⟨unopposed, disabled, writable, h.symm⟩, fun h => h.2.2.2.symm⟩

/-- The judge grants an access through a tag exactly when a frame of the stack does. -/
theorem judge_eq_ok {a : Allocation} {t : Tag} {access : Access} {grant : Grant} :
    a.judge (some t) access = .ok grant ↔ ∃ below f above, a.Grants t access below f above ∧
      grant = a.grantAt t access below.length above := by
  unfold judge find
  constructor
  · intro h
    cases found : depthOf a.stack t with
    | none => simp [found] at h
    | some d =>
      obtain ⟨below, f, above, cut, rfl, tag_eq, topmost⟩ := depthOf_eq_some.mp found
      simp only [found] at h
      simp only [cut, List.drop_left] at h
      obtain ⟨unopposed, enabled, writable, rfl⟩ := judgeAt_eq_ok.mp h
      exact ⟨below, f, above, ⟨cut, tag_eq, topmost, unopposed, enabled, writable⟩, rfl⟩
  · rintro ⟨below, f, above, granted, rfl⟩
    have found : depthOf a.stack t = some below.length :=
      depthOf_eq_some.mpr ⟨below, f, above, granted.cut, rfl, granted.tag_eq, granted.topmost⟩
    simp only [found]
    simp only [granted.cut, List.drop_left]
    exact judgeAt_eq_ok.mpr ⟨granted.unopposed, granted.enabled, granted.writable, rfl⟩

/-- The judge of a parent with a tag finds no fault exactly when the stack has an enabled frame at
    the depth of the tag. -/
theorem parentFault?_eq_none {a : Allocation} {t : Tag} {access : Access} :
    a.parentFault? (some t) access = none ↔ ∃ f ∈ a.stack, f.tag = t ∧ f.permission ≠ .disabled ∧
      ((a.find t).bind fun depth => a.stack[depth]?) = some f := by
  simp only [parentFault?]
  cases found : a.find t with
  | none => simp
  | some d =>
    obtain ⟨below, f, above, cut, rfl, tag_eq, -⟩ := depthOf_eq_some.mp found
    have here : a.stack[below.length]? = some f := by simp [cut]
    have inside : f ∈ a.stack := List.mem_of_getElem? here
    simp only [here, Option.map_some, Option.some.injEq, Option.bind_some]
    constructor
    · intro h
      split at h
      · cases h
      · next enabled => exact ⟨f, inside, tag_eq, enabled, rfl⟩
    · rintro ⟨g, -, -, enabled, rfl⟩
      rw [if_neg enabled]

/-! ## Carrying out a grant -/

/-- What an access through a tag leaves of a frame above the tag's own. -/
def remains (a : Allocation) (t : Tag) : Access → Frame → Option Frame
  | .write, f => if a.popsOnWrite t f then none else some f
  | .read, f => some (if a.disablesOnRead t f then { f with permission := .disabled } else f)

/-- Of what remains, the tag and the parent are unchanged, and the permission too unless a read
    disabled a unique frame that was derived from the accessing tag. -/
theorem remains_eq_some {a : Allocation} {t : Tag} {access : Access} {f g : Frame}
    (h : a.remains t access f = some g) : g.tag = f.tag ∧ g.parent = f.parent ∧
      (g = f ∨ access = .read ∧ a.derives f.tag t = true ∧ f.permission = .unique ∧
        g.permission = .disabled) := by
  cases access with
  | write =>
    simp only [remains] at h
    split at h
    · cases h
    · cases h
      exact ⟨rfl, rfl, .inl rfl⟩
  | read =>
    simp only [remains, Option.some.injEq] at h
    subst h
    split
    · next off =>
      simp only [disablesOnRead, Bool.and_eq_true, decide_eq_true_eq] at off
      exact ⟨rfl, rfl, .inr ⟨rfl, off.1, off.2, rfl⟩⟩
    · exact ⟨rfl, rfl, .inl rfl⟩

/-- In a list of frames with distinct tags, a frame's tag is among those of the selected frames
    exactly when the frame is selected. -/
theorem tag_mem_selected {l : List Frame} (distinct : (l.map Frame.tag).Nodup) (q : Frame → Bool)
    {f : Frame} (hf : f ∈ l) : f.tag ∈ (l.filter q).map Frame.tag ↔ q f = true := by
  rw [List.mem_map]
  constructor
  · rintro ⟨g, hg, same⟩
    obtain ⟨inside, selected⟩ := List.mem_filter.mp hg
    rwa [List.inj_on_of_nodup_map distinct inside hf same] at selected
  · exact fun selected => ⟨f, List.mem_filter.mpr ⟨hf, selected⟩, rfl⟩

theorem stack_apply_write (a : Allocation) (t : Tag) (d : Nat) (above : List Frame) :
    (a.apply (a.grantAt t .write d above)).stack =
      a.stack.filter (·.tag ∉ (above.filter (a.popsOnWrite t)).map Frame.tag) := by
  have same : ∀ g : Frame, disableFrame [] g = g := fun g => by simp [disableFrame]
  show List.map (disableFrame []) _ = _
  rw [List.map_congr_left fun g _ => same g, List.map_id']
  rfl

theorem stack_apply_read (a : Allocation) (t : Tag) (d : Nat) (above : List Frame) :
    (a.apply (a.grantAt t .read d above)).stack =
      a.stack.map (disableFrame ((above.filter (a.disablesOnRead t)).map Frame.tag)) := by
  show List.map _ (a.stack.filter fun g => g.tag ∉ ([] : List Tag)) = _
  rw [List.filter_eq_self.mpr fun g _ => by simp]
  rfl

/-- Removing the frames with a popped tag removes the popped frames. -/
theorem filter_popped {a : Allocation} {t : Tag} {l : List Frame}
    (distinct : (l.map Frame.tag).Nodup) :
    l.filter (fun g => g.tag ∉ (l.filter (a.popsOnWrite t)).map Frame.tag) =
      l.filterMap (a.remains t .write) := by
  rw [← List.filterMap_eq_filter]
  apply List.filterMap_congr
  intro g hg
  have popped := tag_mem_selected distinct (a.popsOnWrite t) hg
  by_cases h : a.popsOnWrite t g = true
  · simp only [Option.guard, remains, popped.mpr h, h, not_true, decide_false]
    simp
  · simp only [Option.guard, remains, mt popped.mp h, h, not_false_eq_true, decide_true]
    simp

/-- Disabling the frames with a disabled tag disables the frames that a read disables. -/
theorem map_disabled {a : Allocation} {t : Tag} {l : List Frame}
    (distinct : (l.map Frame.tag).Nodup) :
    l.map (disableFrame ((l.filter (a.disablesOnRead t)).map Frame.tag)) =
      l.filterMap (a.remains t .read) := by
  rw [← List.filterMap_eq_map]
  apply List.filterMap_congr
  intro g hg
  simp only [Function.comp_apply, remains, disableFrame,
    tag_mem_selected distinct (a.disablesOnRead t) hg]

/-- A granted access leaves the frames up to the tag's own as they are. -/
theorem stack_apply {a : Allocation} {t : Tag} {access : Access} {below above : List Frame}
    {f : Frame} (distinct : (a.stack.map Frame.tag).Nodup)
    (granted : a.Grants t access below f above) :
    (a.apply (a.grantAt t access below.length above)).stack =
      below ++ f :: above.filterMap (a.remains t access) := by
  have cut : a.stack = (below ++ [f]) ++ above := by rw [granted.cut, List.append_cons]
  rw [cut, List.map_append, List.nodup_append] at distinct
  obtain ⟨-, upper, apart⟩ := distinct
  -- tags are distinct, so no tag selected above occurs below
  have lower : ∀ (q : Frame → Bool), ∀ g ∈ below ++ [f],
      g.tag ∉ (above.filter q).map Frame.tag := fun q g hg inside =>
    apart _ (List.mem_map_of_mem hg) _ ((List.filter_sublist.map Frame.tag).subset inside) rfl
  cases access with
  | write =>
    have keep := List.filter_eq_self.mpr fun g hg =>
      decide_eq_true (lower (a.popsOnWrite t) g hg)
    rw [stack_apply_write, cut, List.filter_append, keep, filter_popped upper, List.append_assoc]
    rfl
  | read =>
    have keep : ∀ g ∈ below ++ [f],
        disableFrame ((above.filter (a.disablesOnRead t)).map Frame.tag) g = g :=
      fun g hg => if_neg (lower _ g hg)
    rw [stack_apply_read, cut, List.map_append, List.map_congr_left keep, List.map_id',
      map_disabled upper, List.append_assoc]
    rfl

end Allocation

end PointerTrace
