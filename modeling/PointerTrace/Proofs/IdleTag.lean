import Mathlib.Data.List.Find
import PointerTrace.Proofs.Refusal
import PointerTrace.Proofs.Relabel

/- Tags that change nothing. A tag is idle in an allocation when its frames are shared and were derived
   from another, and nothing was derived from it (`Idle`). An allocation without an idle tag, neither
   its frames nor its entry in the lineage, judges every access through another tag as before, and a
   grant does the same to the frames that stay (`Idle.judge_without`, `apply_without`): a shared frame
   is never in the way of an access, and a walk along the parents of another tag never meets the idle
   one. Like a renamed allocation, one without a tag stands in the first place of a store, so that the
   two are compared by equality. -/
namespace PointerTrace

/-- A granted access without a tag among those that it invalidates, and at another depth. -/
def Grant.without (e : Tag) (depth : Nat) (g : Grant) : Grant :=
  ⟨depth, g.popped.filter (· ≠ e), g.disabled.filter (· ≠ e)⟩

namespace Allocation

/-- The allocation without a tag, as the first one of a store. -/
def without (e : Tag) (a : Allocation) : Allocation :=
  { a with
    id := 0
    stack := a.stack.filter (·.tag ≠ e)
    lineage := a.lineage.filter (·.1 ≠ e) }

/-- The tag grants no more than shared use of the allocation, and nothing was derived from it. -/
structure Idle (e : Tag) (a : Allocation) : Prop where
  shared : ∀ f ∈ a.stack, f.tag = e → f.permission ≠ .unique
  derived : ∀ f ∈ a.stack, f.tag = e → f.parent ≠ none
  childless : ∀ t, a.parentOf t ≠ some e

variable {a : Allocation} {e t : Tag}

/-! ## The lineage -/

theorem parentOf_without (other : t ≠ e) : (a.without e).parentOf t = a.parentOf t := by
  have kept := lookup_filter (fun u => decide (u ≠ e)) a.lineage t
  rw [if_pos (decide_eq_true other)] at kept
  exact congrArg Option.join kept

theorem mem_tags_without : t ∈ (a.without e).tags → t ≠ e := by
  intro inside
  obtain ⟨x, hx, rfl⟩ := List.mem_map.mp inside
  simpa using (List.mem_filter.mp hx).2

theorem Descending.without (descending : a.Descending) : (a.without e).Descending := by
  intro t p link
  have other : t ≠ e := mem_tags_without (mem_tags_of_parentOf link)
  exact descending t p (parentOf_without (a := a) other ▸ link)

/-- No walk along parents meets an idle tag, so that none is cut short when it is left out. -/
theorem Idle.descends_without (idle : a.Idle e) (other : t ≠ e) {u : Tag} :
    (a.without e).Descends t u ↔ a.Descends t u := by
  constructor
  · intro h
    refine Relation.TransGen.mono ?_ _ _ h
    intro x p link
    rwa [parentOf_without (mem_tags_without (mem_tags_of_parentOf link))] at link
  · intro h
    induction h using Relation.TransGen.head_induction_on with
    | @single t link => exact .link (by rw [parentOf_without other, link])
    | @head t p link _ ih =>
      have next : p ≠ e := fun same => idle.childless t (same ▸ link)
      exact .head (by rw [parentOf_without other, link]) (ih next)

theorem Idle.derives_without (idle : a.Idle e) (descending : a.Descending) (other : t ≠ e)
    (u : Tag) : (a.without e).derives t u = a.derives t u := by
  rw [Bool.eq_iff_iff, derives_iff descending.without, derives_iff descending,
    idle.descends_without other]

/-! ## The stack -/

/-- Where the stack is cut at the topmost frame of a tag, the access is judged at that frame. -/
theorem judge_of_cut {below above : List Frame} {f : Frame} (cut : a.stack = below ++ f :: above)
    (topmost : ∀ g ∈ above, g.tag ≠ f.tag) (access : Access) :
    a.judge (some f.tag) access = a.judgeAt f.tag access below.length f above := by
  have found : a.find f.tag = some below.length :=
    depthOf_eq_some.mpr ⟨below, f, above, cut, rfl, rfl, topmost⟩
  have upper : a.stack.drop below.length = f :: above := by rw [cut, List.drop_left]
  simp only [judge, found, upper]

theorem parentFault?_of_cut {below above : List Frame} {f : Frame}
    (cut : a.stack = below ++ f :: above) (topmost : ∀ g ∈ above, g.tag ≠ f.tag)
    (access : Access) : a.parentFault? (some f.tag) access =
      if f.permission = .disabled then some (a.faultOf access (.parentDisabled f.tag)) else none := by
  have found : a.find f.tag = some below.length :=
    depthOf_eq_some.mpr ⟨below, f, above, cut, rfl, rfl, topmost⟩
  have here : a.stack[below.length]? = some f := by simp [cut]
  simp only [parentFault?, found, here, Option.map_some, Option.some.injEq]

/-- Without another tag the stack is cut at the same frame. -/
theorem cut_without {below above : List Frame} {f : Frame} (cut : a.stack = below ++ f :: above)
    (other : f.tag ≠ e) : (a.without e).stack =
      below.filter (·.tag ≠ e) ++ f :: above.filter (·.tag ≠ e) := by
  show a.stack.filter _ = _
  rw [cut, List.filter_append, List.filter_cons_of_pos (by simpa using other)]

theorem find_without_eq_none (other : t ≠ e) : (a.without e).find t = none ↔ a.find t = none := by
  unfold find
  rw [depthOf_eq_none, depthOf_eq_none]
  constructor
  · intro absent f hf same
    exact absent f (List.mem_filter.mpr ⟨hf, by simpa [same] using other⟩) same
  · exact fun absent f hf => absent f (List.mem_filter.mp hf).1

/-! ## Judging -/

theorem Idle.grantAt_without (idle : a.Idle e) (descending : a.Descending) (t : Tag)
    (access : Access) {d : Nat} (d' : Nat) {above : List Frame} :
    (a.without e).grantAt t access d' (above.filter (·.tag ≠ e)) =
      (a.grantAt t access d above).without e d' := by
  have pops : ∀ f : Frame, f.tag ≠ e → (a.without e).popsOnWrite t f = a.popsOnWrite t f :=
    fun f other => by rw [popsOnWrite, idle.derives_without descending other, popsOnWrite]
  have disables : ∀ f : Frame, f.tag ≠ e →
      (a.without e).disablesOnRead t f = a.disablesOnRead t f :=
    fun f other => by rw [disablesOnRead, idle.derives_without descending other, disablesOnRead]
  -- the frames are selected alike, whether the idle ones are left out before or after
  have select : ∀ q q' : Frame → Bool, (∀ f : Frame, f.tag ≠ e → q' f = q f) →
      ((above.filter (·.tag ≠ e)).filter q').map Frame.tag =
        ((above.filter q).map Frame.tag).filter (· ≠ e) := by
    intro q q' same
    rw [List.filter_map, List.filter_filter, List.filter_filter]
    refine congrArg _ (List.filter_congr fun f _ => ?_)
    by_cases own : f.tag = e
    · simp [own]
    · simp [own, same f own]
  cases access with
  | read => simp only [grantAt, Grant.without, select _ _ disables, List.filter_nil]
  | write => simp only [grantAt, Grant.without, select _ _ pops, List.filter_nil]

/-- A shared frame is in nobody's way. -/
theorem Idle.judgeAt_without (idle : a.Idle e) (descending : a.Descending) (t : Tag)
    (access : Access) {d : Nat} (d' : Nat) (f : Frame) {above : List Frame}
    (inside : ∀ g ∈ above, g ∈ a.stack) :
    (a.without e).judgeAt t access d' f (above.filter (·.tag ≠ e)) =
      match a.judgeAt t access d f above with
      | .ok grant => .ok (grant.without e d')
      | .error fault => .error ((a.without e).faultOf access fault.cause) := by
  have opposing : (above.filter (·.tag ≠ e)).find? ((a.without e).isForeignUnique t) =
      above.find? (a.isForeignUnique t) := by
    rw [List.find?_filter]
    refine List.find?_congr fun g hg => ?_
    by_cases own : g.tag = e
    · simp [isForeignUnique, own, idle.shared g (inside g hg) own]
    · simp [isForeignUnique, own, idle.derives_without descending own]
  have interior : (a.without e).interiorMutable = a.interiorMutable := rfl
  unfold judgeAt
  rw [opposing, interior, idle.grantAt_without descending t access (d := d) d']
  cases above.find? (a.isForeignUnique t) with
  | some holder => rfl
  | none =>
    dsimp only
    split
    · rfl
    · split <;> rfl

/-- Without an idle tag every access through another one is judged as before. -/
theorem Idle.judge_without (idle : a.Idle e) (descending : a.Descending) {tag : Option Tag}
    (other : tag ≠ some e) (access : Access) : ∃ depth, (a.without e).judge tag access =
      match a.judge tag access with
      | .ok grant => .ok (grant.without e depth)
      | .error fault => .error ((a.without e).faultOf access fault.cause) := by
  cases tag with
  | none => exact ⟨0, rfl⟩
  | some t =>
    have apart : t ≠ e := fun same => other (congrArg some same)
    cases found : a.find t with
    | none =>
      have found' := (find_without_eq_none apart).mpr found
      exact ⟨0, by simp only [judge, found, found']; rfl⟩
    | some d =>
      obtain ⟨below, f, above, cut, rfl, rfl, topmost⟩ := depthOf_eq_some.mp found
      have topmost' : ∀ g ∈ above.filter (·.tag ≠ e), g.tag ≠ f.tag :=
        fun g hg => topmost g (List.mem_filter.mp hg).1
      have inside : ∀ g ∈ above, g ∈ a.stack := fun g hg => by simp [cut, hg]
      rw [judge_of_cut cut topmost, judge_of_cut (cut_without cut apart) topmost']
      exact ⟨_, idle.judgeAt_without descending f.tag access _ f inside⟩

theorem parentFault?_without {tag : Option Tag} (other : tag ≠ some e) (access : Access) :
    (a.without e).parentFault? tag access = (a.parentFault? tag access).map
      fun fault => (a.without e).faultOf access fault.cause := by
  cases tag with
  | none => rfl
  | some t =>
    have apart : t ≠ e := fun same => other (congrArg some same)
    cases found : a.find t with
    | none =>
      have found' := (find_without_eq_none apart).mpr found
      simp only [parentFault?, found, found']
      rfl
    | some d =>
      obtain ⟨below, f, above, cut, rfl, rfl, topmost⟩ := depthOf_eq_some.mp found
      have topmost' : ∀ g ∈ above.filter (·.tag ≠ e), g.tag ≠ f.tag :=
        fun g hg => topmost g (List.mem_filter.mp hg).1
      rw [parentFault?_of_cut cut topmost, parentFault?_of_cut (cut_without cut apart) topmost']
      split <;> rfl

/-! ## Granting and pushing -/

/-- Frames are popped and disabled alike, whether those of a tag are left out before or after. -/
theorem apply_without (a : Allocation) (e : Tag) (g : Grant) (d : Nat) :
    (a.without e).apply (g.without e d) = (a.apply g).without e := by
  have frames : ((a.stack.filter (·.tag ≠ e)).filter
        (·.tag ∉ g.popped.filter (· ≠ e))).map (disableFrame (g.disabled.filter (· ≠ e))) =
      ((a.stack.filter (·.tag ∉ g.popped)).map (disableFrame g.disabled)).filter (·.tag ≠ e) := by
    induction a.stack with
    | nil => rfl
    | cons f l ih =>
      have tag : (disableFrame g.disabled f).tag = f.tag := by
        unfold disableFrame
        split <;> rfl
      by_cases own : f.tag = e
      · by_cases popped : f.tag ∈ g.popped <;> simp_all
      · have same : disableFrame (g.disabled.filter (· ≠ e)) f = disableFrame g.disabled f := by
          simp [disableFrame, own]
        by_cases popped : f.tag ∈ g.popped <;> simp_all
  exact congrArg (fun l => { a.without e with stack := l }) frames

theorem recordParent_filter (l : List (Tag × Option Tag)) (t : Tag) (parent : Option Tag) :
    (recordParent l t parent).filter (·.1 ≠ e) =
      if t = e then l.filter (·.1 ≠ e) else recordParent (l.filter (·.1 ≠ e)) t parent := by
  induction l with
  | nil => by_cases own : t = e <;> simp [recordParent, own]
  | cons x l ih =>
    obtain ⟨u, p⟩ := x
    by_cases same : u = t
    · by_cases own : t = e <;> simp [recordParent, same, own]
    · by_cases own : t = e
      · simp_all [recordParent]
      · by_cases here : u = e <;> simp_all [recordParent]

/-- A frame of another tag is pushed as before. -/
theorem push_without {f : Frame} (other : f.tag ≠ e) :
    (a.push f).without e = (a.without e).push f := by
  have frames : (a.stack ++ [f]).filter (·.tag ≠ e) = a.stack.filter (·.tag ≠ e) ++ [f] := by
    simp [other]
  simp only [push, without, recordParent_filter, if_neg other, frames]

/-- A frame of the tag is left out again. -/
theorem push_without_self (a : Allocation) (f : Frame) :
    (a.push f).without f.tag = a.without f.tag := by
  have frames : (a.stack ++ [f]).filter (·.tag ≠ f.tag) = a.stack.filter (·.tag ≠ f.tag) := by
    simp
  simp only [push, without, recordParent_filter, if_true, frames]

/-- Where a tag was never pushed, there is nothing to leave out. -/
theorem Valid.without_eq (ha : a.Valid) (absent : e ∉ a.tags) : a.without e = { a with id := 0 } := by
  have frames : a.stack.filter (·.tag ≠ e) = a.stack :=
    List.filter_eq_self.mpr fun f hf =>
      decide_eq_true fun same => absent (same ▸ ha.tag_mem hf)
  have lineages : a.lineage.filter (·.1 ≠ e) = a.lineage :=
    List.filter_eq_self.mpr fun x hx =>
      decide_eq_true fun same => absent (same ▸ List.mem_map_of_mem hx)
  rw [without, frames, lineages]

/-- A tag that was never pushed is idle. -/
theorem Valid.idle_of_not_mem (ha : a.Valid) (absent : e ∉ a.tags) : a.Idle e where
  shared := fun _ hf same => absurd (ha.tag_mem hf) (same ▸ absent)
  derived := fun _ hf same => absurd (ha.tag_mem hf) (same ▸ absent)
  childless := fun t link => absent (ha.closed t e link)

/-- A granted access leaves an idle tag idle. -/
theorem Idle.apply (idle : a.Idle e) (g : Grant) : (a.apply g).Idle e := by
  have origin : ∀ f ∈ (a.apply g).stack, ∃ f₀ ∈ a.stack, f.tag = f₀.tag ∧ f.parent = f₀.parent ∧
      (f.permission = .unique → f₀.permission = .unique) := by
    intro f hf
    obtain ⟨f₀, hf₀, rfl⟩ := List.mem_map.mp hf
    refine ⟨f₀, (List.mem_filter.mp hf₀).1, ?_⟩
    unfold disableFrame
    split
    · exact ⟨rfl, rfl, nofun⟩
    · exact ⟨rfl, rfl, fun live => live⟩
  refine ⟨?_, ?_, idle.childless⟩
  · intro f hf same unique
    obtain ⟨f₀, hf₀, tag, -, live⟩ := origin f hf
    exact idle.shared f₀ hf₀ (tag ▸ same) (live unique)
  · intro f hf same
    obtain ⟨f₀, hf₀, tag, parent, -⟩ := origin f hf
    exact parent ▸ idle.derived f₀ hf₀ (tag ▸ same)

/-- A frame that is pushed leaves a tag idle that is not its parent's, unless it is a unique frame of
    the tag itself. -/
theorem Idle.push (idle : a.Idle e) {f : Frame} (parent : f.parent ≠ some e)
    (own : f.tag = e → f.permission ≠ .unique ∧ f.parent ≠ none) : (a.push f).Idle e := by
  refine ⟨?_, ?_, ?_⟩
  · intro g hg same
    rcases List.mem_append.mp hg with hg | hg
    · exact idle.shared g hg same
    · rw [List.mem_singleton] at hg
      exact hg ▸ (own (hg ▸ same)).1
  · intro g hg same
    rcases List.mem_append.mp hg with hg | hg
    · exact idle.derived g hg same
    · rw [List.mem_singleton] at hg
      exact hg ▸ (own (hg ▸ same)).2
  · intro t
    rw [parentOf_push]
    split
    · exact parent
    · exact idle.childless t

end Allocation

end PointerTrace
