import Mathlib.Data.List.Forall2
import PointerTrace.Proofs.Access

/- Allocations that differ in name, value and mutable flag. Judging looks at the stack, the lineage
   and the interior, so that it comes to the same grant or the same fault, which quotes the other
   name (`judge_recast`, `parentFault?_recast`). `Alike` relates the allocations of two stores
   under a renaming of names; lists of such allocations go hand in hand. -/
namespace PointerTrace

namespace Allocation

/-- The allocation under another name, with another value and another flag. -/
def recast (a : Allocation) (name : String) (value : Int) (isMutable : Bool) : Allocation :=
  { a with name, value, isMutable }

variable (a : Allocation) (name : String) (value : Int) (isMutable : Bool)

theorem lineage_recast : (a.recast name value isMutable).lineage = a.lineage := rfl

theorem isForeignUnique_recast (t : Tag) :
    (a.recast name value isMutable).isForeignUnique t = a.isForeignUnique t :=
  isForeignUnique_congr (a.lineage_recast name value isMutable) t

theorem grantAt_recast (t : Tag) (access : Access) (d : Nat) (above : List Frame) :
    (a.recast name value isMutable).grantAt t access d above = a.grantAt t access d above :=
  grantAt_congr (a.lineage_recast name value isMutable) t access d above

theorem judgeAt_recast (t : Tag) (access : Access) (d : Nat) (f : Frame) (above : List Frame) :
    (a.recast name value isMutable).judgeAt t access d f above =
      (a.judgeAt t access d f above).mapError fun fault => { fault with allocation := name } := by
  have interior : (a.recast name value isMutable).interiorMutable = a.interiorMutable := rfl
  unfold judgeAt
  rw [isForeignUnique_recast, interior, grantAt_recast]
  cases above.find? (a.isForeignUnique t) with
  | some holder => rfl
  | none =>
    dsimp only
    split
    · rfl
    · split <;> rfl

/-- An access is judged alike, but for the name that a fault quotes. -/
theorem judge_recast (tag : Option Tag) (access : Access) :
    (a.recast name value isMutable).judge tag access =
      (a.judge tag access).mapError fun fault => { fault with allocation := name } := by
  cases tag with
  | none => rfl
  | some t =>
    have depth : (a.recast name value isMutable).find t = a.find t := rfl
    have frames : (a.recast name value isMutable).stack = a.stack := rfl
    unfold judge
    dsimp only
    rw [depth, frames]
    cases a.find t with
    | none => rfl
    | some d =>
      dsimp only
      cases a.stack.drop d with
      | nil => rfl
      | cons f above => exact a.judgeAt_recast name value isMutable t access d f above

theorem parentFault?_recast (tag : Option Tag) (access : Access) :
    (a.recast name value isMutable).parentFault? tag access =
      (a.parentFault? tag access).map fun fault => { fault with allocation := name } := by
  cases tag with
  | none => rfl
  | some t =>
    have depth : (a.recast name value isMutable).find t = a.find t := rfl
    have frames : (a.recast name value isMutable).stack = a.stack := rfl
    unfold parentFault?
    dsimp only
    rw [depth, frames]
    cases a.find t with
    | none => rfl
    | some d =>
      dsimp only
      split <;> rfl

/-- The allocations differ in their names as the renaming says, and in their values and flags. -/
def Alike (ρ : String → String) (a b : Allocation) : Prop :=
  ∃ value isMutable, b = a.recast (ρ a.name) value isMutable

end Allocation

/-! ## Lists that go hand in hand -/

theorem forall₂_getElem? {α β : Type} {R : α → β → Prop} {l : List α} {k : List β}
    (h : List.Forall₂ R l k) {n : Nat} {x : α} (here : l[n]? = some x) :
    ∃ y, k[n]? = some y ∧ R x y := by
  induction h generalizing n with
  | nil => cases here
  | @cons a b l k related rest ih =>
    cases n with
    | zero =>
      rw [List.getElem?_cons_zero, Option.some.injEq] at here
      exact ⟨b, rfl, here ▸ related⟩
    | succ n => exact ih here

theorem forall₂_modify {α β : Type} {R : α → β → Prop} {l : List α} {k : List β}
    (h : List.Forall₂ R l k) (n : Nat) {f : α → α} {g : β → β}
    (keeps : ∀ x y, R x y → R (f x) (g y)) : List.Forall₂ R (l.modify n f) (k.modify n g) := by
  induction h generalizing n with
  | nil => cases n <;> exact .nil
  | cons related rest ih =>
    cases n with
    | zero => exact .cons (keeps _ _ related) rest
    | succ n => exact .cons related (ih n)

theorem forall₂_find? {α β : Type} {R : α → β → Prop} {l : List α} {k : List β}
    (h : List.Forall₂ R l k) {q : α → Bool} {w : β → Bool} (same : ∀ x y, R x y → w y = q x)
    {x : α} (found : l.find? q = some x) : ∃ y, k.find? w = some y ∧ R x y := by
  induction h with
  | nil => cases found
  | @cons a b l k related rest ih =>
    have here := same a b related
    cases hit : q a with
    | true =>
      rw [List.find?_cons_of_pos hit, Option.some.injEq] at found
      exact ⟨b, List.find?_cons_of_pos (here.trans hit), found ▸ related⟩
    | false =>
      rw [List.find?_cons_of_neg (by simp [hit])] at found
      obtain ⟨y, found', related'⟩ := ih found
      exact ⟨y, (List.find?_cons_of_neg (by simp [here, hit])).trans found', related'⟩

theorem stacks_alike {ρ : String → String} {l k : List Allocation}
    (h : List.Forall₂ (Allocation.Alike ρ) l k) :
    k.map (fun a => (a.name, a.stack)) = l.map fun a => (ρ a.name, a.stack) := by
  induction h with
  | nil => rfl
  | cons related rest ih =>
    obtain ⟨value, isMutable, rfl⟩ := related
    rw [List.map_cons, List.map_cons, ih]
    rfl

theorem find?_alike {ρ : String → String} {l k : List Allocation}
    (h : List.Forall₂ (Allocation.Alike ρ) l k) {x : String}
    (apart : ∀ a ∈ l, ρ a.name = ρ x → a.name = x) {a : Allocation}
    (named : l.find? (·.name = x) = some a) :
    ∃ b, k.find? (·.name = ρ x) = some b ∧ a.Alike ρ b := by
  induction h with
  | nil => cases named
  | @cons c d l k related rest ih =>
    obtain ⟨value, isMutable, rfl⟩ := related
    obtain ⟨first, later⟩ := List.forall_mem_cons.mp apart
    by_cases same : c.name = x
    · rw [List.find?_cons_of_pos (by simpa using same), Option.some.injEq] at named
      subst named
      have mine : (c.recast (ρ c.name) value isMutable).name = ρ x := congrArg ρ same
      exact ⟨_, List.find?_cons_of_pos (by simpa using mine), value, isMutable, rfl⟩
    · rw [List.find?_cons_of_neg (by simpa using same)] at named
      obtain ⟨b, named', alike⟩ := ih later named
      have other : (c.recast (ρ c.name) value isMutable).name ≠ ρ x :=
        fun collide => same (first collide)
      exact ⟨b, (List.find?_cons_of_neg (by simpa using other)).trans named', alike⟩

end PointerTrace
