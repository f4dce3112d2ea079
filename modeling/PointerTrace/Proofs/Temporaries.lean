import PointerTrace.Proofs.DisplayedLines
import PointerTrace.Proofs.Renaming
import PointerTrace.Proofs.Rendering
import PointerTrace.Proofs.Respacing

/- Temporaries. A temporary is told from its number and from every name that a text can hold, so that
   other names can be put in its place (`Program.exchange`). In what the statements of a text stand
   for, the temporaries are threaded: each is bound by one operation and taken by the next
   (`Action.Threads`), and their numbers go up by one (`Trace.bound_meaning`). -/
namespace PointerTrace

open Trace

namespace Program

/-! ## Names of temporaries -/

variable {n k : Nat} {name : String}

/-- The number of a temporary. -/
def temporaryNumber? (name : String) : Option Nat :=
  let n := Decimal.value (name.toList.drop 1)
  if temporary n = name then some n else none

/-- A name with another one in its place when it is a temporary. -/
def exchange (other : Nat → String) (name : String) : String :=
  (temporaryNumber? name).elim name other

theorem toList_temporary (n : Nat) : (temporary n).toList = '%' :: (Decimal.ofNat n).toList := by
  rw [temporary, String.toList_append]
  rfl

theorem temporaryNumber?_eq_some : temporaryNumber? name = some n ↔ name = temporary n := by
  constructor
  · intro number
    obtain ⟨same, value⟩ := Option.ite_none_right_eq_some.mp number
    rw [← same, Option.some.inj value]
  · rintro rfl
    have digits : Decimal.value ((temporary n).toList.drop 1) = n := by
      rw [toList_temporary, List.drop_succ_cons, List.drop_zero, Decimal.value_ofNat]
    simp only [temporaryNumber?, digits, if_true]

@[simp] theorem temporaryNumber?_temporary (n : Nat) : temporaryNumber? (temporary n) = some n :=
  temporaryNumber?_eq_some.mpr rfl

theorem temporary_inj : temporary n = temporary k ↔ n = k := by
  rw [← temporaryNumber?_eq_some, temporaryNumber?_temporary, Option.some.injEq]

/-- No text can hold a temporary. -/
theorem not_isName_temporary (n : Nat) : ¬ IsName (temporary n) := by
  intro named
  have word := named.1
  rw [toList_temporary] at word
  cases word

end Program

theorem Trace.IsName.temporaryNumber? {name : String} (named : IsName name) :
    Program.temporaryNumber? name = none := by
  rw [Option.eq_none_iff_forall_ne_some]
  intro n number
  rw [Program.temporaryNumber?_eq_some.mp number] at named
  exact Program.not_isName_temporary n named

namespace Program

variable {other : Nat → String}

@[simp] theorem exchange_temporary (n : Nat) : exchange other (temporary n) = other n := by
  simp [exchange]

theorem exchange_of_none {name : String} (free : temporaryNumber? name = none) :
    exchange other name = name := by
  rw [exchange, free]
  rfl

end Program

namespace Action

/-- The number of the temporary that an operation binds. -/
def bound? (a : Action) : Option Nat := a.result?.bind Program.temporaryNumber?

/-- The number of the temporary that an operation takes. -/
def taken? (a : Action) : Option Nat := a.operand?.bind Program.temporaryNumber?

theorem bound?_eq_some {a : Action} {n : Nat} :
    a.bound? = some n ↔ a.result? = some (Program.temporary n) := by
  simp [bound?, Option.bind_eq_some_iff, Program.temporaryNumber?_eq_some]

theorem taken?_eq_some {a : Action} {n : Nat} :
    a.taken? = some n ↔ a.operand? = some (Program.temporary n) := by
  simp [taken?, Option.bind_eq_some_iff, Program.temporaryNumber?_eq_some]

/-- Each operation takes the temporary that the one before it binds, if there is any, and no other one.
    The first takes a given one, and the last leaves one. -/
def Threads (i : Option Nat) (l : List Action) (j : Option Nat) : Prop :=
  i :: l.map bound? = l.map taken? ++ [j]

namespace Threads

variable {l k : List Action} {i j h : Option Nat} {a : Action} {m n : Nat}

theorem nil (i : Option Nat) : Threads i [] i := rfl

theorem single (takes : a.taken? = i) (binds : a.bound? = j) : Threads i [a] j := by
  subst takes binds
  rfl

theorem append (first : Threads i l j) (second : Threads j k h) : Threads i (l ++ k) h := by
  have both : i :: (l ++ k).map bound? = (l ++ k).map taken? ++ [h] := by
    calc i :: (l ++ k).map bound?
        = (i :: l.map bound?) ++ k.map bound? := by rw [List.map_append, List.cons_append]
      _ = l.map taken? ++ (j :: k.map bound?) := by
          rw [show i :: l.map bound? = _ from first, List.append_assoc, List.singleton_append]
      _ = (l ++ k).map taken? ++ [h] := by
          rw [show j :: k.map bound? = _ from second, List.map_append, List.append_assoc]
  exact both

/-- What one operation binds the next one takes. -/
theorem next (threads : Threads i l none) (here : l[n]? = some a) (binds : a.bound? = some m) :
    ∃ b, l[n + 1]? = some b ∧ b.taken? = some m := by
  have after : (i :: l.map bound?)[n + 1]? = (l.map taken? ++ [none])[n + 1]? :=
    congrArg (fun numbers => numbers[n + 1]?) threads
  rw [List.getElem?_cons_succ, List.getElem?_map, here, Option.map_some, binds,
    List.getElem?_append] at after
  split at after
  · rw [List.getElem?_map, eq_comm, Option.map_eq_some_iff] at after
    exact after
  · rw [eq_comm, List.getElem?_singleton] at after
    split at after <;> cases after

/-- What one operation takes was bound by the one before it. -/
theorem previous (threads : Threads none l j) (here : l[n]? = some a) (takes : a.taken? = some m) :
    ∃ k b, n = k + 1 ∧ l[k]? = some b ∧ b.bound? = some m := by
  have inside : n < (l.map taken?).length := by
    rw [List.length_map]
    exact (List.getElem?_eq_some_iff.mp here).1
  have before : (none :: l.map bound?)[n]? = (l.map taken? ++ [j])[n]? :=
    congrArg (fun numbers => numbers[n]?) threads
  rw [List.getElem?_append_left inside, List.getElem?_map, here, Option.map_some, takes] at before
  cases n with
  | zero => cases before
  | succ n =>
    rw [List.getElem?_cons_succ, List.getElem?_map, Option.map_eq_some_iff] at before
    obtain ⟨b, found, binds⟩ := before
    exact ⟨n, b, rfl, found, binds⟩

end Threads

end Action

namespace Trace

/-! ## Names in statements -/

/-- The name that an expression starts from. -/
def Primary.written : Primary → String
  | .name source => source
  | .borrow _ target => target

/-- The names of variables and pointers in a statement. -/
def Statement.names : Statement → List String
  | .binding _ name _ (.deref source) => [name, source]
  | .binding _ name _ (.pointer e) => [name, e.primary.written]
  | .binding _ name _ _ => [name]
  | .deref source _ => [source]
  | .assign name _ => [name]
  | .call _ e => [e.primary.written]

/-- The links of the chain in a statement. -/
def Statement.links : Statement → List Link
  | .binding _ _ _ (.pointer e) => e.links
  | .call _ e => e.links
  | _ => []

variable {l : List Symbol} {s : Statement} {e : PointerExpr}

theorem IsPointer.written_mem (spelled : IsPointer l e) : Symbol.name e.primary.written ∈ l := by
  cases spelled with
  | mk start more => cases start <;> simp [Primary.written]

/-- The names of a statement are among its tokens. -/
theorem IsStatement.name_mem (spelled : IsStatement l s) : ∀ n ∈ s.names, Symbol.name n ∈ l := by
  cases spelled with
  | binding isMutable name typed bound =>
    cases bound with
    | value | cell => simp [Statement.names]
    | deref source => simp [Statement.names]
    | pointer pointer => simp [Statement.names, pointer.written_mem]
  | deref | derefAssign | assign => simp [Statement.names]
  | call function argument => simp [Statement.names, argument.written_mem]

/-- A name that a text holds is a name of the language. -/
theorem Symbol.IsWritten.isName {name : String} (written : (Symbol.name name).IsWritten) :
    IsName name := by
  obtain ⟨rest, lexeme, spelled⟩ := written
  generalize same : Symbol.name name = s at spelled
  cases spelled with
  | newline | number => cases same
  | word word own ends =>
    subst same
    refine ⟨word, fun keyword => ?_⟩
    have all : ∀ word ∈ keywords, Symbol.ofWord word ≠ .name word := by decide
    exact all name keyword own
  | mark known single =>
    subst same
    simp [Symbol.marks] at known

/-- The names in the statements of a text are names of the language. -/
theorem isName_of_readStatements {source file : String} {ts : Tokens} {l : List (Location × Statement)}
    (tokens : tokenize source file = .ok ts) (read : readStatements ts = .ok l) :
    ∀ x ∈ l, ∀ n ∈ x.2.names, IsName n := by
  rintro ⟨place, s⟩ known n inside
  obtain ⟨segment, here, spells⟩ := exists_segment read known
  have written := segment_subset here
  generalize segment.tokens = tokens' at spells written
  cases spells with
  | statement spelled =>
    obtain ⟨t, among, symbol⟩ := List.mem_map.mp (spelled.name_mem n inside)
    have held := isWritten_of_tokenize tokens t (written among)
    rw [symbol] at held
    exact held.isName

/-! ## Threads -/

section Chains

open Program (temporary temporaryNumber?)
open PointerTrace.Action (Threads)

variable {used n : Nat} {start : String} {result : Option String} {links : List Link}

theorem Link.bound?_action (link : Link) (source result : String) :
    (link.action source result).bound? = temporaryNumber? result := by
  cases link with
  | borrow => rfl
  | cast cast => cases cast <;> rfl

theorem Link.taken?_cast (cast : Cast) (source result : String) :
    ((Link.cast cast).action source result).taken? = temporaryNumber? source := by
  cases cast <;> rfl

/-- What the links of a chain bind, in order. -/
theorem map_bound?_chainOperations : (chainOperations result start used links).map Action.bound? =
    (List.range links.length).map fun i => temporaryNumber? (boundAt result used links.length i) := by
  apply List.ext_getElem
  · simp [chainOperations]
  · simp [chainOperations, Link.bound?_action]

/-- What the links of an expression take, in order. A borrow takes no pointer, and it stands first. -/
theorem map_taken?_chainOperations (e : PointerExpr) :
    (chainOperations result e.start used e.links).map Action.taken? =
      (List.range e.links.length).map fun i =>
        temporaryNumber? (operandAt result e.start used e.links.length i) := by
  apply List.ext_getElem
  · simp [chainOperations]
  · intro i here here'
    obtain ⟨primary, casts⟩ := e
    cases primary with
    | name source => simp [chainOperations, PointerExpr.links, Link.taken?_cast]
    | borrow kind target =>
      cases i with
      | zero =>
        simp only [chainOperations, List.getElem_map, List.getElem_mapIdx, List.getElem_range]
        rfl
      | succ i => simp [chainOperations, PointerExpr.links, Link.taken?_cast]

/-- The links of an expression are threaded. -/
theorem threads_chainOperations (e : PointerExpr) : Threads (temporaryNumber? e.start)
    (chainOperations result e.start used e.links)
    (temporaryNumber? (operandAt result e.start used e.links.length e.links.length)) := by
  rw [Threads, map_bound?_chainOperations, map_taken?_chainOperations]
  generalize e.links.length = n
  have pointers (k : Nat) : (List.range (k + 1)).map (fun i =>
      temporaryNumber? (operandAt result e.start used n i)) = temporaryNumber? e.start ::
        (List.range k).map fun i => temporaryNumber? (boundAt result used n i) := by
    rw [List.range_succ_eq_map, List.map_cons, List.map_map]
    rfl
  rw [← pointers, List.range_succ, List.map_append]
  rfl

/-- The pointer of a chain that is given a name has that name. -/
theorem operandAt_length {name : String} (some : links ≠ []) :
    operandAt (.some name) start used links.length links.length = name := by
  obtain ⟨link, rest, rfl⟩ := List.exists_cons_of_ne_nil some
  exact if_pos rfl

theorem temporaryNumber?_start {e : PointerExpr} (named : IsName e.primary.written) :
    temporaryNumber? e.start = none := by
  obtain ⟨primary, casts⟩ := e
  cases primary with
  | name source => exact named.temporaryNumber?
  | borrow kind target => rfl

/-- What a statement stands for is threaded. -/
theorem Statement.threads {s : Statement} (named : ∀ n ∈ s.names, IsName n) (used : Nat) :
    Threads none (s.meaning used) none := by
  cases s with
  | binding isMutable name isCell init =>
    have name' : IsName name := named name (by cases init <;> simp [Statement.names])
    have binds := name'.temporaryNumber?
    cases init with
    | value => exact .single rfl binds
    | cell => exact .single rfl binds
    | deref source =>
      have source' : IsName source := named source (by simp [Statement.names])
      exact .single source'.temporaryNumber? rfl
    | pointer e =>
      have takes := temporaryNumber?_start (named e.primary.written (by simp [Statement.names]))
      by_cases bare : e.links = []
      · rw [Statement.meaning, if_pos bare]
        exact .single takes rfl
      · have threads : Threads _ (chainOperations (some name) e.start used e.links) _ :=
          threads_chainOperations e
        rw [takes, operandAt_length bare, binds] at threads
        rwa [Statement.meaning, if_neg bare]
  | deref source value =>
    have source' : IsName source := named source (by simp [Statement.names])
    cases value <;> exact .single source'.temporaryNumber? rfl
  | assign name value =>
    have name' : IsName name := named name (by simp [Statement.names])
    exact .single name'.temporaryNumber? rfl
  | call function e =>
    have takes := temporaryNumber?_start (named e.primary.written (by simp [Statement.names]))
    rw [← takes]
    exact (threads_chainOperations e).append (.single rfl takes.symm)

/-- The numbers of the temporaries that links bind. -/
theorem filterMap_bound?_chainOperations :
    (chainOperations result start used links).filterMap Action.bound? =
      (List.range links.length).filterMap fun i =>
        temporaryNumber? (boundAt result used links.length i) := by
  calc (chainOperations result start used links).filterMap Action.bound?
      = ((chainOperations result start used links).map Action.bound?).filterMap id := by
        rw [List.filterMap_map]
        rfl
    _ = _ := by
        rw [map_bound?_chainOperations, List.filterMap_map]
        rfl

/-- A link that binds a temporary takes the next number. -/
theorem temporaryNumber?_boundAt {i : Nat} (inner : result = none ∨ i + 1 < n) :
    temporaryNumber? (boundAt result used n i) = some (used + 1 + i) := by
  have next : boundAt result used n i = temporary (used + i + 1) := by
    cases result with
    | none => rfl
    | some name =>
      have before : ¬ i + 1 = n := by
        rcases inner with none | before
        · cases none
        · exact Nat.ne_of_lt before
      exact if_neg before
  rw [next, Program.temporaryNumber?_temporary, Nat.add_right_comm]

theorem filterMap_range (used k : Nat) :
    ((List.range k).filterMap fun i => some (used + 1 + i)) = List.range' (used + 1) k := by
  rw [List.filterMap_eq_map', List.range'_eq_map_range]

theorem bound?_of_unnamed : (chainOperations none start used links).filterMap Action.bound? =
    List.range' (used + 1) links.length := by
  simp only [filterMap_bound?_chainOperations, temporaryNumber?_boundAt (.inl rfl), filterMap_range]

/-- The last link binds the name that is given, and those before it bind temporaries. -/
theorem bound?_of_named {name : String} (free : temporaryNumber? name = none) :
    (chainOperations (some name) start used links).filterMap Action.bound? =
      List.range' (used + 1) (links.length - 1) := by
  rw [filterMap_bound?_chainOperations]
  cases links.length with
  | zero => rfl
  | succ k =>
    have last : [k].filterMap (fun i => temporaryNumber? (boundAt (some name) used (k + 1) i)) = [] := by
      simp [boundAt, free]
    have inner : ∀ i ∈ List.range k, temporaryNumber? (boundAt (some name) used (k + 1) i) =
        some (used + 1 + i) := fun i inside =>
      temporaryNumber?_boundAt (.inr (Nat.succ_lt_succ (List.mem_range.mp inside)))
    rw [List.range_succ, List.filterMap_append, List.filterMap_congr inner, filterMap_range, last]
    exact List.append_nil _

/-- The numbers of the temporaries that a statement binds go up by one. -/
theorem Statement.filterMap_bound? {s : Statement} (named : ∀ n ∈ s.names, IsName n) (used : Nat) :
    (s.meaning used).filterMap Action.bound? = List.range' (used + 1) s.temporaryCount := by
  cases s with
  | binding isMutable name isCell init =>
    have name' : IsName name := named name (by cases init <;> simp [Statement.names])
    have free := name'.temporaryNumber?
    cases init with
    | value | cell => simp [Statement.meaning, Statement.temporaryCount, Action.bound?,
        Action.result?, free]
    | deref source => rfl
    | pointer e =>
      by_cases bare : e.links = []
      · rw [Statement.meaning, if_pos bare, Statement.temporaryCount, bare]
        rfl
      · rw [Statement.meaning, if_neg bare, bound?_of_named free]
        rfl
  | deref source value => cases value <;> rfl
  | assign name value => rfl
  | call function e =>
    rw [Statement.meaning, List.filterMap_append, bound?_of_unnamed]
    exact List.append_nil _

theorem actions_meaning_cons (used : Nat) (place : Location) (s : Statement)
    (l : List (Location × Statement)) : (meaning used ((place, s) :: l)).map Operation.action =
      s.meaning used ++ (meaning (used + s.temporaryCount) l).map Operation.action := by
  simp [meaning, Function.comp_def]

/-- What the statements of a text stand for is threaded, and the numbers of its temporaries go up by
    one. -/
theorem bound_meaning {l : List (Location × Statement)} (named : ∀ x ∈ l, ∀ n ∈ x.2.names, IsName n)
    (used : Nat) : Threads none ((meaning used l).map Operation.action) none ∧
      ((meaning used l).map Operation.action).filterMap Action.bound? =
        List.range' (used + 1) (temporaryCount l) := by
  induction l generalizing used with
  | nil => exact ⟨.nil none, rfl⟩
  | cons x l ih =>
    obtain ⟨place, s⟩ := x
    obtain ⟨own, others⟩ := List.forall_mem_cons.mp named
    obtain ⟨threads, numbers⟩ := ih others (used + s.temporaryCount)
    have count : List.range' (used + s.temporaryCount + 1) (temporaryCount l) =
        List.range' (used + 1 + s.temporaryCount) (temporaryCount l) := by
      rw [Nat.add_right_comm]
    constructor
    · rw [actions_meaning_cons]
      exact (s.threads own used).append threads
    · rw [actions_meaning_cons, List.filterMap_append, s.filterMap_bound? own, numbers, count, temporaryCount,
        List.range'_append_1]

/-! ## Names in operations -/

/-- A name of the language or a temporary. -/
def IsKnown (name : String) : Prop := IsName name ∨ ∃ n, name = temporary n

/-- An operation of a text mentions names of the language and temporaries, and borrows no temporary. -/
structure OfText (a : Action) : Prop where
  mentioned : ∀ x ∈ a.mentioned, IsKnown x
  target : ∀ target kind result, a = .borrow target kind result → IsName target

theorem ofText_of_isName {a : Action} (named : ∀ x ∈ a.mentioned, IsName x) : OfText a := by
  refine ⟨fun x mentions => .inl (named x mentions), ?_⟩
  rintro target kind result rfl
  exact named target List.mem_cons_self

theorem ofText_cast (cast : Cast) {source : String} (takes : IsKnown source) {bound : String}
    (binds : IsKnown bound) : OfText ((Link.cast cast).action source bound) := by
  have known : ∀ x ∈ [source, bound], IsKnown x := by simp [takes, binds]
  cases cast <;> exact ⟨known, by rintro _ _ _ ⟨⟩⟩

theorem isKnown_boundAt (results : ∀ name ∈ result, IsName name) (i : Nat) :
    IsKnown (boundAt result used n i) := by
  cases result with
  | none => exact .inr ⟨_, rfl⟩
  | some name =>
    rw [boundAt]
    split
    · exact .inl (results name rfl)
    · exact .inr ⟨_, rfl⟩

/-- A borrow in an expression is of the variable that is written there. -/
theorem written_of_borrow {e : PointerExpr} {kind : BorrowKind} {target : String}
    (known : Link.borrow kind target ∈ e.links) : e.primary.written = target := by
  obtain ⟨primary, casts⟩ := e
  cases primary with
  | name => simp [PointerExpr.links] at known
  | borrow kind' target' =>
    obtain ⟨-, same⟩ : kind = kind' ∧ target = target' := by simpa [PointerExpr.links] using known
    exact same.symm

theorem start_of_links {e : PointerExpr} (bare : e.links = []) : e.start = e.primary.written := by
  obtain ⟨primary, casts⟩ := e
  cases primary with
  | name => rfl
  | borrow => cases bare

/-- A cast is the first link only of an expression that starts from a name. -/
theorem start_of_cast {e : PointerExpr} {cast : Cast} (first : e.links[0]? = some (.cast cast)) :
    e.start = e.primary.written := by
  obtain ⟨primary, casts⟩ := e
  cases primary with
  | name => rfl
  | borrow => cases first

/-- The operations of a chain mention the name that is written there, the one that is bound, and
    temporaries. -/
theorem ofText_chainOperations {e : PointerExpr} (results : ∀ name ∈ result, IsName name)
    (written : IsName e.primary.written) :
    ∀ a ∈ chainOperations result e.start used e.links, OfText a := by
  intro a inside
  obtain ⟨i, here, rfl⟩ := List.mem_mapIdx.mp inside
  have binds (i : Nat) : IsKnown (boundAt result used e.links.length i) := isKnown_boundAt results i
  have known : e.links[i] ∈ e.links := List.getElem_mem here
  generalize link : e.links[i] = x at known ⊢
  cases x with
  | borrow kind target =>
    have target' : IsName target := written_of_borrow known ▸ written
    refine ⟨List.forall_mem_cons.mpr ⟨.inl target', List.forall_mem_singleton.mpr (binds i)⟩, ?_⟩
    rintro _ _ _ ⟨⟩
    exact target'
  | cast cast =>
    have takes : IsKnown (operandAt result e.start used e.links.length i) := by
      cases i with
      | zero =>
        rw [List.getElem_eq_iff] at link
        exact .inl (start_of_cast link ▸ written)
      | succ i => exact binds i
    exact ofText_cast cast takes (binds i)

/-- The operations of a statement mention its names, and temporaries. -/
theorem Statement.ofText {s : Statement} (named : ∀ n ∈ s.names, IsName n) (used : Nat) :
    ∀ a ∈ s.meaning used, OfText a := by
  -- an operation that binds nothing, or the name of its statement, and takes a name of the statement
  have single {a : Action} {x : String} (mentions : a.mentioned = [x]) (named : IsName x) :
      ∀ b ∈ [a], OfText b := by
    rw [List.forall_mem_singleton]
    exact ofText_of_isName (mentions ▸ List.forall_mem_singleton.mpr named)
  cases s with
  | binding isMutable name isCell init =>
    have name' : IsName name := named name (by cases init <;> simp [Statement.names])
    cases init with
    | value | cell => exact single rfl name'
    | deref source => exact single rfl (named source (by simp [Statement.names]))
    | pointer e =>
      have written : IsName e.primary.written := named _ (by simp [Statement.names])
      by_cases bare : e.links = []
      · rw [Statement.meaning, if_pos bare]
        exact single rfl (start_of_links bare ▸ written)
      · rw [Statement.meaning, if_neg bare]
        exact ofText_chainOperations (fun other same => Option.some.inj same ▸ name') written
  | deref source value => cases value <;> exact single rfl (named source (by simp [Statement.names]))
  | assign name value => exact single rfl (named name (by simp [Statement.names]))
  | call function e =>
    have written : IsName e.primary.written := named _ (by simp [Statement.names])
    have unnamed : ∀ name ∈ (none : Option String), IsName name := by simp
    have last : IsKnown (operandAt none e.start used e.links.length e.links.length) := by
      cases links : e.links with
      | nil => exact .inl (start_of_links links ▸ written)
      | cons => exact .inr ⟨_, rfl⟩
    refine List.forall_mem_append.mpr ⟨ofText_chainOperations unnamed written, ?_⟩
    exact List.forall_mem_singleton.mpr ⟨List.forall_mem_singleton.mpr last, by rintro _ _ _ ⟨⟩⟩

/-- The operations of the statements of a text mention the names in it, and temporaries. -/
theorem ofText_meaning {l : List (Location × Statement)} (named : ∀ x ∈ l, ∀ n ∈ x.2.names, IsName n)
    (used : Nat) : ∀ op ∈ meaning used l, OfText op.action := by
  intro op inside
  obtain ⟨place, s, used', known, action, -⟩ := mem_meaning inside
  exact s.ofText (named _ known) used' op.action action

/-! ## Other names in place of temporaries -/

theorem Link.rename_action {ρ : String → String} {e : PointerExpr} {link : Link} (known : link ∈ e.links)
    (fixed : ρ e.primary.written = e.primary.written) (source result : String) :
    (link.action source result).rename ρ = link.action (ρ source) (ρ result) := by
  cases link with
  | borrow kind target =>
    have target' : ρ target = target := written_of_borrow known ▸ fixed
    simp [Link.action, Action.rename, target']
  | cast cast => cases cast <;> rfl

/-- A chain with its names changed is what its links stand for with these names. -/
theorem rename_chainOperations {ρ : String → String} {e : PointerExpr}
    (fixed : ρ e.primary.written = e.primary.written) :
    (chainOperations result e.start used e.links).map (Action.rename ρ) =
      e.links.mapIdx fun i link => link.action
        (ρ (operandAt result e.start used e.links.length i)) (ρ (boundAt result used e.links.length i)) := by
  apply List.ext_getElem
  · simp [chainOperations]
  · intro i here here'
    simp [chainOperations, Link.rename_action (List.getElem_mem _) fixed]

/-- What a statement without links stands for has no temporaries in it. -/
theorem Statement.rename_plain {ρ : String → String} {s : Statement} (plain : s.links = [])
    (fixed : ∀ x ∈ s.names, ρ x = x) (used n : Nat) :
    (s.meaning used).map (Action.rename ρ) = s.meaning n := by
  cases s with
  | binding isMutable name isCell init =>
    have name' : ρ name = name := fixed name (by cases init <;> simp [Statement.names])
    cases init with
    | value | cell => simp [Statement.meaning, Action.rename, name']
    | deref source =>
      simp [Statement.meaning, Action.rename, fixed source (by simp [Statement.names])]
    | pointer e =>
      have bare : e.links = [] := plain
      have start : ρ e.start = e.start := by
        rw [start_of_links bare]
        exact fixed _ (by simp [Statement.names])
      simp [Statement.meaning, bare, Action.rename, start]
  | deref source value =>
    cases value <;> simp [Statement.meaning, Action.rename, fixed source (by simp [Statement.names])]
  | assign name value =>
    simp [Statement.meaning, Action.rename, fixed name (by simp [Statement.names])]
  | call function e =>
    have bare : e.links = [] := plain
    have start : ρ e.start = e.start := by
      rw [start_of_links bare]
      exact fixed _ (by simp [Statement.names])
    simp [Statement.meaning, bare, chainOperations, operandAt, Action.rename, start]

end Chains

end Trace

namespace Program

/-! ## Temporaries of a program -/

variable {source file : String} {name : Option String} {p : Program} {checkBindings : Bool}

/-- What the operations of a text look like. -/
theorem of_parsed (parsed : parse source file name = .ok p) :
    Action.Threads none p.actions none ∧
    p.actions.filterMap Action.bound? = List.range' 1 p.temporaries ∧
    ∀ a ∈ p.actions, OfText a := by
  obtain ⟨ts, l, tokens, read, rfl⟩ := of_parse_eq_ok parsed
  have named := isName_of_readStatements tokens read
  obtain ⟨threads, numbers⟩ := bound_meaning named 0
  refine ⟨threads, numbers, ?_⟩
  intro a inside
  obtain ⟨op, known, rfl⟩ := List.mem_map.mp inside
  exact ofText_meaning named 0 op known

theorem head_temporary (n : Nat) : (temporary n).toList.head? = some '%' := by
  rw [toList_temporary]
  rfl

theorem not_marked_of_isName {x : String} (named : IsName x) : ¬ x.toList.head? = some '%' := by
  intro marked
  obtain ⟨more, split⟩ := List.head?_eq_some_iff.mp marked
  have word := named.1
  rw [split] at word
  cases word

/-- Results that start with the mark of temporaries are temporaries, in order. -/
theorem marked_results (numbers : p.actions.filterMap Action.bound? = List.range' 1 p.temporaries)
    (ofText : ∀ a ∈ p.actions, OfText a) :
    (p.actions.filterMap Action.result?).filter (fun x => x.toList.head? = some '%') =
      (List.range p.temporaries).map fun i => temporary (i + 1) := by
  have each (l : List Action) (ofText : ∀ a ∈ l, OfText a) :
      (l.filterMap Action.result?).filter (fun x => x.toList.head? = some '%') =
        (l.filterMap Action.bound?).map temporary := by
    induction l with
    | nil => rfl
    | cons a l ih =>
      obtain ⟨own, others⟩ := List.forall_mem_cons.mp ofText
      cases binds : a.result? with
      | none =>
        have none : a.bound? = none := by rw [Action.bound?, binds]; rfl
        rw [List.filterMap_cons_none binds, List.filterMap_cons_none none, ih others]
      | some x =>
        rw [List.filterMap_cons_some binds]
        rcases own.mentioned x (Action.result_mem binds) with named | ⟨n, rfl⟩
        · have none : a.bound? = none := by
            rw [Action.bound?, binds]
            exact named.temporaryNumber?
          rw [List.filter_cons_of_neg (by simpa using not_marked_of_isName named),
            List.filterMap_cons_none none, ih others]
        · have some : a.bound? = some n := Action.bound?_eq_some.mpr binds
          rw [List.filter_cons_of_pos (by simpa using head_temporary n),
            List.filterMap_cons_some some, ih others, List.map_cons]
  rw [each p.actions ofText, numbers, List.range'_eq_map_range, List.map_map]
  exact List.map_congr_left fun i _ => congrArg temporary (Nat.add_comm 1 i)

section Linear

variable (threads : Action.Threads none p.actions none)
  (numbers : p.actions.filterMap Action.bound? = List.range' 1 p.temporaries)
include numbers

/-- No temporary is bound twice. -/
theorem index_of_bound {n k i : Nat} {a b : Action} (here : p.actions[n]? = some a)
    (here' : p.actions[k]? = some b) (binds : a.bound? = some i) (binds' : b.bound? = some i) :
    n = k := by
  have apart : p.actions.Pairwise fun a b =>
      ∀ x, a.bound? = some x → ∀ y, b.bound? = some y → x ≠ y := by
    rw [← List.pairwise_filterMap, numbers]
    exact List.nodup_range'
  rw [List.pairwise_iff_getElem] at apart
  obtain ⟨inside, rfl⟩ := List.getElem?_eq_some_iff.mp here
  obtain ⟨inside', rfl⟩ := List.getElem?_eq_some_iff.mp here'
  rcases Nat.lt_trichotomy n k with before | same | behind
  · exact absurd rfl (apart n k inside inside' before i binds i binds')
  · exact same
  · exact absurd rfl (apart k n inside' inside behind i binds' i binds)

include threads

/-- A temporary is bound once, and taken once, by the next operation. -/
theorem bound_and_taken {i : Nat} (inside : i < p.temporaries) :
    ∃ n a b, p.actions[n]? = some a ∧ a.result? = some (temporary (i + 1)) ∧
      p.actions[n + 1]? = some b ∧ b.operand? = some (temporary (i + 1)) ∧
      ∀ m c, p.actions[m]? = some c → (c.result? = some (temporary (i + 1)) → m = n) ∧
        (c.operand? = some (temporary (i + 1)) → m = n + 1) := by
  have issued : i + 1 ∈ p.actions.filterMap Action.bound? := by
    rw [numbers, List.mem_range'_1]
    omega
  obtain ⟨a, known, binds⟩ := List.mem_filterMap.mp issued
  obtain ⟨n, here⟩ := List.mem_iff_getElem?.mp known
  obtain ⟨b, next, takes⟩ := threads.next here binds
  refine ⟨n, a, b, here, Action.bound?_eq_some.mp binds, next, Action.taken?_eq_some.mp takes, ?_⟩
  intro m c found
  constructor
  · intro result
    exact index_of_bound numbers found here (Action.bound?_eq_some.mpr result) binds
  · intro operand
    obtain ⟨k, d, rfl, before, binds'⟩ := threads.previous found (Action.taken?_eq_some.mpr operand)
    rw [index_of_bound numbers before here binds' binds]

/-- No temporary is reported as bound twice or as unknown. -/
theorem not_reported (ofText : ∀ a ∈ p.actions, OfText a) {issue : Issue}
    (reported : issue ∈ p.issues checkBindings) (n : Nat) :
    (∀ index, issue.cause ≠ .duplicateName (temporary n) index) ∧
    (∀ index, issue.cause ≠ .unknownPointer (temporary n) index) ∧
    ∀ index, issue.cause ≠ .unknownAllocation (temporary n) index := by
  rw [issues_eq, List.mem_flatMap] at reported
  obtain ⟨k, -, reported⟩ := reported
  obtain ⟨op, here, problem, -⟩ := mem_issuesAt.mp reported
  have acted (k : Nat) (op : Operation) (here : p.operations[k]? = some op) :
      p.actions[k]? = some op.action := by
    rw [actions, List.getElem?_map, here]
    rfl
  have here' := acted k op here
  have inside : op.action ∈ p.actions := List.mem_of_getElem? here'
  generalize issue.cause = cause at problem
  generalize op.action = act at problem here' inside
  refine ⟨?_, ?_, ?_⟩
  · rintro index rfl
    cases problem with
    | duplicateName result taken =>
      obtain ⟨j, op', before, found, binds⟩ := taken
      have same := index_of_bound numbers (acted j op' found) here' (Action.bound?_eq_some.mpr binds)
        (Action.bound?_eq_some.mpr result)
      omega
  · rintro index rfl
    cases problem with
    | unknownPointer operand missing =>
      obtain ⟨j, b, rfl, found, binds⟩ := threads.previous here' (Action.taken?_eq_some.mpr operand)
      rw [actions, List.getElem?_map, Option.map_eq_some_iff] at found
      obtain ⟨op', found, rfl⟩ := found
      exact missing ⟨j, op', Nat.lt_succ_self j, found, Action.bound?_eq_some.mp binds⟩
  · rintro index rfl
    cases problem with
    | unknownAllocation missing =>
      exact not_isName_temporary n ((ofText _ inside).target _ _ _ rfl)

end Linear

end Program

end PointerTrace
