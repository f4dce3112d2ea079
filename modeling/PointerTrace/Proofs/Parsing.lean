import Mathlib.Data.List.Forall2
import PointerTrace.Proofs.Scanning
import PointerTrace.Proofs.SegmentReading

/- What a trace text means. The tokens are split at the tokens that end statements; each piece is empty
   or a statement of the grammar, and the operations are those of the statements, one after the
   other. The operations of a chain are given link by link (`chainOperations`): each applies to the
   pointer of the one before, and binds a temporary or the name that was asked for. A text is read
   exactly when every piece is derived, and else one fault with a place is reported
   (`Program.parse_grammar`). -/
namespace PointerTrace

namespace Trace

/-! ## The meaning of statements -/

/-- The name that a link of a chain binds: the last link may have a name of its own, any other one has
    a temporary. -/
def boundAt (result : Option String) (used count i : Nat) : String :=
  match result with
  | some name => if i + 1 = count then name else Program.temporary (used + i + 1)
  | none => Program.temporary (used + i + 1)

/-- The name that a link of a chain applies to. -/
def operandAt (result : Option String) (start : String) (used count : Nat) : Nat → String
  | 0 => start
  | i + 1 => boundAt result used count i

/-- One operation for each link of a chain. -/
def chainOperations (result : Option String) (start : String) (used : Nat) (links : List Link) :
    List Action :=
  links.mapIdx fun i link => link.action (operandAt result start used links.length i)
    (boundAt result used links.length i)

namespace Statement

/-- The operations that a statement stands for, after a number of temporaries. -/
def meaning (used : Nat) : Statement → List Action
  | .binding isMutable name isCell (.value n) => [.declare name n isMutable isCell]
  | .binding isMutable name _ (.cell n) => [.declare name n isMutable true]
  | .binding _ name _ (.deref source) => [.read source (some name)]
  | .binding _ name _ (.pointer e) =>
    if e.links = [] then [.read e.start (some name)]
    else chainOperations (some name) e.start used e.links
  | .deref source (some n) => [.write source n]
  | .deref source none => [.read source none]
  | .assign name n => [.write name n]
  | .call function e => chainOperations none e.start used e.links ++
      [.call (operandAt none e.start used e.links.length e.links.length) function]

/-- The number of temporaries that a statement takes. -/
def temporaryCount : Statement → Nat
  | .binding _ _ _ (.pointer e) => e.links.length - 1
  | .call _ e => e.links.length
  | _ => 0

end Statement

/-- The operations of statements, after a number of temporaries; each operation has the place of its
    statement. -/
def meaning (used : Nat) : List (Location × Statement) → List Operation
  | [] => []
  | (place, s) :: rest =>
    (s.meaning used).map (fun a => ⟨a, some place⟩) ++ meaning (used + s.temporaryCount) rest

/-- The number of temporaries that statements take. -/
def temporaryCount : List (Location × Statement) → Nat
  | [] => 0
  | (_, s) :: rest => s.temporaryCount + temporaryCount rest

/-! ## Chains -/

theorem boundAt_succ (result : Option String) (used count i : Nat) :
    boundAt result used (count + 1) (i + 1) = boundAt result (used + 1) count i := by
  have shifted : used + (i + 1) + 1 = used + 1 + i + 1 := by omega
  cases result with
  | none => simp only [boundAt, shifted]
  | some name => simp only [boundAt, Nat.add_right_cancel_iff, shifted]

/-- Behind its first link, which binds a temporary, a chain is a chain from there. -/
theorem operandAt_succ {result : Option String} {used count : Nat} (start : String)
    (inner : result = none ∨ 0 < count) (i : Nat) :
    operandAt result start used (count + 1) (i + 1) =
      operandAt result (Program.temporary (used + 1)) (used + 1) count i := by
  cases i with
  | zero =>
    show boundAt result used (count + 1) 0 = Program.temporary (used + 1)
    cases result with
    | none => rfl
    | some name =>
      have more : ¬ 0 + 1 = count + 1 := by
        rcases inner with none | more
        · cases none
        · omega
      exact if_neg more
  | succ i => exact boundAt_succ result used count i

theorem chainOperations_cons {result : Option String} {used : Nat} {links : List Link}
    (start : String) (inner : result = none ∨ 0 < links.length) (link : Link) :
    chainOperations result start used (link :: links) =
      link.action start (Program.temporary (used + 1)) ::
        chainOperations result (Program.temporary (used + 1)) (used + 1) links := by
  have first : operandAt result start used (links.length + 1) 1 = _ := operandAt_succ start inner 0
  simp only [chainOperations, List.mapIdx_cons, List.length_cons, operandAt_succ start inner,
    boundAt_succ]
  exact congrArg (link.action start · :: _) first

/-- The operations of a chain, the name of its last pointer and the temporaries used after it. -/
theorem chain_eq (result : Option String) (start : String) (used : Nat) (links : List Link) :
    chain result start used links = (chainOperations result start used links,
      operandAt result start used links.length links.length,
      used + if result.isSome then links.length - 1 else links.length) := by
  induction links generalizing start used with
  | nil => cases result <;> rfl
  | cons link rest ih =>
    by_cases last : rest = [] ∧ result.isSome
    · obtain ⟨rfl, named⟩ := last
      obtain ⟨name, rfl⟩ := Option.isSome_iff_exists.mp named
      rfl
    · have inner : result = none ∨ 0 < rest.length := by
        cases result with
        | none => exact .inl rfl
        | some name =>
          exact .inr (List.length_pos_iff.mpr fun none => last ⟨none, rfl⟩)
      have more : chain result start used (link :: rest) =
          (link.action start (Program.temporary (used + 1)) ::
            (chain result (Program.temporary (used + 1)) (used + 1) rest).1,
            (chain result (Program.temporary (used + 1)) (used + 1) rest).2) := by
        cases rest with
        | nil =>
          cases result with
          | none => rfl
          | some name => exact absurd ⟨rfl, rfl⟩ last
        | cons => rfl
      rw [more, ih, chainOperations_cons start inner, List.length_cons,
        operandAt_succ start inner]
      have count : used + 1 + (if result.isSome then rest.length - 1 else rest.length) =
          used + (if result.isSome then rest.length + 1 - 1 else rest.length + 1) := by
        rcases inner with rfl | positive
        · simp only [Option.isSome_none, Bool.false_eq_true, if_false]
          omega
        · split <;> omega
      rw [count]

theorem Statement.actions_eq (s : Statement) (used : Nat) :
    s.actions used = (s.meaning used, used + s.temporaryCount) := by
  cases s with
  | binding isMutable name isCell init =>
    cases init with
    | pointer e =>
      by_cases none : e.links = []
      · simp [Statement.actions, Statement.meaning, Statement.temporaryCount, none]
      · simp [Statement.actions, Statement.meaning, Statement.temporaryCount, none, PointerExpr.expand,
          chain_eq]
    | _ => rfl
  | deref source value => cases value <;> rfl
  | assign => rfl
  | call function e =>
    simp [Statement.actions, Statement.meaning, Statement.temporaryCount, PointerExpr.expand, chain_eq]

/-- The operations of statements are appended one after the other. -/
theorem foldl_addStatement (l : List (Location × Statement)) (p : Program) :
    l.foldl addStatement p = { p with
      operations := p.operations ++ meaning p.temporaries l
      temporaries := p.temporaries + temporaryCount l } := by
  induction l generalizing p with
  | nil => simp [meaning, temporaryCount]
  | cons s l ih =>
    obtain ⟨place, statement⟩ := s
    rw [List.foldl_cons, ih]
    simp [addStatement, Statement.actions_eq, meaning, temporaryCount, Nat.add_assoc]

/-! ## Segments -/

/-- The tokens of the segments are what is left when the tokens that end statements are taken out. -/
theorem segments_tokens (finish : Token) (l : List Token) :
    (segments finish l).map Segment.tokens = l.splitOnP (·.symbol.endsStatement) := by
  induction l with
  | nil => rfl
  | cons t l ih =>
    rw [List.splitOnP_cons_eq_if_modifyHead, ← ih, segments]
    split
    · rfl
    · cases pieces : segments finish l with
      | nil =>
        rw [pieces] at ih
        exact absurd ih.symm (List.splitOnP_ne_nil _ l)
      | cons => rfl

/-- The end of the text opens one more piece, which is empty. -/
theorem splitOnP_toList {ts : Tokens} (ended : ts.finish.symbol.endsStatement = true) :
    ts.toList.splitOnP (·.symbol.endsStatement) =
      ts.body.splitOnP (·.symbol.endsStatement) ++ [[]] := by
  rw [Tokens.toList, List.splitOnP_append_cons _ _ (by exact ended), List.splitOnP_nil]

/-- What stands in a piece is one of the elements, and none that the list is split at. -/
theorem mem_of_mem_splitOnP {α : Type} {q : α → Bool} {l piece : List α}
    (h : piece ∈ l.splitOnP q) {x : α} (hx : x ∈ piece) : x ∈ l ∧ ¬ q x = true := by
  induction l generalizing piece with
  | nil =>
    rw [List.splitOnP_nil, List.mem_singleton] at h
    rw [h] at hx
    cases hx
  | cons y l ih =>
    have later {piece : List α} (h : piece ∈ l.splitOnP q) (hx : x ∈ piece) :
        x ∈ y :: l ∧ ¬ q x = true := ⟨List.mem_cons_of_mem y (ih h hx).1, (ih h hx).2⟩
    rw [List.splitOnP_cons_eq_if_modifyHead] at h
    split at h
    case isTrue =>
      rcases List.mem_cons.mp h with rfl | h
      · cases hx
      · exact later h hx
    case isFalse inner =>
      cases pieces : l.splitOnP q with
      | nil => exact absurd pieces (List.splitOnP_ne_nil q l)
      | cons first rest =>
        rw [pieces] at h later
        rcases List.mem_cons.mp h with rfl | h
        · rcases List.mem_cons.mp hx with rfl | hx
          · exact ⟨List.mem_cons_self, inner⟩
          · exact later List.mem_cons_self hx
        · exact later (List.mem_cons_of_mem first h) hx

/-- Whether a token stands inside a statement and, when it is a number, can be read. -/
def Symbol.isInner : Symbol → Bool
  | .number digits => digits.length ≤ Decimal.literalLimit
  | s => !s.endsStatement

theorem Symbol.goesOn_of_isInner {s : Symbol} (inner : s.isInner = true) :
    s.endsStatement = false := by
  cases s with
  | semicolon | newline | eof => cases inner
  | _ => rfl

theorem splitOnP_of_isInner {piece : List Token}
    (inner : (piece.map Token.symbol).all Symbol.isInner = true) :
    piece.splitOnP (·.symbol.endsStatement) = [piece] :=
  List.splitOnP_eq_singleton fun _ inside =>
    Symbol.goesOn_of_isInner (List.all_eq_true.mp inner _ (List.mem_map_of_mem inside))

theorem short_of_isInner {tokens : List Token}
    (inner : (tokens.map Token.symbol).all Symbol.isInner = true) : Short tokens := by
  intro t inside digits number
  have short := List.all_eq_true.mp inner _ (List.mem_map_of_mem inside)
  rw [number] at short
  exact of_decide_eq_true short

section Outcomes

variable {ε α β : Type} {f : α → Except ε β} {l : List α}

/-- All readings succeed. -/
theorem mapM_eq_ok {k : List β} :
    l.mapM f = .ok k ↔ List.Forall₂ (fun x y => f x = .ok y) l k := by
  induction l generalizing k with
  | nil => cases k <;> simp [pure, Except.pure]
  | cons x l ih =>
    rw [List.mapM_cons]
    cases first : f x with
    | error e => cases k <;> simp [bind, Except.bind, first]
    | ok y =>
      cases rest : l.mapM f with
      | error e => cases k <;> simp [bind, Except.bind, first, ← ih, rest]
      | ok ys => cases k <;> simp [bind, Except.bind, pure, Except.pure, first, ← ih, rest]

/-- The failure is that of the first one that fails. -/
theorem mapM_eq_error {e : ε} : l.mapM f = .error e ↔ ∃ before x after,
    l = before ++ x :: after ∧ (∀ y ∈ before, ∃ z, f y = .ok z) ∧ f x = .error e := by
  induction l with
  | nil => simp [pure, Except.pure]
  | cons x l ih =>
    rw [List.mapM_cons]
    cases first : f x with
    | error e' =>
      constructor
      · rintro ⟨⟩
        exact ⟨[], x, l, rfl, nofun, first⟩
      · rintro ⟨before, y, after, split, fine, failed⟩
        cases before with
        | nil =>
          cases split
          rw [first] at failed
          cases failed
          rfl
        | cons z before =>
          cases split
          obtain ⟨w, read⟩ := fine x List.mem_cons_self
          rw [first] at read
          cases read
    | ok y =>
      have later : (l.mapM f >>= fun ys => pure (y :: ys)) = .error e ↔ l.mapM f = .error e := by
        cases l.mapM f <;> simp [bind, Except.bind, pure, Except.pure]
      refine later.trans (ih.trans ?_)
      constructor
      · rintro ⟨before, z, after, rfl, fine, failed⟩
        exact ⟨x :: before, z, after, rfl, List.forall_mem_cons.mpr ⟨⟨y, first⟩, fine⟩, failed⟩
      · rintro ⟨before, z, after, split, fine, failed⟩
        cases before with
        | nil =>
          cases split
          rw [first] at failed
          cases failed
        | cons w before =>
          cases split
          exact ⟨before, z, after, rfl, (List.forall_mem_cons.mp fine).2, failed⟩

/-- Related lists of which the first has one more element at its end. -/
theorem forall₂_append_singleton {R : α → β → Prop} {x : α} {k : List β} :
    List.Forall₂ R (l ++ [x]) k ↔ ∃ k' y, k = k' ++ [y] ∧ List.Forall₂ R l k' ∧ R x y := by
  constructor
  · intro h
    induction l generalizing k with
    | nil =>
      cases h with
      | cons related rest =>
        cases rest
        exact ⟨[], _, rfl, .nil, related⟩
    | cons z l ih =>
      cases h with
      | cons related rest =>
        obtain ⟨k', y, rfl, front, last⟩ := ih rest
        exact ⟨_ :: k', y, rfl, .cons related front, last⟩
  · rintro ⟨k', y, rfl, front, last⟩
    exact List.rel_append front (.cons last .nil)

/-- A list is related to some list when each of its elements is related to something. -/
theorem exists_forall₂ {R : α → β → Prop} :
    (∃ k, List.Forall₂ R l k) ↔ ∀ x ∈ l, ∃ y, R x y := by
  constructor
  · rintro ⟨k, h⟩
    induction h with
    | nil => nofun
    | cons related rest ih => exact List.forall_mem_cons.mpr ⟨⟨_, related⟩, ih⟩
  · intro h
    induction l with
    | nil => exact ⟨[], .nil⟩
    | cons x l ih =>
      obtain ⟨⟨y, related⟩, rest⟩ := List.forall_mem_cons.mp h
      obtain ⟨k, more⟩ := ih rest
      exact ⟨y :: k, .cons related more⟩

end Outcomes

section Statements

variable {ts : Tokens}

theorem segment_subset {s : Segment} (h : s ∈ segments ts.finish ts.body) : s.tokens ⊆ ts.body := by
  have piece : s.tokens ∈ ts.body.splitOnP (·.symbol.endsStatement) := by
    rw [← segments_tokens ts.finish]
    exact List.mem_map_of_mem h
  exact fun t ht => (mem_of_mem_splitOnP piece ht).1

theorem readStatements_eq_error {e : ReadFailure} : readStatements ts = .error e ↔
    (segments ts.finish ts.body).mapM readSegment = .error e := by
  unfold readStatements
  cases (segments ts.finish ts.body).mapM readSegment <;> simp [bind, Except.bind, pure, Except.pure]

/-- The statements of tokens are those that their segments are read as. -/
theorem readStatements_eq_ok_iff {l : List (Location × Statement)} : readStatements ts = .ok l ↔
    ∃ found, (segments ts.finish ts.body).mapM readSegment = .ok found ∧ l = found.filterMap id := by
  unfold readStatements
  cases read : (segments ts.finish ts.body).mapM readSegment with
  | error e => exact ⟨nofun, fun ⟨found, no, _⟩ => by cases no⟩
  | ok found =>
    constructor
    · intro same
      cases same
      exact ⟨found, rfl, rfl⟩
    · intro ⟨_, same, split⟩
      cases same
      rw [split]
      rfl

/-- Reading tokens is broken off exactly where, behind pieces that are read, a piece has a number of
    too many digits. -/
theorem readStatements_eq_unreadable {fault : Document.ScalarFault} :
    readStatements ts = .error (.unreadable fault) ↔ ∃ before piece after,
      ts.body.splitOnP (·.symbol.endsStatement) = before ++ piece :: after ∧
      (∀ read ∈ before, Short read ∧ ∃ found, Spells read found) ∧ Overlong piece fault := by
  rw [readStatements_eq_error, mapM_eq_error, ← segments_tokens ts.finish]
  constructor
  · rintro ⟨before, s, after, split, fine, broken⟩
    refine ⟨before.map Segment.tokens, s.tokens, after.map Segment.tokens, ?_, ?_,
      readSegment_eq_unreadable.mp broken⟩
    · rw [split, List.map_append, List.map_cons]
    · intro piece inside
      obtain ⟨read, here, rfl⟩ := List.mem_map.mp inside
      obtain ⟨found, same⟩ := fine read here
      obtain ⟨short, spells⟩ := readSegment_eq_ok.mp same
      exact ⟨short, found, spells⟩
  · rintro ⟨before, piece, after, split, fine, overlong⟩
    obtain ⟨front, rest, same, rfl, behind⟩ := List.map_eq_append_iff.mp split
    obtain ⟨s, back, rfl, rfl, rfl⟩ := List.map_eq_cons_iff.mp behind
    refine ⟨front, s, back, same, fun read here => ?_, readSegment_eq_unreadable.mpr overlong⟩
    obtain ⟨short, found, spells⟩ := fine read.tokens (List.mem_map_of_mem here)
    exact ⟨found, readSegment_eq_ok.mpr ⟨short, spells⟩⟩

/-- Otherwise tokens that are not read are refused at a place. -/
theorem readStatements_cases {e : ReadFailure} (h : readStatements ts = .error e) :
    (∃ fault place, e = .ofSyntax fault (some place)) ∨ ∃ fault, e = .unreadable fault := by
  obtain ⟨before, s, after, -, -, failed⟩ := mapM_eq_error.mp (readStatements_eq_error.mp h)
  cases readSegment_eq_error failed with
  | fault fault place => exact .inl ⟨fault, place, rfl⟩
  | digits => exact .inr ⟨_, rfl⟩

variable (short : Short ts.body)
include short

/-- Where no number has too many digits, tokens that are not read are refused at a place. -/
theorem readStatements_refused {e : ReadFailure} (h : readStatements ts = .error e) :
    ∃ fault place, e = .ofSyntax fault (some place) := by
  obtain ⟨before, s, after, split, -, failed⟩ := mapM_eq_error.mp (readStatements_eq_error.mp h)
  have inside : s ∈ segments ts.finish ts.body := split ▸ List.mem_append_right before List.mem_cons_self
  exact (readSegment_eq_error failed).of_short fun t ht => short t (segment_subset inside ht)

/-- The segments are read as what the pieces of the tokens spell. -/
theorem readSegments_eq_ok {found : List (Option (Location × Statement))} :
    (segments ts.finish ts.body).mapM readSegment = .ok found ↔
      List.Forall₂ Spells (ts.body.splitOnP (·.symbol.endsStatement)) found := by
  have each : ∀ s ∈ segments ts.finish ts.body, Short s.tokens := fun s inside t ht =>
    short t (segment_subset inside ht)
  rw [mapM_eq_ok, ← segments_tokens ts.finish, List.forall₂_map_left_iff]
  constructor
  · intro h
    exact ((List.forall₂_and_left _ _).mpr ⟨each, h⟩).imp fun s y both =>
      (readSegment_eq_ok.mp both.2).2
  · intro h
    exact ((List.forall₂_and_left _ _).mpr ⟨each, h⟩).imp fun s y both =>
      readSegment_eq_ok.mpr both

/-- The statements of tokens are those that their pieces spell. -/
theorem readStatements_eq_ok (ended : ts.finish.symbol.endsStatement = true)
    {l : List (Location × Statement)} : readStatements ts = .ok l ↔
      ∃ found, List.Forall₂ Spells (ts.toList.splitOnP (·.symbol.endsStatement)) found ∧
        l = found.filterMap id := by
  rw [readStatements_eq_ok_iff, splitOnP_toList ended]
  constructor
  · rintro ⟨found, read, rfl⟩
    -- behind the end of the text stands an empty piece, which adds no statement
    refine ⟨found ++ [none], forall₂_append_singleton.mpr
      ⟨found, none, rfl, (readSegments_eq_ok short).mp read, .empty⟩, ?_⟩
    rw [List.filterMap_append]
    exact (List.append_nil _).symm
  · rintro ⟨_, spelled, rfl⟩
    obtain ⟨found, y, rfl, front, last⟩ := forall₂_append_singleton.mp spelled
    cases last
    refine ⟨found, (readSegments_eq_ok short).mpr front, ?_⟩
    rw [List.filterMap_append]
    exact List.append_nil _

end Statements

theorem spells_iff {piece : List Token} : (∃ found, Spells piece found) ↔
    piece = [] ∨ ∃ statement, IsStatement (piece.map Token.symbol) statement := by
  constructor
  · rintro ⟨_, h⟩
    cases h with
    | empty => exact .inl rfl
    | statement spelled => exact .inr ⟨_, spelled⟩
  · rintro (rfl | ⟨statement, spelled⟩)
    · exact ⟨none, .empty⟩
    · cases piece with
      | nil => exact ⟨none, .empty⟩
      | cons first rest => exact ⟨_, .statement spelled⟩

end Trace

namespace Program

open Trace

variable {source file : String} {name : Option String} {ts : Tokens}

/-- A text is read as the operations of its statements. -/
theorem parse_eq (tokens : tokenize source file = .ok ts) : parse source file name =
    (readStatements ts).map fun l => ⟨meaning 0 l, (nonempty name).getD file, some source,
      temporaryCount l⟩ := by
  unfold parse
  rw [tokens]
  show (readStatements ts >>= fun l => pure (l.foldl addStatement _)) = _
  cases readStatements ts with
  | error e => rfl
  | ok l =>
    show Except.ok (l.foldl addStatement _) = _
    rw [foldl_addStatement]
    simp [Except.map]

theorem parse_eq_ok_iff (tokens : tokenize source file = .ok ts) {p : Program} :
    parse source file name = .ok p ↔ ∃ l, readStatements ts = .ok l ∧
      p = ⟨meaning 0 l, (nonempty name).getD file, some source, temporaryCount l⟩ := by
  rw [parse_eq tokens]
  cases readStatements ts <;> simp [Except.map, eq_comm]

theorem parse_eq_ok (tokens : tokenize source file = .ok ts) (short : Short ts.body) {p : Program} :
    parse source file name = .ok p ↔ ∃ found,
      List.Forall₂ Spells (ts.toList.splitOnP (·.symbol.endsStatement)) found ∧
      p = ⟨meaning 0 (found.filterMap id), (nonempty name).getD file, some source,
        temporaryCount (found.filterMap id)⟩ := by
  have ended : ts.finish.symbol.endsStatement = true := by rw [tokensFrom_finish tokens]; rfl
  rw [parse_eq_ok_iff tokens]
  constructor
  · rintro ⟨l, read, rfl⟩
    obtain ⟨found, spelled, rfl⟩ := (readStatements_eq_ok short ended).mp read
    exact ⟨found, spelled, rfl⟩
  · rintro ⟨found, spelled, rfl⟩
    exact ⟨_, (readStatements_eq_ok short ended).mpr ⟨found, spelled, rfl⟩, rfl⟩

/-- What the pieces before the end of the text spell is what is read. -/
theorem parse_of_spells (tokens : tokenize source file = .ok ts) (short : Short ts.body)
    {found : List (Option (Location × Statement))}
    (spells : List.Forall₂ Spells (ts.body.splitOnP (·.symbol.endsStatement)) found) :
    parse source file name = .ok ⟨meaning 0 (found.filterMap id), (nonempty name).getD file,
      some source, temporaryCount (found.filterMap id)⟩ := by
  have ended : ts.finish.symbol.endsStatement = true := by rw [tokensFrom_finish tokens]; rfl
  refine (parse_eq_ok tokens short).mpr ⟨found ++ [none], ?_, ?_⟩
  · rw [splitOnP_toList ended]
    exact forall₂_append_singleton.mpr ⟨found, none, rfl, spells, .empty⟩
  · rw [List.filterMap_append]
    simp

/-- The reader accepts exactly its grammar. The tokens of a text are split at the tokens that end
    statements; the text is read exactly when every piece is empty or derived from the grammar, as
    the operations of the statements that the pieces spell, one after the other, each with the place
    of its statement's first token. Else one syntax fault at a place is reported. -/
theorem parse_grammar (tokens : tokenize source file = .ok ts) (short : Short ts.body) :
    ((∃ p, parse source file name = .ok p) ↔
      ∀ piece ∈ ts.toList.splitOnP (·.symbol.endsStatement),
        piece = [] ∨ ∃ statement, IsStatement (piece.map Token.symbol) statement) ∧
    (∀ p, parse source file name = .ok p ↔ ∃ found,
      List.Forall₂ Spells (ts.toList.splitOnP (·.symbol.endsStatement)) found ∧
      p = ⟨meaning 0 (found.filterMap id), (nonempty name).getD file, some source,
        temporaryCount (found.filterMap id)⟩) ∧
    ((∀ p, parse source file name ≠ .ok p) → ∃ fault place,
      parse source file name = .error (.malformed [⟨.syntaxFault fault, some place⟩])) := by
  refine ⟨?_, fun p => parse_eq_ok tokens short, ?_⟩
  · have pieces : (∃ p, parse source file name = .ok p) ↔ ∃ found,
        List.Forall₂ Spells (ts.toList.splitOnP (·.symbol.endsStatement)) found := by
      simp [parse_eq_ok tokens short]
    rw [pieces, exists_forall₂]
    exact forall₂_congr fun piece _ => spells_iff
  · intro refused
    cases read : readStatements ts with
    | ok l => exact absurd (by rw [parse_eq tokens, read]; rfl) (refused _)
    | error e =>
      obtain ⟨fault, place, rfl⟩ := readStatements_refused short read
      exact ⟨fault, place, by rw [parse_eq tokens, read]; rfl⟩

/-- A call of a borrow that is cast. -/
def castCall : String := "f(&x as *mut)"

theorem parse_grammar_castCall : ∃ ts p, tokenize castCall "t" = .ok ts ∧
    parse castCall "t" none = .ok p ∧ p.actions = [.borrow "x" .shared (temporary 1),
      .reborrow (temporary 1) .unique (temporary 2), .call (temporary 2) "f"] ∧
    ∀ piece ∈ ts.toList.splitOnP (·.symbol.endsStatement),
      piece = [] ∨ ∃ statement, IsStatement (piece.map Token.symbol) statement := by
  have word : ∀ (word : String) rest, isWord word.toList = true → Ends rest →
      Scans (word.toList ++ rest) [.ofWord word] rest := fun _ _ => .word
  have last := (word "mut" ")".toList (by decide) (.cons (by decide))).trans (.mark rfl)
  have cast := (word "as" " *mut)".toList (by decide) (.cons (by decide))).trans
    ((Scans.gap rfl).trans ((Scans.mark rfl).trans last))
  have argument := (word "x" " as *mut)".toList (by decide) (.cons (by decide))).trans
    ((Scans.gap rfl).trans cast)
  have scans : Scans castCall.toList [.name "f", .leftParen, .ampersand, .name "x", .asWord, .star,
      .mutWord, .rightParen] [] := (word "f" "(&x as *mut)".toList (by decide) (.cons (by decide))).trans
    ((Scans.mark rfl).trans ((Scans.mark rfl).trans argument))
  obtain ⟨ts, tokens, same⟩ := scans.tokenize "t"
  have inner : (ts.body.map Token.symbol).all Symbol.isInner = true := by rw [same]; rfl
  have short := short_of_isInner inner
  have call : IsStatement (ts.body.map Token.symbol)
      (.call "f" ⟨.borrow .shared "x", [.pointer .unique]⟩) :=
    same ▸ .call "f" (.mk (.shared "x") (.cons (.pointer .unique none) .nil))
  obtain ⟨place, rest, body, -⟩ := symbols_eq_cons.mp same
  have spells : List.Forall₂ Spells (ts.body.splitOnP (·.symbol.endsStatement))
      [some (place, .call "f" ⟨.borrow .shared "x", [.pointer .unique]⟩)] := by
    rw [splitOnP_of_isInner inner]
    rw [body] at call ⊢
    exact .cons (.statement call) .nil
  have read : parse castCall "t" none = _ := parse_of_spells tokens short spells
  have derived : (∃ p, parse castCall "t" none = .ok p) ↔ _ := (parse_grammar tokens short).1
  exact ⟨ts, _, tokens, read, rfl, derived.mp ⟨_, read⟩⟩

end Program

end PointerTrace
