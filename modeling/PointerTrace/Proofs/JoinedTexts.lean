import PointerTrace.Proofs.Temporaries

/- Texts that are joined by a line feed. No piece of a text goes on over the end of a line
   (`piece?_line`), so that the first text is cut as it is alone, and the second one as it is alone but
   further down (`tokensFrom_line`, `tokensFrom_down`). No statement goes on there either. All that the
   first text leaves to the second are two numbers, that of its lines and that of its temporaries
   (`Program.parse_joined`). -/
namespace PointerTrace

/-- A place a number of lines further down. -/
def Location.down (lines : Nat) (l : Location) : Location := { l with line := l.line + lines }

/-- Names with the temporaries moved up by a number. -/
def Program.renumbered (used : Nat) : String → String :=
  Program.exchange fun i => Program.temporary (i + used)

/-- An operation behind a number of lines and of temporaries. -/
def Operation.behind (lines used : Nat) (op : Operation) : Operation :=
  ⟨op.action.rename (Program.renumbered used), op.location.map (Location.down lines)⟩

namespace Trace

/-- A token a number of lines further down. -/
def Token.down (lines : Nat) (t : Token) : Token := { t with location := t.location.down lines }

/-- Tokens a number of lines further down. -/
def Tokens.down (lines : Nat) (ts : Tokens) : Tokens :=
  ⟨ts.body.map (Token.down lines), ts.finish.down lines⟩

/-- The tokens of two texts with a line feed between them. -/
def Tokens.joined (ts us : Tokens) : Tokens :=
  ⟨ts.body ++ ⟨.newline, ts.finish.location⟩ :: us.body, us.finish⟩

variable {place : Location} {c : Char} {cs rest : List Char} {ts us r : Tokens} {lines : Nat}

/-! ## Cutting over the end of a line -/

/-- A run that takes no line feed ends with the line. -/
theorem takeWhile_line {q : Char → Bool} (stops : q '\n' = false) (rest later : List Char) :
    (rest ++ '\n' :: later).takeWhile q = rest.takeWhile q := by
  induction rest with
  | nil => exact List.takeWhile_cons_of_neg (Bool.eq_false_iff.mp stops)
  | cons d rest ih => rw [List.cons_append, List.takeWhile_cons, List.takeWhile_cons, ih]

theorem head?_line {d : Char} (other : d ≠ '\n') (rest later : List Char) :
    (rest ++ '\n' :: later).head? = some d ↔ rest.head? = some d := by
  cases rest with
  | nil => simp [other.symm]
  | cons => rfl

/-- A piece that starts in a line ends there. -/
theorem piece?_line (c : Char) (rest later : List Char) :
    piece? c (rest ++ '\n' :: later) = piece? c rest := by
  have comment : startsComment c (rest ++ '\n' :: later) = startsComment c rest := by
    simp only [startsComment, head?_line (show '/' ≠ '\n' by decide)]
  have colon : ((rest ++ '\n' :: later).head? = some ':') = (rest.head? = some ':') :=
    propext (head?_line (by decide) rest later)
  have number := takeWhile_line (q := continuesNumber) (by decide) rest later
  have word := takeWhile_line (q := Text.continuesName) (by decide) rest later
  have line := takeWhile_line (q := (· ≠ '\n')) (by decide) rest later
  simp only [piece?, comment, colon, number, word, line]

theorem le_length_of_piece? {more : Nat} {symbol? : Option Symbol}
    (piece : piece? c rest = some (more, symbol?)) : more ≤ rest.length := by
  unfold piece? at piece
  split_ifs at piece with _ _ _ _ colons
  · cases piece
    exact Nat.zero_le _
  · cases piece
    exact (List.takeWhile_prefix _).length_le
  · cases piece
    exact (List.takeWhile_prefix _).length_le
  · cases piece
    exact (List.takeWhile_prefix _).length_le
  · cases piece
    rw [Bool.and_eq_true, decide_eq_true_iff, decide_eq_true_iff] at colons
    obtain ⟨later, rfl⟩ := List.head?_eq_some_iff.mp colons.2
    exact Nat.le_add_left 1 _
  · obtain ⟨s, -, same⟩ := Option.map_eq_some_iff.mp piece
    cases same
    exact Nat.zero_le _

/-- A text is cut into tokens when a piece is cut off and what is behind it is cut. -/
theorem tokensFrom_eq_ok {more : Nat} {symbol? : Option Symbol}
    (piece : piece? c rest = some (more, symbol?)) : tokensFrom place (c :: rest) = .ok r ↔
      ∃ later, tokensFrom ((Text.codePoints (c :: rest.take more)).foldl after place)
        (rest.drop more) = .ok later ∧
        r = { later with body := (symbol?.map (⟨·, place⟩)).toList ++ later.body } := by
  constructor
  · intro cut
    rw [tokensFrom, piece] at cut
    dsimp only at cut
    cases scanned : tokensFrom ((Text.codePoints (c :: rest.take more)).foldl after place)
        (rest.drop more) with
    | error e =>
      rw [scanned] at cut
      cases cut
    | ok later =>
      rw [scanned] at cut
      cases symbol? <;> cases cut <;> exact ⟨_, rfl, rfl⟩
  · rintro ⟨later, scanned, same⟩
    rw [same]
    exact tokensFrom_piece piece scanned

theorem tokensFrom_ne_ok (none : piece? c rest = none) : tokensFrom place (c :: rest) ≠ .ok r := by
  intro cut
  rw [tokensFrom, none] at cut
  cases cut

/-- A text with a line feed in it is cut up to there as it is alone, and from the next line on. -/
theorem tokensFrom_line (place : Location) (cs later : List Char) :
    tokensFrom place (cs ++ '\n' :: later) = .ok r ↔ ∃ ts us, tokensFrom place cs = .ok ts ∧
      tokensFrom (after ts.finish.location '\n'.toNat) later = .ok us ∧ r = ts.joined us := by
  induction place, cs using tokensFrom.induct generalizing r with
  | case1 place =>
    -- the line feed is a token of its own, at the place where the first text ends
    have feed : piece? '\n' later = some (0, some .newline) := rfl
    have place' : (Text.codePoints ('\n' :: later.take 0)).foldl after place =
        after place '\n'.toNat := rfl
    rw [List.nil_append, tokensFrom_eq_ok feed, place', List.drop_zero, tokensFrom_nil]
    constructor
    · rintro ⟨us, cut, same⟩
      exact ⟨_, us, rfl, cut, same⟩
    · rintro ⟨_, us, ⟨⟩, cut, same⟩
      exact ⟨us, cut, same⟩
  | case2 place c rest none =>
    have none' : piece? c (rest ++ '\n' :: later) = .none := by rw [piece?_line, none]
    simp [tokensFrom_ne_ok none, tokensFrom_ne_ok none']
  | case3 place c rest more symbol? piece ih =>
    -- the piece ends before the line feed, so that what is behind it starts in the first text still
    have piece' : piece? c (rest ++ '\n' :: later) = some (more, symbol?) := by rw [piece?_line, piece]
    have inside := le_length_of_piece? piece
    rw [List.cons_append, tokensFrom_eq_ok piece', List.take_append_of_le_length inside,
      List.drop_append_of_le_length inside]
    simp only [ih, tokensFrom_eq_ok piece]
    constructor
    · rintro ⟨_, ⟨ts, us, cut, cut', rfl⟩, rfl⟩
      exact ⟨_, us, ⟨ts, cut, rfl⟩, cut', by simp [Tokens.joined]⟩
    · rintro ⟨_, us, ⟨ts, cut, rfl⟩, cut', rfl⟩
      exact ⟨_, ⟨ts, us, cut, cut', rfl⟩, by simp [Tokens.joined]⟩

/-- The tokens of a text further down are its tokens, further down. -/
theorem tokensFrom_down (lines : Nat) (place : Location) (cs : List Char) :
    tokensFrom (place.down lines) cs = .ok r ↔
      ∃ ts, tokensFrom place cs = .ok ts ∧ r = ts.down lines := by
  have next (place : Location) (n : Nat) : after (place.down lines) n = (after place n).down lines := by
    unfold after
    split
    · simp [Location.down, Nat.add_right_comm]
    · rfl
  have places (l : List Nat) (place : Location) :
      l.foldl after (place.down lines) = (l.foldl after place).down lines := by
    induction l generalizing place with
    | nil => rfl
    | cons n l ih => rw [List.foldl_cons, next, ih, List.foldl_cons]
  induction place, cs using tokensFrom.induct generalizing r with
  | case1 place => simp [tokensFrom_nil, Tokens.down, Token.down, eq_comm]
  | case2 place c rest none => simp [tokensFrom_ne_ok none]
  | case3 place c rest more symbol? piece ih =>
    simp only [tokensFrom_eq_ok piece, places, ih]
    constructor
    · rintro ⟨_, ⟨ts, cut, rfl⟩, rfl⟩
      refine ⟨_, ⟨ts, cut, rfl⟩, ?_⟩
      cases symbol? <;> simp [Tokens.down, Token.down]
    · rintro ⟨_, ⟨ts, cut, rfl⟩, rfl⟩
      refine ⟨_, ⟨ts, cut, rfl⟩, ?_⟩
      cases symbol? <;> simp [Tokens.down, Token.down]

/-- A text ends as many lines down as it has line feeds. -/
theorem finish_of_tokensFrom (cut : tokensFrom place cs = .ok ts) :
    ts.finish.location.line = place.line + cs.count '\n' ∧ ts.finish.location.file = place.file := by
  have places (l : List Nat) (place : Location) :
      (l.foldl after place).line = place.line + l.count '\n'.toNat ∧
        (l.foldl after place).file = place.file := by
    induction l generalizing place with
    | nil => exact ⟨rfl, rfl⟩
    | cons n l ih =>
      obtain ⟨line, file⟩ := ih (after place n)
      rw [List.foldl_cons, line, file, after]
      split
      case isTrue feed =>
        rw [feed, List.count_cons_self]
        exact ⟨Nat.add_right_comm _ _ _, rfl⟩
      case isFalse other =>
        rw [List.count_cons_of_ne other]
        exact ⟨rfl, rfl⟩
  induction place, cs using tokensFrom.induct generalizing ts with
  | case1 place =>
    rw [tokensFrom_nil] at cut
    cases cut
    exact ⟨rfl, rfl⟩
  | case2 place c rest none => exact absurd cut (tokensFrom_ne_ok none)
  | case3 place c rest more symbol? piece ih =>
    obtain ⟨later, cut', rfl⟩ := (tokensFrom_eq_ok piece).mp cut
    obtain ⟨line, file⟩ := ih cut'
    obtain ⟨line', file'⟩ := places (Text.codePoints (c :: rest.take more)) place
    have feeds : (c :: rest).count '\n' = (c :: rest.take more).count '\n' +
        (rest.drop more).count '\n' := by
      rw [← List.count_append, List.cons_append, List.take_append_drop]
    refine ⟨?_, file.trans file'⟩
    rw [feeds, ← Text.count_codePoints (c :: rest.take more), ← Nat.add_assoc, ← line']
    exact line

/-! ## Reading over the end of a line -/

section Reading

variable {l k : List (Location × Statement)}

/-- What is related to two lists, one after the other, is made of what is related to each. -/
theorem forall₂_append {α β : Type} {R : α → β → Prop} {l l' : List α} {k : List β} :
    List.Forall₂ R (l ++ l') k ↔ ∃ m m', List.Forall₂ R l m ∧ List.Forall₂ R l' m' ∧ k = m ++ m' := by
  constructor
  · intro related
    have first := List.forall₂_take_append k l l' related.flip
    have second := List.forall₂_drop_append k l l' related.flip
    exact ⟨_, _, first.flip, second.flip, (List.take_append_drop l.length k).symm⟩
  · rintro ⟨m, m', first, second, rfl⟩
    exact List.rel_append first second

/-- A line feed ends a statement, so that the statements of joined texts are those of each. -/
theorem readStatements_joined {r : List (Location × Statement)} : readStatements (ts.joined us) = .ok r ↔
    ∃ l k, readStatements ts = .ok l ∧ readStatements us = .ok k ∧ r = l ++ k := by
  have pieces : (ts.joined us).body.splitOnP (·.symbol.endsStatement) =
      ts.body.splitOnP (·.symbol.endsStatement) ++ us.body.splitOnP (·.symbol.endsStatement) :=
    List.splitOnP_append_cons _ _ rfl
  simp only [readStatements_eq_ok_iff_spells, pieces, forall₂_append]
  constructor
  · rintro ⟨_, ⟨found, found', spells, spells', rfl⟩, rfl⟩
    exact ⟨_, _, ⟨found, spells, rfl⟩, ⟨found', spells', rfl⟩, List.filterMap_append⟩
  · rintro ⟨_, _, ⟨found, spells, rfl⟩, ⟨found', spells', rfl⟩, rfl⟩
    exact ⟨_, ⟨found, found', spells, spells', rfl⟩, List.filterMap_append.symm⟩

theorem splitOnP_down (lines : Nat) (body : List Token) :
    (body.map (Token.down lines)).splitOnP (·.symbol.endsStatement) =
      (body.splitOnP (·.symbol.endsStatement)).map (List.map (Token.down lines)) := by
  induction body with
  | nil => rfl
  | cons t body ih =>
    have same : (t.down lines).symbol = t.symbol := rfl
    rw [List.map_cons, List.splitOnP_cons_eq_if_modifyHead, List.splitOnP_cons_eq_if_modifyHead, ih,
      same]
    split
    · rfl
    · cases body.splitOnP _ <;> rfl

theorem map_symbol_down (lines : Nat) (body : List Token) :
    (body.map (Token.down lines)).map Token.symbol = body.map Token.symbol := by
  rw [List.map_map]
  rfl

theorem Spells.down {piece : List Token} {x : Option (Location × Statement)} (spells : Spells piece x)
    (lines : Nat) :
    Spells (piece.map (Token.down lines)) (x.map (Prod.map (Location.down lines) id)) := by
  cases spells with
  | empty => exact .empty
  | @statement first rest s spelled =>
    rw [← map_symbol_down lines] at spelled
    exact .statement spelled

/-- Tokens that stand further down are read as the same statements, further down. -/
theorem readStatements_down {r : List (Location × Statement)} :
    readStatements (ts.down lines) = .ok r ↔
      ∃ l, readStatements ts = .ok l ∧ r = l.map (Prod.map (Location.down lines) id) := by
  have moved (l : List (Location × Statement)) (read : readStatements ts = .ok l) :
      readStatements (ts.down lines) = .ok (l.map (Prod.map (Location.down lines) id)) := by
    obtain ⟨found, spells, rfl⟩ := readStatements_eq_ok_iff_spells.mp read
    refine readStatements_eq_ok_iff_spells.mpr
      ⟨found.map (Option.map (Prod.map (Location.down lines) id)), ?_, ?_⟩
    · show List.Forall₂ _ ((ts.body.map (Token.down lines)).splitOnP _) _
      rw [splitOnP_down, List.forall₂_map_left_iff, List.forall₂_map_right_iff]
      exact spells.imp fun piece x both =>
        ⟨both.1.congr (map_symbol_down lines piece).symm, both.2.down lines⟩
    · rw [List.filterMap_map, List.map_filterMap]
      rfl
  constructor
  · intro read
    obtain ⟨l, read', -⟩ := readStatements_congr (map_symbol_down lines ts.body) read
    refine ⟨l, read', ?_⟩
    rw [moved l read', Except.ok.injEq] at read
    exact read.symm
  · rintro ⟨l, read, rfl⟩
    exact moved l read

end Reading

/-! ## Temporaries behind others -/

section Meaning

open Program (renumbered)

variable {used n : Nat} {l k : List (Location × Statement)}

theorem meaning_append (used : Nat) (l k : List (Location × Statement)) :
    meaning used (l ++ k) = meaning used l ++ meaning (used + temporaryCount l) k := by
  induction l generalizing used with
  | nil => rfl
  | cons x l ih =>
    rw [List.cons_append, meaning, meaning, ih, temporaryCount, List.append_assoc, Nat.add_assoc]

theorem temporaryCount_append (l k : List (Location × Statement)) :
    temporaryCount (l ++ k) = temporaryCount l + temporaryCount k := by
  induction l with
  | nil => exact (Nat.zero_add _).symm
  | cons x l ih => rw [List.cons_append, temporaryCount, temporaryCount, ih, Nat.add_assoc]

theorem renumbered_of_isName {name : String} (named : IsName name) : renumbered used name = name :=
  Program.exchange_of_none named.temporaryNumber?

variable {result : Option String} {start : String} (results : ∀ name ∈ result, IsName name)
include results

theorem boundAt_add (n used count i : Nat) :
    boundAt result (n + used) count i = renumbered used (boundAt result n count i) := by
  have moved : Program.temporary (n + used + i + 1) =
      renumbered used (Program.temporary (n + i + 1)) := by
    rw [renumbered, Program.exchange_temporary]
    congr 1
    omega
  cases result with
  | none => exact moved
  | some name =>
    have kept : name = renumbered used name := (renumbered_of_isName (results name rfl)).symm
    simp only [boundAt]
    split
    · exact kept
    · exact moved

theorem operandAt_add (fixed : renumbered used start = start) (n count i : Nat) :
    operandAt result start (n + used) count i = renumbered used (operandAt result start n count i) := by
  cases i with
  | zero => exact fixed.symm
  | succ i => exact boundAt_add results n used count i

/-- A chain behind more temporaries binds and takes those with numbers further up. -/
theorem chainOperations_add {e : PointerExpr} (written : IsName e.primary.written) (n used : Nat) :
    chainOperations result e.start (n + used) e.links =
      (chainOperations result e.start n e.links).map (Action.rename (renumbered used)) := by
  have start : renumbered used e.start = e.start :=
    Program.exchange_of_none (temporaryNumber?_start written)
  rw [rename_chainOperations (renumbered_of_isName written), chainOperations]
  simp only [operandAt_add results start, boundAt_add results]

omit results

/-- The operations of a statement behind more temporaries have those with numbers further up. -/
theorem Statement.meaning_add {s : Statement} (named : ∀ n ∈ s.names, IsName n) (n used : Nat) :
    s.meaning (n + used) = (s.meaning n).map (Action.rename (renumbered used)) := by
  by_cases plain : s.links = []
  · exact (s.rename_plain plain (fun name known => renumbered_of_isName (named name known)) _ _).symm
  cases s with
  | binding isMutable name isCell init =>
    cases init with
    | value | cell | deref => exact absurd rfl plain
    | pointer e =>
      have chained : e.links ≠ [] := plain
      have results : ∀ other ∈ some name, IsName other := by
        rintro _ ⟨⟩
        exact named name List.mem_cons_self
      rw [Statement.meaning, Statement.meaning, if_neg chained, if_neg chained,
        chainOperations_add results (named _ (by simp [Statement.names]))]
  | deref | assign => exact absurd rfl plain
  | call function e =>
    have written : IsName e.primary.written := named _ (by simp [Statement.names])
    have start : renumbered used e.start = e.start :=
      Program.exchange_of_none (temporaryNumber?_start written)
    have unnamed : ∀ name ∈ (none : Option String), IsName name := by simp
    rw [Statement.meaning, Statement.meaning, List.map_append, chainOperations_add unnamed written,
      operandAt_add unnamed start]
    rfl

/-- What statements stand for behind a number of lines and of temporaries. -/
theorem meaning_behind {l : List (Location × Statement)} (named : ∀ x ∈ l, ∀ n ∈ x.2.names, IsName n)
    (n used lines : Nat) :
    meaning (n + used) (l.map (Prod.map (Location.down lines) id)) =
      (meaning n l).map (Operation.behind lines used) ∧
    temporaryCount (l.map (Prod.map (Location.down lines) id)) = temporaryCount l := by
  induction l generalizing n with
  | nil => exact ⟨rfl, rfl⟩
  | cons x l ih =>
    obtain ⟨place, s⟩ := x
    obtain ⟨own, others⟩ := List.forall_mem_cons.mp named
    obtain ⟨operations, count⟩ := ih others (n + s.temporaryCount)
    constructor
    · rw [List.map_cons, Prod.map_apply, meaning, meaning, id, s.meaning_add own, List.map_append,
        ← operations, List.map_map, List.map_map, Nat.add_right_comm]
      rfl
    · rw [List.map_cons, temporaryCount, temporaryCount, count]
      rfl

end Meaning

end Trace

namespace Program

open Trace

/-- A program and one that was read from a text on the lines behind it. -/
def joined (p q : Program) (lines : Nat) (source : String) : Program :=
  ⟨p.operations ++ q.operations.map (Operation.behind lines p.temporaries), p.name, some source,
    p.temporaries + q.temporaries⟩

theorem parse_eq_ok_iff_exists {source file : String} {name : Option String} {p : Program} :
    parse source file name = .ok p ↔ ∃ ts l, tokenize source file = .ok ts ∧
      readStatements ts = .ok l ∧
      p = ⟨meaning 0 l, (nonempty name).getD file, some source, temporaryCount l⟩ := by
  constructor
  · exact of_parse_eq_ok
  · rintro ⟨ts, l, tokens, read, same⟩
    exact (parse_eq_ok_iff tokens).mpr ⟨l, read, same⟩

/-- The second of two joined texts is cut as it is alone, but on the lines behind the first. -/
theorem tokenize_joined {s t file : String} {r : Tokens} : tokenize (s ++ "\n" ++ t) file = .ok r ↔
    ∃ ts us, tokenize s file = .ok ts ∧ tokenize t file = .ok us ∧
      r = ts.joined (us.down (1 + s.toList.count '\n')) := by
  have split : (s ++ "\n" ++ t).toList = s.toList ++ '\n' :: t.toList := by simp
  have behind (ts : Tokens) (tokens : tokenize s file = .ok ts) :
      after ts.finish.location '\n'.toNat = Location.down (1 + s.toList.count '\n') ⟨1, 1, file⟩ := by
    obtain ⟨line, source⟩ := finish_of_tokensFrom tokens
    simp [after, Location.down, line, source, Nat.add_comm]
  rw [tokenize, split, tokensFrom_line]
  constructor
  · rintro ⟨ts, us, tokens, cut, rfl⟩
    rw [behind ts tokens, tokensFrom_down] at cut
    obtain ⟨us, tokens', rfl⟩ := cut
    exact ⟨ts, us, tokens, tokens', rfl⟩
  · rintro ⟨ts, us, tokens, tokens', rfl⟩
    refine ⟨ts, _, tokens, ?_, rfl⟩
    rw [behind ts tokens, tokensFrom_down]
    exact ⟨us, tokens', rfl⟩

/-- Reading goes line by line. Two texts with a line feed between them are read exactly when each of them
    is. The operations are then those of the first and behind them those of the second, whose places
    are as many lines further down as the first text has, and whose temporaries go on from those of
    the first. -/
theorem parse_joined (s t file : String) (name : Option String) (r : Program) :
    parse (s ++ "\n" ++ t) file name = .ok r ↔ ∃ p q, parse s file name = .ok p ∧
      parse t file name = .ok q ∧ r = p.joined q (1 + s.toList.count '\n') (s ++ "\n" ++ t) := by
  -- the statements of the second text stand for the same, behind lines and temporaries
  have read_joined (l k : List (Location × Statement)) (us : Tokens) (tokens : tokenize t file = .ok us)
      (read : readStatements us = .ok k) (lines : Nat) :
      meaning 0 (l ++ k.map (Prod.map (Location.down lines) id)) =
        meaning 0 l ++ (meaning 0 k).map (Operation.behind lines (temporaryCount l)) ∧
      temporaryCount (l ++ k.map (Prod.map (Location.down lines) id)) =
        temporaryCount l + temporaryCount k := by
    obtain ⟨operations, count⟩ :=
      meaning_behind (isName_of_readStatements tokens read) 0 (temporaryCount l) lines
    rw [meaning_append, temporaryCount_append, operations, count]
    exact ⟨rfl, rfl⟩
  simp only [parse_eq_ok_iff_exists, tokenize_joined]
  constructor
  · rintro ⟨_, _, ⟨ts, us, tokens, tokens', rfl⟩, read, rfl⟩
    obtain ⟨l, moved, first, second, rfl⟩ := readStatements_joined.mp read
    obtain ⟨k, alone, rfl⟩ := readStatements_down.mp second
    obtain ⟨operations, count⟩ := read_joined l k us tokens' alone (1 + s.toList.count '\n')
    refine ⟨_, _, ⟨ts, l, tokens, first, rfl⟩, ⟨us, k, tokens', alone, rfl⟩, ?_⟩
    rw [operations, count]
    rfl
  · rintro ⟨_, _, ⟨ts, l, tokens, read, rfl⟩, ⟨us, k, tokens', read', rfl⟩, rfl⟩
    obtain ⟨operations, count⟩ := read_joined l k us tokens' read' (1 + s.toList.count '\n')
    refine ⟨_, _, ⟨ts, us, tokens, tokens', rfl⟩,
      readStatements_joined.mpr ⟨l, _, read, readStatements_down.mpr ⟨k, read', rfl⟩, rfl⟩, ?_⟩
    rw [operations, count]
    rfl

end Program

end PointerTrace
