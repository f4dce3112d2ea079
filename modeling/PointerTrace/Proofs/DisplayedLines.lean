import PointerTrace.Proofs.Lexemes
import PointerTrace.Proofs.Parsing

/- The line that is displayed for an operation. Places count line feeds only, while a text is displayed
   in lines that end in other ways too, so that a form feed or a lone carriage return in a comment
   moves what is displayed behind it (`Text.strayEnds` counts such ends). The displayed line is that of
   the statement that the operation comes from exactly as long as there is none in front of it; else
   it is one that has ended before the statement (`Program.lineOf_comesFrom`). -/
namespace PointerTrace

namespace Text

/-! ## Displayed lines -/

/-- The number of ends of displayed lines that are neither a line feed nor the carriage return in front
    of one. -/
def strayEnds : List Char → Nat
  | [] => 0
  | '\r' :: '\n' :: rest => strayEnds rest
  | c :: rest => strayEnds rest + if endsLine c && c ≠ '\n' then 1 else 0

/-- The displayed lines that end in a text, and the line that is open behind it, in reverse. A line that
    is open in front of the text is given in reverse too. -/
def closing : List Char → List Char → List (List Char) × List Char
  | line, [] => ([], line)
  | line, '\r' :: '\n' :: rest => (line.reverse :: (closing [] rest).1, (closing [] rest).2)
  | line, c :: rest => if endsLine c then (line.reverse :: (closing [] rest).1, (closing [] rest).2)
    else closing (c :: line) rest

variable {line before cs rest : List Char}

/-- What follows a text is displayed behind the lines that end in it. -/
theorem linesFrom_append (apart : rest.head? ≠ some '\n') : linesFrom line (before ++ rest) =
    (closing line before).1 ++ linesFrom (closing line before).2 rest := by
  -- a carriage return that the first part ends with is not taken together with what follows
  have alone : ∀ {c : Char} {later : List Char},
      (∀ tail, c = '\r' → later = '\n' :: tail → False) →
        ∀ tail, c = '\r' → later ++ rest = '\n' :: tail → False := by
    intro c later single tail feed same
    cases later with
    | nil =>
      rw [List.nil_append] at same
      exact apart (same ▸ rfl)
    | cons d later =>
      cases same
      exact single later feed rfl
  fun_induction closing line before with
  | case1 line => rfl
  | case2 line later ih =>
    rw [List.cons_append, List.cons_append, linesFrom, ih]
    rfl
  | case3 line c later single ends ih =>
    rw [List.cons_append, linesFrom, if_pos ends, ih]
    · rfl
    · exact alone single
  | case4 line c later single inLine ih =>
    rw [List.cons_append, linesFrom, if_neg inLine, ih]
    exact alone single

/-- One line ends at each line feed and at each stray end. -/
theorem length_closing (line before : List Char) :
    (closing line before).1.length = before.count '\n' + strayEnds before := by
  fun_induction closing line before with
  | case1 line => rfl
  | case2 line later ih =>
    rw [strayEnds, List.length_cons, ih, List.count_cons_of_ne (by decide), List.count_cons_self]
    omega
  | case3 line c later single ends ih =>
    rw [strayEnds, List.length_cons, ih, List.count_cons]
    · by_cases feed : c = '\n'
      · simp [feed]
        omega
      · simp [ends, feed]
        omega
    · exact single
  | case4 line c later single inLine ih =>
    have feed : c ≠ '\n' := by
      intro same
      subst same
      exact inLine rfl
    rw [strayEnds, ih, List.count_cons_of_ne feed]
    · simp [inLine]
    · exact single

/-- A line that ends in a text is a piece of it in front of what ends a line. -/
theorem piece_of_closing {l : List Char} (closed : l ∈ (closing line before).1) :
    ∃ u e v, line.reverse ++ before = u ++ l ++ e :: v ∧ endsLine e = true := by
  fun_induction closing line before with
  | case1 line => cases closed
  | case2 line later ih =>
    rcases List.mem_cons.mp closed with rfl | more
    · exact ⟨[], '\r', '\n' :: later, rfl, rfl⟩
    · obtain ⟨u, e, v, same, ends⟩ := ih more
      rw [List.reverse_nil, List.nil_append] at same
      exact ⟨line.reverse ++ '\r' :: '\n' :: u, e, v, by simp [same], ends⟩
  | case3 line c later single ends ih =>
    rcases List.mem_cons.mp closed with rfl | more
    · exact ⟨[], c, later, rfl, ends⟩
    · obtain ⟨u, e, v, same, ends⟩ := ih more
      rw [List.reverse_nil, List.nil_append] at same
      exact ⟨line.reverse ++ c :: u, e, v, by simp [same], ends⟩
  | case4 line c later single inLine ih =>
    obtain ⟨u, e, v, same, ends⟩ := ih closed
    exact ⟨u, e, v, by simpa using same, ends⟩

theorem linesFrom_run (inLine : ∀ c ∈ cs, endsLine c = false) :
    linesFrom line (cs ++ rest) = linesFrom (cs.reverse ++ line) rest := by
  induction cs generalizing line with
  | nil => rfl
  | cons c cs ih =>
    obtain ⟨here, later⟩ := List.forall_mem_cons.mp inLine
    rw [List.cons_append, linesFrom, if_neg (Bool.eq_false_iff.mp here), ih later]
    · simp
    · intro tail feed same
      subst feed
      cases here

/-- A line that is open and holds something is displayed next. -/
theorem exists_linesFrom (opened : line ≠ []) (rest : List Char) :
    ∃ more later, linesFrom line rest = (line.reverse ++ more) :: later := by
  fun_induction linesFrom line rest with
  | case1 => exact absurd rfl opened
  | case2 line some => exact ⟨[], [], by simp⟩
  | case3 line rest ih => exact ⟨[], linesFrom [] rest, by simp⟩
  | case4 line c rest single ends ih => exact ⟨[], linesFrom [] rest, by simp⟩
  | case5 line c rest single inLine ih =>
    obtain ⟨more, later, same⟩ := ih (List.cons_ne_nil c line)
    exact ⟨c :: more, later, by simp [same]⟩

theorem toNat_eq_lineFeed {c : Char} : c.toNat = '\n'.toNat ↔ c = '\n' := by
  constructor
  · intro same
    rw [← Char.ofNat_toNat c, same]
    rfl
  · intro same
    rw [same]

/-- What a mark makes of the character behind it is no line feed. -/
theorem ne_lineFeed_of_marked? {c : Char} {n : Nat} (marked : marked? c = some n) :
    c ≠ '\n' ∧ n ≠ '\n'.toNat := by
  constructor
  · intro same
    rw [same, marked?_of_lt (by decide)] at marked
    cases marked
  · intro same
    rw [same, marked?] at marked
    split at marked
    case isTrue => simp at marked
    split at marked
    case isTrue half =>
      rw [Option.some.inj marked] at half
      exact absurd half (by decide)
    case isFalse => cases marked

/-- The line feeds among characters are those among their code points. -/
theorem count_codePoints (cs : List Char) :
    (codePoints cs).count '\n'.toNat = cs.count '\n' := by
  have single : ∀ (c : Char) {l : List Nat} {k : List Char}, l.count '\n'.toNat = k.count '\n' →
      (c.toNat :: l).count '\n'.toNat = (c :: k).count '\n' := by
    intro c l k same
    rw [List.count_cons, List.count_cons, same]
    simp only [beq_iff_eq, toNat_eq_lineFeed]
  induction cs using codePoints.induct with
  | case1 => rfl
  | case2 c => exact single c rfl
  | case3 d rest n marked ih =>
    obtain ⟨other, otherPoint⟩ := ne_lineFeed_of_marked? marked
    have points : codePoints (mark :: d :: rest) = n :: codePoints rest := by
      simp [codePoints, marked]
    rw [points, List.count_cons_of_ne otherPoint, ih, List.count_cons_of_ne (by decide),
      List.count_cons_of_ne other]
  | case4 d rest marked ih =>
    have points : codePoints (mark :: d :: rest) = mark.toNat :: codePoints (d :: rest) := by
      simp [codePoints, marked]
    rw [points]
    exact single mark ih
  | case5 c d rest other ih =>
    rw [codePoints_cons_of_ne other]
    exact single c ih

/-- Where no stray end stands before, the open line is what follows the last line feed. -/
theorem openLine_codePoints (none : strayEnds before = 0) (inLine : '\n' ∉ line) :
    openLine (codePoints (line.reverse ++ before)) =
      codePoints (closing line before).2.reverse := by
  -- a line feed is a code point of its own, so that nothing before it is in the open line
  have feed : ∀ cs later, openLine (codePoints (cs ++ '\n' :: later)) = openLine (codePoints later) := by
    intro cs later
    calc openLine (codePoints (cs ++ '\n' :: later))
        = openLine (codePoints cs ++ codePoints ('\n' :: later)) := by
          rw [codePoints_append_of_head]
          intro c head
          cases head
          exact marked?_of_lt (by decide)
      _ = openLine (codePoints cs ++ '\n'.toNat :: codePoints later) := by
          rw [codePoints_cons_of_ne (by decide)]
      _ = openLine (codePoints later) := openLine_append_lineFeed _ _
  fun_induction closing line before with
  | case1 line =>
    rw [List.append_nil]
    apply openLine_of_notMem
    rw [← List.count_eq_zero, count_codePoints, List.count_eq_zero]
    simpa using inLine
  | case2 line later ih =>
    rw [strayEnds] at none
    have behind := ih none (by simp)
    rw [List.reverse_nil, List.nil_append] at behind
    have split : line.reverse ++ '\r' :: '\n' :: later = (line.reverse ++ ['\r']) ++ '\n' :: later := by
      simp
    rw [split, feed, behind]
  | case3 line c later single ends ih =>
    rw [strayEnds] at none
    · obtain ⟨noneLater, here⟩ := Nat.add_eq_zero_iff.mp none
      have same : c = '\n' := by simpa [ends] using here
      have behind := ih noneLater (by simp)
      rw [List.reverse_nil, List.nil_append] at behind
      rw [same, feed, behind]
    · exact single
  | case4 line c later single goesOn ih =>
    have split : line.reverse ++ c :: later = (c :: line).reverse ++ later := by simp
    have other : c ≠ '\n' := by
      intro same
      subst same
      exact goesOn rfl
    rw [strayEnds] at none
    · rw [split]
      apply ih (Nat.add_eq_zero_iff.mp none).1
      intro inside
      rcases List.mem_cons.mp inside with same | earlier
      · exact other same.symm
      · exact inLine earlier
    · exact single

/-! ## The line of a statement -/

/-- Where what follows some characters is displayed, when it starts inside a line. Without a stray end
    in front of it, the line that has the number of line feeds before is the right one; with one, that
    line has ended before. -/
theorem line_of_count (before : List Char) {lexeme : List Char} (nonempty : lexeme ≠ [])
    (inLine : ∀ c ∈ lexeme, endsLine c = false) (rest : List Char) :
    ∃ line, (linesFrom [] (before ++ (lexeme ++ rest)))[before.count '\n']? = some line ∧
      (strayEnds before = 0 → ∃ more, line = (closing [] before).2.reverse ++ lexeme ++ more) ∧
      (strayEnds before ≠ 0 → ∃ u e v, before = u ++ line ++ e :: v ∧ endsLine e = true) := by
  have apart : (lexeme ++ rest).head? ≠ some '\n' := by
    obtain ⟨c, more, rfl⟩ := List.exists_cons_of_ne_nil nonempty
    intro head
    cases head
    cases inLine '\n' List.mem_cons_self
  rw [linesFrom_append apart]
  -- the line that is open behind `before` has as its number the line feeds and the stray ends together
  have length := length_closing [] before
  by_cases stray : strayEnds before = 0
  · have opened : lexeme.reverse ++ (closing [] before).2 ≠ [] := by
      simp [nonempty]
    obtain ⟨more, later, next⟩ := exists_linesFrom opened rest
    refine ⟨(closing [] before).2.reverse ++ lexeme ++ more, ?_, fun _ => ⟨more, rfl⟩,
      fun other => absurd stray other⟩
    rw [List.getElem?_append_right (by omega), linesFrom_run inLine, next, length, stray]
    simp
  · have closed : before.count '\n' < (closing [] before).1.length := by omega
    refine ⟨(closing [] before).1[before.count '\n'], ?_, fun none => absurd none stray, fun _ => ?_⟩
    · rw [List.getElem?_append_left closed, List.getElem?_eq_getElem closed]
    · exact piece_of_closing (List.getElem_mem closed)

end Text

namespace Trace

/-- The operation is one of those of a statement that starts with the token. -/
inductive ComesFrom (ts : Tokens) (op : Operation) : Token → Prop
  | mk {first : Token} {rest : List Token} {statement : Statement} {used : Nat}
      (piece : first :: rest ∈ ts.toList.splitOnP (·.symbol.endsStatement))
      (spelled : IsStatement ((first :: rest).map Token.symbol) statement)
      (action : op.action ∈ statement.meaning used) (located : op.location = some first.location) :
      ComesFrom ts op first

/-- The line holds the text of the token from the column of the token on. -/
def Token.ShownIn (t : Token) (line : String) : Prop :=
  Text.points t.symbol.text <+: (Text.points line).drop (t.location.column - 1)

variable {ts : Tokens} {op : Operation} {first : Token}

/-- An operation is one of those of a statement, and has the statement's place. -/
theorem mem_meaning {used : Nat} {l : List (Location × Statement)} (inside : op ∈ meaning used l) :
    ∃ place s used', (place, s) ∈ l ∧ op.action ∈ s.meaning used' ∧ op.location = some place := by
  induction l generalizing used with
  | nil => cases inside
  | cons head l ih =>
    obtain ⟨place, s⟩ := head
    rcases List.mem_append.mp inside with here | later
    · obtain ⟨a, action, rfl⟩ := List.mem_map.mp here
      exact ⟨place, s, used, List.mem_cons_self, action, rfl⟩
    · obtain ⟨place', s', used', known, rest⟩ := ih later
      exact ⟨place', s', used', List.mem_cons_of_mem _ known, rest⟩

/-- What is related to the elements of a list comes from one of them. -/
theorem exists_of_forall₂ {α β : Type} {R : α → β → Prop} {l : List α} {k : List β}
    (related : List.Forall₂ R l k) {y : β} (inside : y ∈ k) : ∃ x ∈ l, R x y := by
  induction related with
  | nil => cases inside
  | cons here more ih =>
    rcases List.mem_cons.mp inside with rfl | later
    · exact ⟨_, List.mem_cons_self, here⟩
    · obtain ⟨x, known, same⟩ := ih later
      exact ⟨x, List.mem_cons_of_mem _ known, same⟩

/-- Whatever is read comes from a piece of the tokens. -/
theorem exists_segment {l : List (Location × Statement)} (read : readStatements ts = .ok l)
    {place : Location} {s : Statement} (known : (place, s) ∈ l) :
    ∃ segment ∈ segments ts.finish ts.body, Spells segment.tokens (some (place, s)) := by
  obtain ⟨found, outcome, rfl⟩ := readStatements_eq_ok_iff.mp read
  obtain ⟨_, inside, rfl⟩ := List.mem_filterMap.mp known
  obtain ⟨segment, here, same⟩ := exists_of_forall₂ (mapM_eq_ok.mp outcome) inside
  exact ⟨segment, here, spells_of_readSegment same⟩

theorem comesFrom_of_meaning {l : List (Location × Statement)} (read : readStatements ts = .ok l)
    (ended : ts.finish.symbol = .eof) (inside : op ∈ meaning 0 l) :
    ∃ first ∈ ts.body, ComesFrom ts op first := by
  obtain ⟨place, s, used, known, action, located⟩ := mem_meaning inside
  obtain ⟨segment, here, spells⟩ := exists_segment read known
  have piece : segment.tokens ∈ ts.toList.splitOnP (·.symbol.endsStatement) := by
    rw [splitOnP_toList (by rw [ended]; rfl), ← segments_tokens ts.finish]
    exact List.mem_append_left _ (List.mem_map_of_mem here)
  have written := segment_subset here
  generalize segment.tokens = tokens at spells piece written
  cases spells with
  | @statement first rest s spelled =>
    exact ⟨first, written List.mem_cons_self, .mk piece spelled action located⟩

theorem ComesFrom.location (comes : ComesFrom ts op first) : op.location = some first.location := by
  cases comes
  assumption

/-- A statement starts with a word or a star. -/
theorem ComesFrom.symbol (comes : ComesFrom ts op first) :
    first.symbol = .letWord ∨ first.symbol = .star ∨ ∃ name, first.symbol = .name name := by
  obtain ⟨-, spelled, -, -⟩ := comes
  generalize symbols : (first :: _).map Token.symbol = l at spelled
  cases spelled with
  | binding => exact .inl (List.cons.inj symbols).1
  | deref | derefAssign => exact .inr (.inl (List.cons.inj symbols).1)
  | assign name | call name => exact .inr (.inr ⟨name, (List.cons.inj symbols).1⟩)

/-- The first token of a statement is written as its text, inside a line. -/
theorem IsLexeme.of_start {rest lexeme : List Char} {s : Symbol} (spelled : IsLexeme rest lexeme s)
    (word : s = .letWord ∨ s = .star ∨ ∃ name, s = .name name) : lexeme = s.text.toList ∧
      lexeme ≠ [] ∧ ∀ c ∈ lexeme, c.toNat < 0x100000 ∧ Text.endsLine c = false := by
  refine ⟨?_, ?_, ?_⟩
  · cases spelled with
    | newline | number => simp at word
    | word | mark => rfl
  · obtain ⟨c, more, rfl, -⟩ := spelled.cut
    exact List.cons_ne_nil c more
  · rcases spelled.chars with ⟨feed, -⟩ | ⟨-, -, inLine⟩
    · simp [feed] at word
    · exact inLine

section Shown

variable {source : String} {before later : List Char}
  (split : source.toList = before ++ (first.symbol.text.toList ++ later))
  (nonempty : first.symbol.text.toList ≠ [])
  (low : ∀ c ∈ first.symbol.text.toList, c.toNat < 0x100000)
  (located : first.location.rest? (Text.points source) =
    some (Text.codePoints (first.symbol.text.toList ++ later)))

include nonempty low in
/-- No code point is held across the start of a token. -/
theorem codePoints_append_text (cs later : List Char) :
    Text.codePoints (cs ++ (first.symbol.text.toList ++ later)) =
      Text.codePoints cs ++ Text.codePoints (first.symbol.text.toList ++ later) := by
  apply Text.codePoints_append_of_head
  intro c head
  obtain ⟨d, more, start⟩ := List.exists_cons_of_ne_nil nonempty
  rw [start] at head low
  cases head
  exact Text.marked?_of_lt (low c List.mem_cons_self)

include split nonempty low located in
/-- The place of a token is right behind what stands before it. -/
theorem behind_of_rest? : first.location.Behind (Text.codePoints before) := by
  obtain ⟨front, same, behind⟩ := Location.rest?_eq_some.mp located
  rw [Text.points, split, codePoints_append_text nonempty low] at same
  rwa [List.append_cancel_right same]

include nonempty low in
/-- Where no stray end stands before it, a token is shown in the line that is open there. -/
theorem shownIn_of_strayEnds (behind : first.location.Behind (Text.codePoints before))
    (none : Text.strayEnds before = 0) (more : List Char) : first.ShownIn
      (String.ofList ((Text.closing [] before).2.reverse ++ first.symbol.text.toList ++ more)) := by
  have opened := @Text.openLine_codePoints [] before none (by simp)
  rw [List.reverse_nil, List.nil_append] at opened
  rw [Token.ShownIn, behind.column, opened, Nat.add_sub_cancel, Text.points, Text.points,
    String.toList_ofList, List.append_assoc, codePoints_append_text nonempty low, List.drop_left,
    Text.codePoints_append_of_lt low, Text.codePoints_of_lt low]
  exact List.prefix_append _ _

end Shown

end Trace

namespace Program

open Trace

variable {source file : String} {name : Option String} {p : Program} {i : Nat} {op : Operation}

/-- What a text that is read consists of. -/
theorem of_parse_eq_ok (parsed : parse source file name = .ok p) : ∃ ts l,
    tokenize source file = .ok ts ∧ readStatements ts = .ok l ∧
    p = ⟨meaning 0 l, (nonempty name).getD file, some source, temporaryCount l⟩ := by
  cases tokens : tokenize source file with
  | error issue =>
    rw [parse, tokens] at parsed
    cases parsed
  | ok ts =>
    obtain ⟨l, read, same⟩ := (parse_eq_ok_iff tokens).mp parsed
    exact ⟨ts, l, rfl, read, same⟩

/-- The line that is displayed has the number that the place of the operation gives. -/
theorem lineOf_of_location (text : p.source = some source) (operation : p.operations[i]? = some op)
    {l : Location} (located : op.location = some l) {n : Nat} (line : l.line = n + 1) :
    p.lineOf i = (Text.lines source)[n]? := by
  simp [lineOf, text, operation, located, line]

/-- The line that is displayed for an operation of a text. The operation comes from a statement that
    starts with a word or a star, at the place that the operation has. When no stray line end stands in
    front of the statement, the displayed line holds its first token from the column of that place on;
    else the displayed line has ended before the statement. -/
theorem lineOf_comesFrom (parsed : parse source file name = .ok p)
    (operation : p.operations[i]? = some op) : ∃ ts first before later line,
      tokenize source file = .ok ts ∧ ComesFrom ts op first ∧
      (first.symbol = .letWord ∨ first.symbol = .star ∨ ∃ name, first.symbol = .name name) ∧
      source.toList = before ++ (first.symbol.text.toList ++ later) ∧
      first.location.rest? (Text.points source) =
        some (Text.codePoints (first.symbol.text.toList ++ later)) ∧
      p.lineOf i = some line ∧
      (Text.strayEnds before = 0 → first.ShownIn line) ∧
      (Text.strayEnds before ≠ 0 →
        ∃ u e v, before = u ++ line.toList ++ e :: v ∧ Text.endsLine e = true) := by
  obtain ⟨ts, l, tokens, read, rfl⟩ := of_parse_eq_ok parsed
  obtain ⟨parts, chars, laid, body, ended, -⟩ := laid_of_tokenize tokens
  obtain ⟨first, known, comes⟩ := comesFrom_of_meaning read ended (List.mem_of_getElem? operation)
  obtain ⟨before, lexeme, later, split, spelled, located⟩ := laid.exists_lexeme (body ▸ known)
  have word := comes.symbol
  obtain ⟨rfl, nonempty, inLine⟩ := spelled.of_start word
  rw [List.append_nil, ← chars] at split
  have low : ∀ c ∈ first.symbol.text.toList, c.toNat < 0x100000 := fun c inside => (inLine c inside).1
  have behind := behind_of_rest? split nonempty low located
  obtain ⟨line, shown, right, wrong⟩ :=
    Text.line_of_count before nonempty (fun c inside => (inLine c inside).2) later
  refine ⟨ts, first, before, later, String.ofList line, tokens, comes, word, split, located, ?_, ?_, ?_⟩
  · have number : first.location.line = before.count '\n' + 1 := by
      rw [behind.line, Text.count_codePoints]
    rw [lineOf_of_location rfl operation comes.location number, Text.lines, split,
      List.getElem?_map, shown]
    rfl
  · intro none
    obtain ⟨more, rfl⟩ := right none
    exact shownIn_of_strayEnds nonempty low behind none more
  · intro stray
    rw [String.toList_ofList]
    exact wrong stray

/-- Two reads, with a form feed in a comment between them. -/
def strayFeed : String := "*p\n#\x0c\n*q"

theorem tokenize_strayFeed : tokenize strayFeed "t" = .ok
    ⟨[⟨.star, ⟨1, 1, "t"⟩⟩, ⟨.name "p", ⟨1, 2, "t"⟩⟩, ⟨.newline, ⟨1, 3, "t"⟩⟩,
      ⟨.newline, ⟨2, 3, "t"⟩⟩, ⟨.star, ⟨3, 1, "t"⟩⟩, ⟨.name "q", ⟨3, 2, "t"⟩⟩],
    ⟨.eof, ⟨3, 3, "t"⟩⟩⟩ := by
  have q := @tokensFrom_piece ⟨3, 2, "t"⟩ 'q' [] 0 (some (.name "q")) _ rfl (tokensFrom_nil _)
  have star := @tokensFrom_piece ⟨3, 1, "t"⟩ '*' ['q'] 0 (some .star) _ rfl q
  have feed := @tokensFrom_piece ⟨2, 3, "t"⟩ '\n' "*q".toList 0 (some .newline) _ rfl star
  have comment := @tokensFrom_piece ⟨2, 1, "t"⟩ '#' "\x0c\n*q".toList 1 none _ rfl feed
  have first := @tokensFrom_piece ⟨1, 3, "t"⟩ '\n' "#\x0c\n*q".toList 0 (some .newline) _ rfl comment
  have p := @tokensFrom_piece ⟨1, 2, "t"⟩ 'p' "\n#\x0c\n*q".toList 0 (some (.name "p")) _ rfl first
  exact @tokensFrom_piece ⟨1, 1, "t"⟩ '*' "p\n#\x0c\n*q".toList 0 (some .star) _ rfl p

theorem parse_strayFeed : parse strayFeed "t" none = .ok
    ⟨[⟨.read "p" none, some ⟨1, 1, "t"⟩⟩, ⟨.read "q" none, some ⟨3, 1, "t"⟩⟩], "t",
      some strayFeed, 0⟩ := by
  rw [parse_eq tokenize_strayFeed]
  rfl

theorem lineOf_comesFrom_strayFeed : ∃ p op, parse strayFeed "t" none = .ok p ∧
    p.operations[1]? = some op ∧ ∃ ts first before later line,
      tokenize strayFeed "t" = .ok ts ∧ ComesFrom ts op first ∧
      (first.symbol = .letWord ∨ first.symbol = .star ∨ ∃ name, first.symbol = .name name) ∧
      strayFeed.toList = before ++ (first.symbol.text.toList ++ later) ∧
      first.location.rest? (Text.points strayFeed) =
        some (Text.codePoints (first.symbol.text.toList ++ later)) ∧
      p.lineOf 1 = some line ∧
      (Text.strayEnds before = 0 → first.ShownIn line) ∧
      (Text.strayEnds before ≠ 0 →
        ∃ u e v, before = u ++ line.toList ++ e :: v ∧ Text.endsLine e = true) :=
  ⟨_, _, parse_strayFeed, rfl, lineOf_comesFrom parse_strayFeed rfl⟩

/-- The line that is displayed for an operation need not be that of its statement: behind the form feed
    the second read is displayed as an empty line. -/
theorem not_forall_shownIn : ¬ ∀ (source file : String) (name : Option String) (p : Program) (i : Nat)
    (op : Operation), parse source file name = .ok p → p.operations[i]? = some op →
      ∃ ts first line, tokenize source file = .ok ts ∧ ComesFrom ts op first ∧
        p.lineOf i = some line ∧ first.ShownIn line := by
  intro all
  obtain ⟨ts, first, line, tokens, comes, displayed, shown⟩ :=
    all strayFeed "t" none _ 1 _ parse_strayFeed rfl
  rw [tokenize_strayFeed] at tokens
  cases tokens
  have empty : line = "" := by
    cases displayed
    rfl
  have star : first.symbol = .star := by
    obtain ⟨piece, -, -, -⟩ := comes
    simp [Tokens.toList, List.splitOnP_cons_eq_if_modifyHead, Symbol.endsStatement] at piece
    rcases piece with ⟨rfl, -⟩ | ⟨rfl, -⟩ <;> rfl
  rw [Token.ShownIn, star, empty] at shown
  simp [Text.points, Text.codePoints, Symbol.text] at shown

end Program

end PointerTrace
