import PointerTrace.Proofs.Places
import PointerTrace.Proofs.Scanning
import PointerTrace.Text.Lines

/- What stands between the tokens of a text, and where the tokens stand. A text is cut into parts:
   blanks, comments and tokens as they are written. When a part is cut off depends on what follows it
   (`Part.Fits`): a comment goes on to the end of its line, and a number or a word as far as it can.
   The text is read exactly when the parts make up all of it, and the place of each token is where its
   part starts; else the place of the one fault is where the parts that can be cut off end
   (`tokenize_lexemes`). -/
namespace PointerTrace

namespace Text

/-! ## Code points of parts -/

theorem inside_of_le {bounds : List Nat} {point : Nat} (above : ∀ b ∈ bounds, b ≤ point) :
    inside bounds point = decide (bounds.length % 2 = 1) := by
  induction bounds with
  | nil => rfl
  | cons bound rest ih =>
    have behind := ih fun b inside => above b (List.mem_cons_of_mem bound inside)
    have past : ¬ point < bound := Nat.not_lt.mpr (above bound List.mem_cons_self)
    rw [inside, if_neg past, behind, List.length_cons]
    by_cases even : rest.length % 2 = 1
    · simp [even]
      omega
    · simp [even]
      omega

/-- Names are written below the code points that stand for halves and marks. -/
theorem toNat_lt_of_continuesName {c : Char} (continues : continuesName c = true) :
    c.toNat < 0x100000 := by
  by_contra high
  -- the bounds of both sets lie below, in even number, so that what is above them is outside
  have letters : ∀ b ∈ letterBounds, b ≤ 0x100000 := by decide +kernel
  have numerals : ∀ b ∈ numeralBounds, b ≤ 0x100000 := by decide +kernel
  have noLetter := inside_of_le fun b known => (letters b known).trans (Nat.not_lt.mp high)
  have noNumeral := inside_of_le fun b known => (numerals b known).trans (Nat.not_lt.mp high)
  have wide : ¬ c.toNat < 128 := by omega
  have line : c ≠ '_' := by
    intro same
    subst same
    exact high (by decide)
  simp only [continuesName, isLetter, isNumeral, if_neg wide, noLetter, noNumeral, line] at continues
  revert continues
  decide +kernel

/-- Names go on in their line. -/
theorem not_endsLine_of_continuesName {c : Char} (continues : continuesName c = true) :
    endsLine c = false := by
  have all : ∀ n ∈ [10, 11, 12, 13, 28, 29, 30, 0x85, 0x2028, 0x2029],
      continuesName (Char.ofNat n) = false := by decide +kernel
  cases ends : endsLine c with
  | false => rfl
  | true =>
    have known : c.toNat ∈ [10, 11, 12, 13, 28, 29, 30, 0x85, 0x2028, 0x2029] := by
      simp only [endsLine, Bool.or_eq_true, Bool.and_eq_true, decide_eq_true_eq] at ends
      simp only [List.mem_cons, List.not_mem_nil, or_false]
      omega
    have other := all c.toNat known
    rw [Char.ofNat_toNat, continues] at other
    cases other

theorem ne_mark_of_lt {c : Char} (low : c.toNat < 0x100000) : c ≠ mark := by
  intro same
  subst same
  exact absurd low (by decide)

theorem marked?_of_lt {c : Char} (low : c.toNat < 0x100000) : marked? c = none := by
  have nothing : c.toNat - 0x100000 = 0 := by omega
  rw [marked?, if_neg (ne_mark_of_lt low), nothing]
  rfl

/-- Characters below the marks are code points of their own. -/
theorem codePoints_append_of_lt {cs : List Char} (low : ∀ c ∈ cs, c.toNat < 0x100000)
    (rest : List Char) : codePoints (cs ++ rest) = cs.map Char.toNat ++ codePoints rest := by
  induction cs with
  | nil => rfl
  | cons c cs ih =>
    obtain ⟨here, later⟩ := List.forall_mem_cons.mp low
    rw [List.cons_append, codePoints_cons_of_ne (ne_mark_of_lt here), ih later]
    rfl

theorem codePoints_of_lt {cs : List Char} (low : ∀ c ∈ cs, c.toNat < 0x100000) :
    codePoints cs = cs.map Char.toNat := by
  have alone := codePoints_append_of_lt low []
  rwa [List.append_nil, codePoints, List.append_nil] at alone

/-- No code point is held across a place where nothing marked follows. -/
theorem codePoints_append_of_head {cs rest : List Char}
    (unmarked : ∀ c ∈ rest.head?, marked? c = none) :
    codePoints (cs ++ rest) = codePoints cs ++ codePoints rest := by
  induction cs using codePoints.induct with
  | case1 => rfl
  | case2 c =>
    cases rest with
    | nil => rfl
    | cons d rest =>
      have other := unmarked d rfl
      simp [codePoints, other]
  | case3 d rest' n marked ih => simp [codePoints, marked, ih]
  | case4 d rest' marked ih =>
    rw [List.cons_append] at ih
    simp [codePoints, marked, ih]
  | case5 c d rest' other ih =>
    rw [List.cons_append] at ih
    simp [codePoints, other, ih]

end Text

namespace Trace

/-! ## Tokens as they are written -/

/-- The tokens that have one spelling, which is no word. -/
def Symbol.marks : List Symbol :=
  [.ampersand, .star, .minus, .assign, .doubleColon, .leftParen, .rightParen, .colon, .semicolon]

/-- How a token is written in front of a rest. A number is written in digits, with underscores that do
    not count, and a word as it is; neither goes on in the rest. -/
inductive IsLexeme (rest : List Char) : List Char → Symbol → Prop
  | newline : IsLexeme rest ['\n'] .newline
  | number {c : Char} {more : List Char} (digit : c.isDigit = true)
      (run : ∀ d ∈ more, continuesNumber d = true)
      (stops : ∀ d ∈ rest.head?, continuesNumber d = false) :
      IsLexeme rest (c :: more) (.number (String.ofList ((c :: more).filter (· ≠ '_'))))
  | word {s : Symbol} (word : isWord s.text.toList = true) (own : .ofWord s.text = s)
      (ends : Ends rest) : IsLexeme rest s.text.toList s
  | mark {s : Symbol} (known : s ∈ Symbol.marks) (single : s = .colon → rest.head? ≠ some ':') :
      IsLexeme rest s.text.toList s

/-- A part of a text. -/
inductive Part where
  | blank (c : Char)
  | comment (text : List Char)
  | token (lexeme : List Char) (t : Token)

namespace Part

/-- The text of a part. -/
def chars : Part → List Char
  | .blank c => [c]
  | .comment text => text
  | .token lexeme _ => lexeme

/-- The token that a part is. -/
def token? : Part → Option Token
  | .token _ t => some t
  | _ => none

/-- Whether a part may be cut off in front of a rest. -/
inductive Fits (rest : List Char) : Part → Prop
  | blank {c : Char} (known : c ∈ [' ', '\t', '\r']) : Fits rest (.blank c)
  | comment {text : List Char} (starts : ['#'] <+: text ∨ ['/', '/'] <+: text)
      (inLine : '\n' ∉ text) (ends : ∀ c ∈ rest.head?, c = '\n') : Fits rest (.comment text)
  | token {lexeme : List Char} {t : Token} (spelled : IsLexeme rest lexeme t.symbol) :
      Fits rest (.token lexeme t)

end Part

/-- In front of a rest a text is laid out in parts, each token at its place in the text. -/
inductive Laid (text : List Nat) (rest : List Char) : List Part → Prop
  | nil : Laid text rest []
  | cons {part : Part} {parts : List Part} (fits : part.Fits (parts.flatMap Part.chars ++ rest))
      (located : ∀ t ∈ part.token?, t.location.rest? text =
        some (Text.codePoints (part.chars ++ (parts.flatMap Part.chars ++ rest))))
      (more : Laid text rest parts) : Laid text rest (part :: parts)

/-! ## What is cut off -/

section Cut

variable {c : Char} {rest : List Char} {more : Nat}

/-- A word is the text of the token that it is. -/
theorem text_ofWord (word : String) : (Symbol.ofWord word).text = word := by
  unfold Symbol.ofWord
  split_ifs <;> simp_all [Symbol.text]

/-- What a run takes and what it leaves. -/
theorem take_length_takeWhile (q : Char → Bool) (rest : List Char) :
    rest.take (rest.takeWhile q).length = rest.takeWhile q ∧
      ∀ c ∈ (rest.drop (rest.takeWhile q).length).head?, q c = false := by
  have both : rest.takeWhile q ++ rest.dropWhile q = rest := List.takeWhile_append_dropWhile
  have left : rest.drop (rest.takeWhile q).length = rest.dropWhile q := by
    calc rest.drop (rest.takeWhile q).length
        = (rest.takeWhile q ++ rest.dropWhile q).drop (rest.takeWhile q).length := by rw [both]
      _ = rest.dropWhile q := List.drop_left
  constructor
  · exact (List.prefix_iff_eq_take.mp (List.takeWhile_prefix q)).symm
  · intro c head
    rw [left] at head
    have stops := List.head?_dropWhile_not q rest
    rw [head] at stops
    simpa using stops

/-- The token of a single character is written with it. -/
theorem of_ofChar?_eq_some {s : Symbol} (single : Symbol.ofChar? c = some s) :
    s = .newline ∧ c = '\n' ∨ s ∈ Symbol.marks ∧ s.text.toList = [c] := by
  unfold Symbol.ofChar? at single
  split at single
  case h_10 => cases single
  all_goals
    cases single
    decide

theorem fits_of_startsComment (comment : startsComment c rest = true) :
    (Part.comment (c :: rest.takeWhile (· ≠ '\n'))).Fits
      (rest.drop (rest.takeWhile (· ≠ '\n')).length) := by
  obtain ⟨-, stops⟩ := take_length_takeWhile (· ≠ '\n') rest
  have inLine : '\n' ∉ rest.takeWhile (· ≠ '\n') := fun inside => by
    simpa using List.mem_takeWhile_imp inside
  have ends : ∀ d ∈ (rest.drop (rest.takeWhile (· ≠ '\n')).length).head?, d = '\n' := by
    intro d head
    simpa using stops d head
  simp only [startsComment, Bool.or_eq_true, Bool.and_eq_true, decide_eq_true_eq] at comment
  obtain hash | ⟨slash, head⟩ := comment
  · subst hash
    exact .comment (.inl ⟨_, rfl⟩) (by simpa using inLine) ends
  · subst slash
    obtain ⟨later, split⟩ := List.head?_eq_some_iff.mp head
    refine .comment (.inr ?_) (by simpa using inLine) ends
    rw [split, List.takeWhile_cons_of_pos (by decide)]
    exact ⟨_, rfl⟩

/-- The digits of a number are what is left without its underscores. -/
theorem filter_isDigit {run : List Char} (digit : c.isDigit = true)
    (all : ∀ d ∈ run, continuesNumber d = true) :
    (c :: run).filter Char.isDigit = (c :: run).filter (· ≠ '_') := by
  apply List.filter_congr
  intro d inside
  have known : continuesNumber d = true := by
    rcases List.mem_cons.mp inside with first | later
    · rw [first, continuesNumber, digit, Bool.true_or]
    · exact all d later
  rw [continuesNumber, Bool.or_eq_true, decide_eq_true_eq] at known
  rcases known with digit | line
  · have other : d ≠ '_' := by
      intro line
      rw [line] at digit
      cases digit
    simp [digit, other]
  · subst line
    rfl

theorem lexeme_of_isDigit (digit : c.isDigit = true) :
    IsLexeme (rest.drop (rest.takeWhile continuesNumber).length)
      (c :: rest.takeWhile continuesNumber)
      (.number (String.ofList ((c :: rest.takeWhile continuesNumber).filter Char.isDigit))) := by
  obtain ⟨-, stops⟩ := take_length_takeWhile continuesNumber rest
  have run : ∀ d ∈ rest.takeWhile continuesNumber, continuesNumber d = true :=
    fun d inside => List.mem_takeWhile_imp inside
  rw [filter_isDigit digit run]
  exact .number digit run stops

theorem lexeme_of_startsName (starts : Text.startsName c = true) :
    IsLexeme (rest.drop (rest.takeWhile Text.continuesName).length)
      (c :: rest.takeWhile Text.continuesName)
      (.ofWord (String.ofList (c :: rest.takeWhile Text.continuesName))) := by
  obtain ⟨-, stops⟩ := take_length_takeWhile Text.continuesName rest
  have text : (Symbol.ofWord (String.ofList (c :: rest.takeWhile Text.continuesName))).text.toList =
      c :: rest.takeWhile Text.continuesName := by
    rw [text_ofWord, String.toList_ofList]
  have good : isWord (c :: rest.takeWhile Text.continuesName) = true := by
    rw [isWord, starts, Bool.true_and, List.all_eq_true]
    exact fun d inside => List.mem_takeWhile_imp inside
  have spelled : IsLexeme (rest.drop (rest.takeWhile Text.continuesName).length)
      (Symbol.ofWord (String.ofList (c :: rest.takeWhile Text.continuesName))).text.toList
      (.ofWord (String.ofList (c :: rest.takeWhile Text.continuesName))) :=
    .word (by rwa [text]) (by rw [text_ofWord]) stops
  rwa [text] at spelled

/-- What is cut off is a part that fits. -/
theorem exists_fits {symbol? : Option Symbol} (piece : piece? c rest = some (more, symbol?))
    (place : Location) : ∃ part : Part, part.chars = c :: rest.take more ∧
      part.token? = symbol?.map (⟨·, place⟩) ∧ part.Fits (rest.drop more) := by
  unfold piece? at piece
  split at piece
  case isTrue gap =>
    cases piece
    simp only [isGap, Bool.or_eq_true, decide_eq_true_eq] at gap
    exact ⟨.blank c, rfl, rfl, .blank (by simpa [or_assoc] using gap)⟩
  split at piece
  case isTrue comment =>
    cases piece
    refine ⟨.comment _, ?_, rfl, fits_of_startsComment comment⟩
    rw [(take_length_takeWhile _ rest).1]
    rfl
  split at piece
  case isTrue digit =>
    cases piece
    refine ⟨.token _ ⟨_, place⟩, ?_, rfl, .token (lexeme_of_isDigit digit)⟩
    rw [(take_length_takeWhile _ rest).1]
    rfl
  split at piece
  case isTrue starts =>
    cases piece
    refine ⟨.token _ ⟨_, place⟩, ?_, rfl, .token (lexeme_of_startsName starts)⟩
    rw [(take_length_takeWhile _ rest).1]
    rfl
  split at piece
  case isTrue colons =>
    cases piece
    simp only [Bool.and_eq_true, decide_eq_true_eq] at colons
    obtain ⟨rfl, head⟩ := colons
    obtain ⟨later, rfl⟩ := List.head?_eq_some_iff.mp head
    exact ⟨.token "::".toList ⟨.doubleColon, place⟩, rfl, rfl,
      .token (.mark (s := .doubleColon) (by decide) fun same => by cases same)⟩
  case isFalse single =>
    obtain ⟨s, known, same⟩ := Option.map_eq_some_iff.mp piece
    cases same
    refine ⟨.token [c] ⟨s, place⟩, rfl, rfl, .token ?_⟩
    obtain ⟨rfl, rfl⟩ | ⟨mark, text⟩ := of_ofChar?_eq_some known
    · exact .newline
    · show IsLexeme rest [c] s
      rw [← text]
      refine .mark mark fun colon head => single ?_
      subst colon
      have same : [':'] = [c] := text
      cases same
      simp [head]

theorem IsLexeme.cut {lexeme : List Char} {s : Symbol} (spelled : IsLexeme rest lexeme s) :
    ∃ c more, lexeme = c :: more ∧ piece? c (more ++ rest) = some (more.length, some s) := by
  cases spelled with
  | newline => exact ⟨'\n', [], rfl, rfl⟩
  | @number c more digit run stops =>
    refine ⟨c, more, rfl, ?_⟩
    rw [piece?_of_isDigit digit run stops, filter_isDigit digit run]
  | word word own ends =>
    cases split : s.text.toList with
    | nil =>
      rw [split] at word
      cases word
    | cons c more =>
      rw [split] at word
      have piece := piece?_of_isWord word ends
      rw [← split, String.ofList_toList, own] at piece
      exact ⟨c, more, rfl, piece⟩
  | mark known single =>
    simp only [Symbol.marks, List.mem_cons, List.not_mem_nil, or_false] at known
    rcases known with rfl | rfl | rfl | rfl | rfl | rfl | rfl | rfl | rfl
    case inr.inr.inr.inr.inr.inr.inr.inl =>
      refine ⟨':', [], rfl, ?_⟩
      -- a colon alone is the only mark that what follows may make longer
      have alone : ¬ (decide (':' = ':') && decide (rest.head? = some ':')) = true := by
        simpa using single rfl
      exact if_neg alone
    all_goals exact ⟨_, _, rfl, rfl⟩

/-- A part that fits is what is cut off. -/
theorem Part.Fits.cut {part : Part} (fits : part.Fits rest) : ∃ c more, part.chars = c :: more ∧
    piece? c (more ++ rest) = some (more.length, part.token?.map Token.symbol) := by
  cases fits with
  | blank known =>
    simp only [List.mem_cons, List.not_mem_nil, or_false] at known
    rcases known with rfl | rfl | rfl
    all_goals exact ⟨_, [], rfl, rfl⟩
  | @comment text starts inLine ends =>
    obtain ⟨c, more, rfl, noGap, comment⟩ : ∃ c more, text = c :: more ∧ isGap c = false ∧
        startsComment c (more ++ rest) = true := by
      rcases starts with ⟨more, rfl⟩ | ⟨more, rfl⟩
      · exact ⟨'#', more, rfl, rfl, rfl⟩
      · exact ⟨'/', '/' :: more, rfl, rfl, rfl⟩
    have whole : (more ++ rest).takeWhile (· ≠ '\n') = more := by
      apply takeWhile_of_stops
      · intro d inside
        exact decide_eq_true fun same => inLine (same ▸ List.mem_cons_of_mem c inside)
      · intro d head
        simpa using ends d head
    refine ⟨c, more, rfl, ?_⟩
    rw [piece?, if_neg (Bool.eq_false_iff.mp noGap), if_pos comment, whole]
    rfl
  | token spelled => exact spelled.cut

/-- Where nothing is cut off, no part fits. -/
theorem not_fits_of_piece? (none : piece? c rest = none) (part : Part) (later : List Char)
    (split : c :: rest = part.chars ++ later) : ¬ part.Fits later := by
  intro fits
  obtain ⟨d, more, chars, piece⟩ := fits.cut
  rw [chars, List.cons_append, List.cons.injEq] at split
  obtain ⟨rfl, rfl⟩ := split
  rw [none] at piece
  cases piece

end Cut

/-! ## What parts are made of -/

section Parts

variable {rest lexeme : List Char} {s : Symbol} {part : Part}

theorem continuesName_of_isWord {word : List Char} (good : isWord word = true) :
    ∀ c ∈ word, Text.continuesName c = true := by
  cases word with
  | nil => nofun
  | cons c more =>
    rw [isWord, Bool.and_eq_true, List.all_eq_true] at good
    exact List.forall_mem_cons.mpr ⟨Text.continuesName_of_startsName good.1, good.2⟩

/-- A token is a line feed or written inside a line, below the code points that stand for marks. -/
theorem IsLexeme.chars (spelled : IsLexeme rest lexeme s) : s = .newline ∧ lexeme = ['\n'] ∨
    s ≠ .newline ∧ s ≠ .eof ∧ ∀ c ∈ lexeme, c.toNat < 0x100000 ∧ Text.endsLine c = false := by
  have named : ∀ c : Char, Text.continuesName c = true →
      c.toNat < 0x100000 ∧ Text.endsLine c = false := fun c continues =>
    ⟨Text.toNat_lt_of_continuesName continues, Text.not_endsLine_of_continuesName continues⟩
  cases spelled with
  | newline => exact .inl ⟨rfl, rfl⟩
  | number digit run stops =>
    refine .inr ⟨nofun, nofun, List.forall_mem_cons.mpr ⟨named _ (continuesName_of_isDigit digit), ?_⟩⟩
    exact fun d inside => named d (continuesName_of_continuesNumber (run d inside))
  | word word own ends =>
    refine .inr ⟨?_, ?_, fun c inside => named c (continuesName_of_isWord word c inside)⟩
    all_goals
      intro same
      subst same
      cases word
  | mark known single =>
    have all : ∀ s ∈ Symbol.marks, s ≠ .newline ∧ s ≠ .eof ∧
        ∀ c ∈ s.text.toList, c.toNat < 0x100000 ∧ Text.endsLine c = false := by
      simp [Symbol.marks, Symbol.text, Text.endsLine]
    exact .inr (all s known)

/-- A part other than a comment is written below the code points that stand for marks. -/
theorem Part.Fits.toNat_lt (fits : part.Fits rest) :
    (∃ text, part = .comment text) ∨ ∀ c ∈ part.chars, c.toNat < 0x100000 := by
  cases fits with
  | blank known =>
    have all : ∀ c ∈ [' ', '\t', '\r'], c.toNat < 0x100000 := by simp
    exact .inr fun d inside => List.mem_singleton.mp inside ▸ all _ known
  | comment starts inLine ends => exact .inl ⟨_, rfl⟩
  | token spelled =>
    rcases spelled.chars with ⟨-, rfl⟩ | ⟨-, -, all⟩
    · refine .inr fun c inside => ?_
      have feed : c = '\n' := List.mem_singleton.mp inside
      rw [feed]
      decide
    · exact .inr fun c inside => (all c inside).1

/-- No code point is held across the end of a part. -/
theorem Part.Fits.codePoints (fits : part.Fits rest) :
    Text.codePoints (part.chars ++ rest) = Text.codePoints part.chars ++ Text.codePoints rest := by
  rcases fits.toNat_lt with ⟨text, rfl⟩ | low
  · apply Text.codePoints_append_of_head
    intro c head
    cases fits with
    | comment starts inLine ends =>
      rw [ends c head]
      exact Text.marked?_of_lt (by decide)
  · rw [Text.codePoints_append_of_lt low, Text.codePoints_of_lt low]

/-- A line feed is a token and is in no other part. -/
theorem Part.Fits.count (fits : part.Fits rest) : part.chars.count '\n' =
    (part.token?.toList.filter (·.symbol = .newline)).length := by
  cases fits with
  | blank known =>
    have all : ∀ c ∈ [' ', '\t', '\r'], [c].count '\n' = 0 := by simp
    exact all _ known
  | comment starts inLine ends => exact List.count_eq_zero.mpr inLine
  | @token lexeme t spelled =>
    show lexeme.count '\n' = ([t].filter (·.symbol = .newline)).length
    rcases spelled.chars with ⟨same, rfl⟩ | ⟨other, -, all⟩
    · simp [same]
    · have inLine : '\n' ∉ lexeme := fun inside => by cases (all '\n' inside).2
      simp [other, List.count_eq_zero.mpr inLine]

end Parts

/-! ## Whole texts -/

section Layout

variable {text : List Nat} {rest cs : List Char} {parts : List Part} {place : Location}

theorem toList_append_filterMap (part : Part) (parts : List Part) :
    (part :: parts).filterMap Part.token? = part.token?.toList ++ parts.filterMap Part.token? := by
  cases token : part.token? <;> simp [token]

theorem Laid.count (laid : Laid text rest parts) :
    ((parts.filterMap Part.token?).filter (·.symbol = .newline)).length =
      (parts.flatMap Part.chars).count '\n' := by
  induction laid with
  | nil => rfl
  | @cons part parts fits located more ih =>
    rw [toList_append_filterMap, List.filter_append, List.length_append, ih, ← fits.count,
      List.flatMap_cons, List.count_append]

theorem Laid.ne_eof (laid : Laid text rest parts) :
    ∀ t ∈ parts.filterMap Part.token?, t.symbol ≠ .eof := by
  induction laid with
  | nil => nofun
  | @cons part parts fits located more ih =>
    intro t inside
    obtain ⟨part', known, token⟩ := List.mem_filterMap.mp inside
    rcases List.mem_cons.mp known with rfl | later
    · cases fits with
      | blank | comment => cases token
      | token spelled =>
        cases token
        rcases spelled.chars with ⟨same, -⟩ | ⟨-, other, -⟩
        · rw [same]
          nofun
        · exact other
    · exact ih t (List.mem_filterMap.mpr ⟨part', later, token⟩)

/-- How a text is cut into tokens. Either it is laid out whole, with the end of the text behind it, or
    up to a character where no part fits. -/
inductive Layout (text : List Nat) (cs : List Char) : Except Issue Tokens → Prop
  | whole {parts : List Part} {finish : Token} (chars : cs = parts.flatMap Part.chars)
      (laid : Laid text [] parts) (ended : finish.symbol = .eof)
      (located : finish.location.rest? text = some []) :
      Layout text cs (.ok ⟨parts.filterMap Part.token?, finish⟩)
  | stuck {parts : List Part} {c : Char} {rest : List Char} {place : Location}
      (chars : cs = parts.flatMap Part.chars ++ c :: rest) (laid : Laid text (c :: rest) parts)
      (nothing : piece? c rest = none)
      (located : place.rest? text = some (Text.codePoints (c :: rest))) :
      Layout text cs (.error (.ofSyntax (.unexpectedCharacter (Text.first (c :: rest))) (some place)))

/-- A part in front of a text that is cut. -/
theorem Layout.cons {part : Part} {outcome : Except Issue Tokens} (layout : Layout text cs outcome)
    (fits : part.Fits cs) (located : ∀ t ∈ part.token?,
      t.location.rest? text = some (Text.codePoints (part.chars ++ cs))) :
    Layout text (part.chars ++ cs)
      (outcome.map fun later => { later with body := part.token?.toList ++ later.body }) := by
  cases layout with
  | @whole parts finish chars laid ended here =>
    rw [← List.append_nil (parts.flatMap Part.chars)] at chars
    show Layout text _ (.ok ⟨part.token?.toList ++ parts.filterMap Part.token?, finish⟩)
    rw [← toList_append_filterMap]
    exact .whole (by simp [chars]) (.cons (chars ▸ fits) (chars ▸ located) laid) ended here
  | @stuck parts c rest place chars laid nothing here =>
    have whole : part.chars ++ cs = (part :: parts).flatMap Part.chars ++ c :: rest := by
      simp [chars]
    exact .stuck whole (.cons (chars ▸ fits) (chars ▸ located) laid) nothing here

/-- A text is laid out as it is cut into tokens. -/
theorem layout_tokensFrom (here : place.rest? text = some (Text.codePoints cs)) :
    Layout text cs (tokensFrom place cs) := by
  induction place, cs using tokensFrom.induct with
  | case1 place =>
    rw [tokensFrom_nil]
    exact @Layout.whole text [] [] _ rfl .nil rfl here
  | case2 place c rest none =>
    rw [tokensFrom, none]
    exact @Layout.stuck text _ [] c rest place rfl .nil none here
  | case3 place c rest more symbol? piece ih =>
    obtain ⟨part, chars, token, fits⟩ := exists_fits piece place
    have split : c :: rest = part.chars ++ rest.drop more := by
      rw [chars, List.cons_append, List.take_append_drop]
    -- the places are counted in code points, none of which reaches beyond the part
    have next : ((Text.codePoints (c :: rest.take more)).foldl after place).rest? text =
        some (Text.codePoints (rest.drop more)) := by
      apply Location.rest?_foldl_after
      rw [here, ← chars, ← fits.codePoints, ← split]
    have located : ∀ t ∈ part.token?,
        t.location.rest? text = some (Text.codePoints (part.chars ++ rest.drop more)) := by
      intro t known
      obtain ⟨symbol, -, rfl⟩ := Option.map_eq_some_iff.mp (token ▸ known)
      rw [← split]
      exact here
    have extended := (ih next).cons fits located
    rw [← split] at extended
    rw [tokensFrom, piece]
    dsimp only
    cases later : tokensFrom ((Text.codePoints (c :: rest.take more)).foldl after place)
        (rest.drop more) with
    | error e =>
      rw [later] at extended
      exact extended
    | ok ts =>
      rw [later, token] at extended
      cases symbol? <;> exact extended

/-- A text that is cut into tokens is laid out whole. -/
theorem laid_of_tokenize {source file : String} {ts : Tokens}
    (tokens : tokenize source file = .ok ts) : ∃ parts, source.toList = parts.flatMap Part.chars ∧
      Laid (Text.points source) [] parts ∧ ts.body = parts.filterMap Part.token? ∧
      ts.finish.symbol = .eof ∧ ts.finish.location.rest? (Text.points source) = some [] := by
  have layout := layout_tokensFrom (Location.rest?_start file (Text.codePoints source.toList))
  rw [tokenize] at tokens
  rw [tokens] at layout
  cases layout with
  | whole chars laid ended located => exact ⟨_, chars, laid, rfl, ended, located⟩

/-- Where a token is written. -/
theorem Laid.exists_lexeme (laid : Laid text rest parts) {t : Token}
    (known : t ∈ parts.filterMap Part.token?) : ∃ before lexeme later,
      parts.flatMap Part.chars ++ rest = before ++ (lexeme ++ later) ∧
      IsLexeme later lexeme t.symbol ∧
      t.location.rest? text = some (Text.codePoints (lexeme ++ later)) := by
  induction laid with
  | nil => cases known
  | @cons part parts fits located more ih =>
    rw [toList_append_filterMap, List.mem_append] at known
    rcases known with here | later
    · cases fits with
      | blank | comment => cases here
      | @token lexeme t' spelled =>
        obtain rfl : t = t' := List.mem_singleton.mp here
        exact ⟨[], lexeme, _, by simp [Part.chars], spelled, located t rfl⟩
    · obtain ⟨before, lexeme, behind, split, spelled, place⟩ := ih later
      refine ⟨part.chars ++ before, lexeme, behind, ?_, spelled, place⟩
      rw [List.flatMap_cons, List.append_assoc, split, List.append_assoc]

end Layout

/-- The tokens of a text and what stands between them. When a text is cut into tokens, it consists of
    parts: each is a token as it is written or else a blank or a comment, none could go on, and the
    line and the column of each token lead to where its part starts. There is one token for each line
    feed and, last, one for the end of the text, at the end. When a text is not cut into tokens, the
    one fault is at the first character where, behind such parts, no part can start. -/
theorem tokenize_lexemes (source file : String) :
    (∀ ts, tokenize source file = .ok ts → ∃ parts,
      source.toList = parts.flatMap Part.chars ∧ Laid (Text.points source) [] parts ∧
      ts.body = parts.filterMap Part.token? ∧
      (ts.body.filter (·.symbol = .newline)).length = source.toList.count '\n' ∧
      (∀ t ∈ ts.body, t.symbol ≠ .eof) ∧ ts.finish.symbol = .eof ∧
      ts.finish.location.rest? (Text.points source) = some []) ∧
    (∀ issue, tokenize source file = .error issue → ∃ parts c rest place,
      source.toList = parts.flatMap Part.chars ++ c :: rest ∧
      Laid (Text.points source) (c :: rest) parts ∧
      (∀ (part : Part) later, c :: rest = part.chars ++ later → ¬ part.Fits later) ∧
      issue = .ofSyntax (.unexpectedCharacter (Text.first (c :: rest))) (some place) ∧
      place.rest? (Text.points source) = some (Text.codePoints (c :: rest))) := by
  constructor
  · intro ts tokens
    obtain ⟨parts, chars, laid, body, ended, located⟩ := laid_of_tokenize tokens
    have feeds : (ts.body.filter (·.symbol = .newline)).length = source.toList.count '\n' := by
      rw [body, chars, laid.count]
    exact ⟨parts, chars, laid, body, feeds, body ▸ laid.ne_eof, ended, located⟩
  · intro issue failed
    have layout := layout_tokensFrom (Location.rest?_start file (Text.codePoints source.toList))
    rw [tokenize] at failed
    rw [failed] at layout
    cases layout with
    | stuck chars laid nothing located =>
      exact ⟨_, _, _, _, chars, laid, not_fits_of_piece? nothing, rfl, located⟩

end Trace

end PointerTrace
