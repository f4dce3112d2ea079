import PointerTrace.Proofs.Numerals
import PointerTrace.Trace.Token

/- Cutting a text into tokens, piece by piece. Where a piece ends depends on what follows it, so that a
   part of a text is said to be cut into tokens in front of a given rest (`Scans`); parts that stand
   one after the other are cut one after the other (`Scans.trans`). -/
namespace PointerTrace.Trace

variable {place : Location} {c : Char} {cs rest : List Char}

theorem tokensFrom_nil (place : Location) : tokensFrom place [] = .ok ⟨[], ⟨.eof, place⟩⟩ := by
  rw [tokensFrom]

/-- A piece and then the rest of the text, which starts where the piece ends. -/
theorem tokensFrom_piece {more : Nat} {symbol? : Option Symbol} {later : Tokens}
    (piece : piece? c rest = some (more, symbol?))
    (scanned : tokensFrom ((Text.codePoints (c :: rest.take more)).foldl after place)
      (rest.drop more) = .ok later) :
    tokensFrom place (c :: rest) =
      .ok { later with body := (symbol?.map (⟨·, place⟩)).toList ++ later.body } := by
  rw [tokensFrom, piece]
  dsimp only
  rw [scanned]
  cases symbol? <;> rfl

theorem tokensFrom_cons (place : Location) {more : Nat} {symbol? : Option Symbol}
    (piece : piece? c rest = some (more, symbol?)) : ∃ place', ∀ later,
      tokensFrom place' (rest.drop more) = .ok later →
        tokensFrom place (c :: rest) =
          .ok { later with body := (symbol?.map (⟨·, place⟩)).toList ++ later.body } :=
  ⟨_, fun _ => tokensFrom_piece piece⟩

/-- A text that is cut into tokens is cut into a piece and the rest, and ends with its end. -/
theorem tokensFrom_finish {ts : Tokens} (h : tokensFrom place cs = .ok ts) :
    ts.finish.symbol = .eof := by
  induction place, cs using tokensFrom.induct generalizing ts with
  | case1 place =>
    rw [tokensFrom_nil] at h
    cases h
    rfl
  | case2 place c rest none =>
    rw [tokensFrom, none] at h
    cases h
  | case3 place c rest more symbol? piece ih =>
    rw [tokensFrom, piece] at h
    dsimp only at h
    cases scanned : tokensFrom ((Text.codePoints (c :: rest.take more)).foldl after place)
        (rest.drop more) with
    | error e =>
      rw [scanned] at h
      cases h
    | ok later =>
      have ended := ih scanned
      rw [scanned] at h
      cases symbol? <;> cases h <;> exact ended

/-- A text that is not cut into tokens has a character that starts no piece. -/
theorem tokensFrom_eq_error {issue : Issue} (h : tokensFrom place cs = .error issue) :
    ∃ c place', issue = .ofSyntax (.unexpectedCharacter c) (some place') := by
  induction place, cs using tokensFrom.induct generalizing issue with
  | case1 place =>
    rw [tokensFrom_nil] at h
    cases h
  | case2 place c rest none =>
    rw [tokensFrom, none] at h
    cases h
    exact ⟨_, place, rfl⟩
  | case3 place c rest more symbol? piece ih =>
    rw [tokensFrom, piece] at h
    dsimp only at h
    cases scanned : tokensFrom ((Text.codePoints (c :: rest.take more)).foldl after place)
        (rest.drop more) with
    | error e =>
      rw [scanned] at h
      cases h
      exact ih scanned
    | ok later =>
      rw [scanned] at h
      cases symbol? <;> cases h

/-! ## Parts of a text -/

/-- Up to a rest, a text is cut into tokens. -/
def Scans (cs : List Char) (l : List Symbol) (rest : List Char) : Prop :=
  ∀ place, ∃ place' body, body.map Token.symbol = l ∧ ∀ later, tokensFrom place' rest = .ok later →
    tokensFrom place cs = .ok { later with body := body ++ later.body }

variable {l k : List Symbol}

theorem Scans.nothing (rest : List Char) : Scans rest [] rest :=
  fun place => ⟨place, [], rfl, fun _ scanned => scanned⟩

/-- Two parts, one after the other. -/
theorem Scans.trans {middle : List Char} (first : Scans cs l middle) (second : Scans middle k rest) :
    Scans cs (l ++ k) rest := by
  intro place
  -- the second part starts at the place where the first one ended
  obtain ⟨place₁, body₁, same₁, more₁⟩ := first place
  obtain ⟨place₂, body₂, same₂, more₂⟩ := second place₁
  refine ⟨place₂, body₁ ++ body₂, by rw [List.map_append, same₁, same₂], fun later scanned => ?_⟩
  rw [more₁ _ (more₂ later scanned), List.append_assoc]

theorem Scans.piece {more : Nat} {symbol? : Option Symbol}
    (piece : piece? c rest = some (more, symbol?)) :
    Scans (c :: rest) symbol?.toList (rest.drop more) := by
  intro place
  obtain ⟨place', scanned⟩ := tokensFrom_cons place piece
  refine ⟨place', (symbol?.map (⟨·, place⟩)).toList, ?_, scanned⟩
  cases symbol? <;> rfl

/-- A blank. -/
theorem Scans.gap (piece : piece? c rest = some (0, none)) : Scans (c :: rest) [] rest :=
  Scans.piece piece

/-- A token of one character. -/
theorem Scans.mark {symbol : Symbol} (piece : piece? c rest = some (0, some symbol)) :
    Scans (c :: rest) [symbol] rest :=
  Scans.piece piece

/-- A text that is cut into tokens up to its end. -/
theorem Scans.tokenize {source : String} (scans : Scans source.toList l []) (file : String) :
    ∃ ts, tokenize source file = .ok ts ∧ ts.body.map Token.symbol = l := by
  obtain ⟨place, body, same, scanned⟩ := scans ⟨1, 1, file⟩
  exact ⟨_, scanned _ (tokensFrom_nil place), by rw [List.append_nil, same]⟩

/-! ## Words and numbers -/

/-- Whether characters are a word. -/
def isWord : List Char → Bool
  | [] => false
  | c :: more => Text.startsName c && more.all Text.continuesName

/-- A word or a number does not go on here. -/
def Ends (rest : List Char) : Prop := ∀ c ∈ rest.head?, Text.continuesName c = false

theorem Ends.nil : Ends [] := nofun

theorem Ends.cons (other : Text.continuesName c = false) : Ends (c :: rest) := by
  rintro _ ⟨⟩
  exact other

/-- A run goes as far as what does not go on with it. -/
theorem takeWhile_of_stops {q : Char → Bool} (all : ∀ c ∈ cs, q c = true)
    (stops : ∀ c ∈ rest.head?, q c = false) : (cs ++ rest).takeWhile q = cs := by
  have none : rest.takeWhile q = [] := by
    cases rest with
    | nil => rfl
    | cons c rest => simp [stops c rfl]
  rw [List.takeWhile_append_of_pos all, none, List.append_nil]

/-- What would continue a number would continue a name too. -/
theorem Ends.stops {q : Char → Bool} (ends : Ends rest)
    (inside : ∀ c, q c = true → Text.continuesName c = true) : ∀ c ∈ rest.head?, q c = false := by
  intro c head
  cases goesOn : q c with
  | false => rfl
  | true => rw [← inside c goesOn, ends c head]

theorem toNat_of_isDigit (digit : c.isDigit = true) : 48 ≤ c.toNat ∧ c.toNat ≤ 57 := by
  simpa [Char.isDigit, UInt32.le_iff_toNat_le] using digit

theorem not_startsName_of_isDigit (digit : c.isDigit = true) : Text.startsName c = false := by
  obtain ⟨low, high⟩ := toNat_of_isDigit digit
  have all : ∀ n < 58, 48 ≤ n → Text.startsName (Char.ofNat n) = false := by decide
  have here := all c.toNat (Nat.lt_succ_of_le high) low
  rwa [Char.ofNat_toNat] at here

theorem continuesName_of_continuesNumber (digit : continuesNumber c = true) :
    Text.continuesName c = true := by
  rw [continuesNumber, Bool.or_eq_true] at digit
  rcases digit with digit | line
  · have ascii : c.toNat < 128 := Nat.lt_of_le_of_lt (toNat_of_isDigit digit).2 (by decide)
    simp [Text.continuesName, Text.isNumeral, ascii, digit]
  · simp [Text.continuesName, of_decide_eq_true line]

theorem continuesName_of_isDigit (digit : c.isDigit = true) : Text.continuesName c = true :=
  continuesName_of_continuesNumber (by rw [continuesNumber, digit, Bool.true_or])

theorem not_isGap_of_continuesName (continues : Text.continuesName c = true) :
    ¬ isGap c = true := by
  intro gap
  simp only [isGap, Bool.or_eq_true, decide_eq_true_eq] at gap
  rcases gap with (rfl | rfl) | rfl <;> cases continues

theorem not_startsComment_of_continuesName (continues : Text.continuesName c = true) :
    ¬ startsComment c rest = true := by
  intro comment
  simp only [startsComment, Bool.or_eq_true, Bool.and_eq_true, decide_eq_true_eq] at comment
  rcases comment with rfl | ⟨rfl, -⟩ <;> cases continues

/-- A piece of the text in front of a rest. -/
theorem Scans.part {more : List Char} {symbol : Symbol}
    (piece : piece? c (more ++ rest) = some (more.length, some symbol)) :
    Scans (c :: more ++ rest) [symbol] rest := by
  have scans := Scans.piece piece
  rwa [List.drop_left] at scans

/-- A run of digits and underscores behind a digit is a number. -/
theorem piece?_of_isDigit {more : List Char} (digit : c.isDigit = true)
    (all : ∀ d ∈ more, continuesNumber d = true) (stops : ∀ d ∈ rest.head?, continuesNumber d = false) :
    piece? c (more ++ rest) =
      some (more.length, some (.number (String.ofList ((c :: more).filter Char.isDigit)))) := by
  have continues := continuesName_of_isDigit digit
  have whole : (more ++ rest).takeWhile continuesNumber = more := takeWhile_of_stops all stops
  rw [piece?, if_neg (not_isGap_of_continuesName continues),
    if_neg (not_startsComment_of_continuesName continues), if_pos digit]
  simp only [whole]

/-- A word is a keyword or a name. -/
theorem piece?_of_isWord {more : List Char} (good : isWord (c :: more) = true) (ends : Ends rest) :
    piece? c (more ++ rest) = some (more.length, some (.ofWord (String.ofList (c :: more)))) := by
  rw [isWord, Bool.and_eq_true, List.all_eq_true] at good
  obtain ⟨starts, all⟩ := good
  have continues := Text.continuesName_of_startsName starts
  have noDigit : ¬ c.isDigit = true := fun digit => by
    rw [not_startsName_of_isDigit digit] at starts
    cases starts
  have whole : (more ++ rest).takeWhile Text.continuesName = more :=
    takeWhile_of_stops all ends
  rw [piece?, if_neg (not_isGap_of_continuesName continues),
    if_neg (not_startsComment_of_continuesName continues), if_neg noDigit, if_pos starts]
  simp only [whole]

/-- A word is cut off whole. -/
theorem Scans.word {word : String} (good : isWord word.toList = true) (ends : Ends rest) :
    Scans (word.toList ++ rest) [.ofWord word] rest := by
  obtain ⟨c, more, split⟩ : ∃ c more, word.toList = c :: more := by
    cases split : word.toList with
    | nil =>
      rw [split] at good
      cases good
    | cons c more => exact ⟨c, more, rfl⟩
  rw [split] at good
  have piece := piece?_of_isWord good ends
  rw [← split, String.ofList_toList] at piece
  rw [split]
  exact Scans.part piece

/-- Digits are cut off whole. -/
theorem Scans.number {digits : String} (nonempty : digits.toList ≠ [])
    (all : ∀ d ∈ digits.toList, d.isDigit = true) (ends : Ends rest) :
    Scans (digits.toList ++ rest) [.number digits] rest := by
  obtain ⟨c, more, split⟩ := List.exists_cons_of_ne_nil nonempty
  rw [split] at all
  have piece := piece?_of_isDigit (all c List.mem_cons_self)
    (fun d inside => by rw [continuesNumber, all d (List.mem_cons_of_mem c inside), Bool.true_or])
    (ends.stops fun _ => continuesName_of_continuesNumber)
  rw [List.filter_eq_self.mpr all, ← split, String.ofList_toList] at piece
  rw [split]
  exact Scans.part piece

/-- The digits of a number that is written are cut off whole. -/
theorem Scans.digits (n : Nat) (ends : Ends rest) :
    Scans ((Decimal.ofNat n).toList ++ rest) [.number (Decimal.ofNat n)] rest := by
  have same : (Decimal.ofNat n).toList = Decimal.digits n := String.toList_ofList
  exact .number (same ▸ Decimal.digits_ne_nil n)
    (fun d inside => Decimal.isDigit_of_mem_digits (same ▸ inside)) ends

end PointerTrace.Trace
