import PointerTrace.Proofs.Lexemes
import PointerTrace.Proofs.Parsing

/- Layout. The tokens of a text may be written anew, with other blanks between them and other comments
   in front of the line feeds (`Respaced`); each token is then written as messages name it, a number
   without its underscores. A token that a blank, a line feed or nothing follows ends there, whatever
   it was followed by before (`IsLexeme.respelled`), so that such a text is cut into the same tokens
   (`Respaced.scans`). Reading looks at the places of tokens only to pass them on
   (`readStatements_congr`), and so the two texts are read alike (`Program.parse_respaced`). -/
namespace PointerTrace

namespace Trace

/-! ## Texts that are laid out anew -/

/-- How a line feed may be written: alone, or behind a comment. -/
inductive IsLineEnd : List Char → Prop
  | alone : IsLineEnd ['\n']
  | comment {text : List Char} (starts : ['#'] <+: text ∨ ['/', '/'] <+: text)
      (inLine : '\n' ∉ text) : IsLineEnd (text ++ ['\n'])

/-- What follows a token sets it off: a blank, a line feed or nothing. -/
def SetsOff (rest : List Char) : Prop := ∀ c ∈ rest.head?, c ∈ [' ', '\t', '\r', '\n']

/-- Tokens that are written one after the other, as messages name them. Any blanks may stand before
    and between them, and where two of them stand in one line there is a blank; a line feed may have a
    comment in front of it. -/
inductive Respaced : List Symbol → List Char → Prop
  | nothing : Respaced [] []
  | blank {c : Char} {l : List Symbol} {cs : List Char} (known : c ∈ [' ', '\t', '\r'])
      (more : Respaced l cs) : Respaced l (c :: cs)
  | token {s : Symbol} {l : List Symbol} {cs : List Char} (inLine : s ≠ .newline)
      (apart : SetsOff cs) (more : Respaced l cs) : Respaced (s :: l) (s.text.toList ++ cs)
  | newline {l : List Symbol} {lineEnd cs : List Char} (ends : IsLineEnd lineEnd)
      (more : Respaced l cs) : Respaced (.newline :: l) (lineEnd ++ cs)

/-- Some text holds the token. -/
def Symbol.IsWritten (s : Symbol) : Prop := ∃ rest lexeme, IsLexeme rest lexeme s

section Cutting

variable {rest lexeme cs : List Char} {s : Symbol} {l : List Symbol}

theorem isWritten_of_tokenize {source file : String} {ts : Tokens}
    (tokens : tokenize source file = .ok ts) : ∀ t ∈ ts.body, t.symbol.IsWritten := by
  obtain ⟨parts, -, laid, body, -⟩ := laid_of_tokenize tokens
  intro t inside
  obtain ⟨before, lexeme, later, -, spelled, -⟩ := laid.exists_lexeme (body ▸ inside)
  exact ⟨later, lexeme, spelled⟩

/-- A part that fits is cut off. -/
theorem Part.Fits.scans {part : Part} (fits : part.Fits rest) :
    Scans (part.chars ++ rest) (part.token?.map Token.symbol).toList rest := by
  obtain ⟨c, more, chars, piece⟩ := fits.cut
  have scans := Scans.piece piece
  rw [List.drop_left] at scans
  rwa [chars]

theorem SetsOff.stops {q : Char → Bool} (apart : SetsOff rest)
    (blank : [' ', '\t', '\r', '\n'].all (q · = false) = true) : ∀ c ∈ rest.head?, q c = false := by
  intro c head
  exact of_decide_eq_true (List.all_eq_true.mp blank c (apart c head))

/-- A token inside a line may be written as messages name it wherever it is set off. -/
theorem IsLexeme.respelled (spelled : IsLexeme cs lexeme s) (inLine : s ≠ .newline)
    (apart : SetsOff rest) : IsLexeme rest s.text.toList s := by
  cases spelled with
  | newline => exact absurd rfl inLine
  | @number c more digit run stops =>
    have kept : (c :: more).filter (· ≠ '_') = c :: more.filter (· ≠ '_') := by
      apply List.filter_cons_of_pos
      rw [decide_eq_true_iff]
      intro line
      rw [line] at digit
      cases digit
    have again : (c :: more.filter (· ≠ '_')).filter (· ≠ '_') = (c :: more).filter (· ≠ '_') := by
      rw [← kept, List.filter_filter]
      simp
    have fewer : ∀ d ∈ more.filter (· ≠ '_'), continuesNumber d = true := fun d inside =>
      run d (List.mem_of_mem_filter inside)
    have number := IsLexeme.number digit fewer (apart.stops (by decide))
    rw [again] at number
    simpa only [Symbol.text, String.toList_ofList, kept] using number
  | word word own ends => exact .word word own (apart.stops (by decide))
  | mark known single =>
    refine .mark known fun _ head => ?_
    have colon := apart ':' head
    revert colon
    decide

/-- A line feed is cut off with the comment in front of it. -/
theorem IsLineEnd.scans {lineEnd : List Char} (ends : IsLineEnd lineEnd) :
    Scans (lineEnd ++ rest) [.newline] rest := by
  have feed : Scans ('\n' :: rest) [.newline] rest := .mark rfl
  cases ends with
  | alone => exact feed
  | @comment text starts inLine =>
    have fits : (Part.comment text).Fits ('\n' :: rest) :=
      .comment starts inLine fun _ head => (Option.some.inj head).symm
    rw [List.append_assoc]
    exact fits.scans.trans feed

/-- A text that is laid out anew is cut into the tokens that it was written from. -/
theorem Respaced.scans (respaced : Respaced l cs) (written : ∀ s ∈ l, s.IsWritten) :
    Scans cs l [] := by
  induction respaced with
  | nothing => exact .nothing []
  | @blank c l cs known more ih =>
    have fits : (Part.blank c).Fits cs := .blank known
    exact fits.scans.trans (ih written)
  | @token s l cs inLine apart more ih =>
    obtain ⟨⟨rest, lexeme, spelled⟩, others⟩ := List.forall_mem_cons.mp written
    -- the token has no place yet, and none is looked at
    have fits : (Part.token s.text.toList ⟨s, ⟨1, 1, ""⟩⟩).Fits cs :=
      .token (spelled.respelled inLine apart)
    exact fits.scans.trans (ih others)
  | newline ends more ih => exact ends.scans.trans (ih (List.forall_mem_cons.mp written).2)

end Cutting

/-! ## Reading without places -/

section Reading

variable {ts us : Tokens} {body body' u v : List Token}

/-- The statements of tokens are those that their pieces spell, where no number has too many digits. -/
theorem readStatements_eq_ok_iff_spells {l : List (Location × Statement)} :
    readStatements ts = .ok l ↔ ∃ found, List.Forall₂ (fun piece x => Short piece ∧ Spells piece x)
      (ts.body.splitOnP (·.symbol.endsStatement)) found ∧ l = found.filterMap id := by
  rw [readStatements_eq_ok_iff]
  refine exists_congr fun found => and_congr_left fun _ => ?_
  rw [mapM_eq_ok, ← segments_tokens ts.finish, List.forall₂_map_left_iff]
  simp only [readSegment_eq_ok]

/-- Tokens of the same kinds are split into pieces of the same kinds. -/
theorem splitOnP_congr (same : body.map Token.symbol = body'.map Token.symbol) :
    List.Forall₂ (fun u v => u.map Token.symbol = v.map Token.symbol)
      (body.splitOnP (·.symbol.endsStatement)) (body'.splitOnP (·.symbol.endsStatement)) := by
  induction body generalizing body' with
  | nil =>
    rw [List.map_eq_nil_iff.mp same.symm]
    exact .cons rfl .nil
  | cons t body ih =>
    obtain ⟨place, rest, rfl, more⟩ := symbols_eq_cons.mp same.symm
    have later := ih more.symm
    rw [List.splitOnP_cons_eq_if_modifyHead, List.splitOnP_cons_eq_if_modifyHead]
    by_cases ends : t.symbol.endsStatement = true
    · rw [if_pos ends, if_pos ends]
      exact .cons rfl later
    · rw [if_neg ends, if_neg ends]
      generalize body.splitOnP _ = pieces at later
      generalize rest.splitOnP _ = pieces' at later
      cases later with
      | nil => exact .nil
      | cons first others => exact .cons (by simp [first]) others

theorem Short.congr (short : Short u) (same : u.map Token.symbol = v.map Token.symbol) :
    Short v := by
  intro t inside digits number
  have listed : t.symbol ∈ u.map Token.symbol := same ▸ List.mem_map_of_mem inside
  obtain ⟨t', inside', same'⟩ := List.mem_map.mp listed
  exact short t' inside' digits (same'.trans number)

theorem Spells.congr {x : Option (Location × Statement)} (spells : Spells u x)
    (same : u.map Token.symbol = v.map Token.symbol) :
    ∃ y, Spells v y ∧ y.map Prod.snd = x.map Prod.snd := by
  cases spells with
  | empty =>
    rw [List.map_eq_nil_iff.mp same.symm]
    exact ⟨none, .empty, rfl⟩
  | @statement first rest statement spelled =>
    obtain ⟨place, more, rfl, -⟩ := symbols_eq_cons.mp same.symm
    exact ⟨_, .statement (same ▸ spelled), rfl⟩

/-- Pieces of the same kinds spell the same statements, up to their places. -/
theorem exists_spells {pieces pieces' : List (List Token)} {found : List (Option (Location × Statement))}
    (alike : List.Forall₂ (fun u v => u.map Token.symbol = v.map Token.symbol) pieces pieces')
    (spells : List.Forall₂ (fun piece x => Short piece ∧ Spells piece x) pieces found) :
    ∃ found', List.Forall₂ (fun piece x => Short piece ∧ Spells piece x) pieces' found' ∧
      (found'.filterMap id).map Prod.snd = (found.filterMap id).map Prod.snd := by
  induction alike generalizing found with
  | nil =>
    cases spells
    exact ⟨[], .nil, rfl⟩
  | cons first more ih =>
    cases spells with
    | @cons _ x _ xs here others =>
      obtain ⟨y, spelled, own⟩ := here.2.congr first
      obtain ⟨found', spells', same⟩ := ih others
      refine ⟨y :: found', .cons ⟨here.1.congr first, spelled⟩ spells', ?_⟩
      cases x <;> cases y <;> simp_all

/-- Tokens of the same kinds are read as the same statements, up to their places. -/
theorem readStatements_congr (same : ts.body.map Token.symbol = us.body.map Token.symbol)
    {l : List (Location × Statement)} (read : readStatements ts = .ok l) :
    ∃ k, readStatements us = .ok k ∧ k.map Prod.snd = l.map Prod.snd := by
  obtain ⟨found, spells, rfl⟩ := readStatements_eq_ok_iff_spells.mp read
  obtain ⟨found', spells', alike⟩ := exists_spells (splitOnP_congr same) spells
  exact ⟨_, readStatements_eq_ok_iff_spells.mpr ⟨found', spells', rfl⟩, alike⟩

/-- What statements do, and how many temporaries they take, does not depend on their places. -/
theorem meaning_congr {l k : List (Location × Statement)} (same : k.map Prod.snd = l.map Prod.snd)
    (used : Nat) : (meaning used k).map Operation.action = (meaning used l).map Operation.action ∧
      temporaryCount k = temporaryCount l := by
  induction l generalizing k used with
  | nil =>
    rw [List.map_eq_nil_iff.mp same]
    exact ⟨rfl, rfl⟩
  | cons first l ih =>
    obtain ⟨⟨place, s⟩, k, rfl, own, more⟩ := List.map_eq_cons_iff.mp same
    obtain ⟨place', s'⟩ := first
    obtain rfl : s = s' := own
    obtain ⟨actions, count⟩ := ih more (used + s.temporaryCount)
    simp [meaning, temporaryCount, actions, count]

end Reading

end Trace

namespace Program

open Trace

variable {source text file file' : String} {name : Option String} {ts us : Tokens} {p : Program}

/-- A text that is cut into tokens of the same kinds is read as the same operations, up to places. -/
theorem parse_congr (tokens : tokenize source file = .ok ts) (tokens' : tokenize text file' = .ok us)
    (same : ts.body.map Token.symbol = us.body.map Token.symbol) (name' : Option String)
    (parsed : parse source file name = .ok p) : ∃ q, parse text file' name' = .ok q ∧
      q.actions = p.actions ∧ q.temporaries = p.temporaries := by
  obtain ⟨l, read, rfl⟩ := (parse_eq_ok_iff tokens).mp parsed
  obtain ⟨k, read', alike⟩ := readStatements_congr same read
  exact ⟨_, (parse_eq_ok_iff tokens').mpr ⟨k, read', rfl⟩, meaning_congr alike 0⟩

/-- Layout does not matter. When the tokens of a text are written anew, with any blanks between them
    and with any comments in front of the line feeds, the text that comes out is cut into the same
    tokens. So both texts are read, as the same operations up to their places, or neither is. -/
theorem parse_respaced (tokens : tokenize source file = .ok ts)
    (respaced : Respaced (ts.body.map Token.symbol) text.toList) (file' : String)
    (name name' : Option String) :
    (∃ us, tokenize text file' = .ok us ∧
      us.toList.map Token.symbol = ts.toList.map Token.symbol) ∧
    ((∃ p, parse source file name = .ok p) ↔ ∃ q, parse text file' name' = .ok q) ∧
    ∀ p q, parse source file name = .ok p → parse text file' name' = .ok q →
      q.actions = p.actions := by
  have written : ∀ s ∈ ts.body.map Token.symbol, s.IsWritten := by
    simpa using isWritten_of_tokenize tokens
  obtain ⟨us, tokens', same⟩ := (respaced.scans written).tokenize file'
  have whole : us.toList.map Token.symbol = ts.toList.map Token.symbol := by
    simp [Tokens.toList, same, tokensFrom_finish tokens, tokensFrom_finish tokens']
  refine ⟨⟨us, tokens', whole⟩, ?_, ?_⟩
  · constructor
    · rintro ⟨p, parsed⟩
      obtain ⟨q, parsed', -⟩ := parse_congr tokens tokens' same.symm name' parsed
      exact ⟨q, parsed'⟩
    · rintro ⟨q, parsed'⟩
      obtain ⟨p, parsed, -⟩ := parse_congr tokens' tokens same name parsed'
      exact ⟨p, parsed⟩
  · intro p q parsed parsed'
    obtain ⟨q', again, actions, -⟩ := parse_congr tokens tokens' same.symm name' parsed
    rw [parsed'] at again
    cases again
    exact actions

/-- A write of a number with underscores and a call, without any blank. -/
def cramped : String := "*p=1_0//old\nf(&mut p)"

/-- The same tokens with blanks, tabs and another comment. -/
def airy : String := "* p\t= 10 \r# new\n  f ( & mut p )"

theorem parse_respaced_airy : ∃ ts us, tokenize cramped "t" = .ok ts ∧
    Respaced (ts.body.map Token.symbol) airy.toList ∧ tokenize airy "u" = .ok us ∧
    us.toList.map Token.symbol = [.star, .name "p", .assign, .number "10", .newline, .name "f",
      .leftParen, .ampersand, .mutWord, .name "p", .rightParen, .eof] ∧
    ((∃ p, parse cramped "t" none = .ok p) ↔ ∃ q, parse airy "u" none = .ok q) := by
  have word : ∀ (word : String) rest, isWord word.toList = true → Ends rest →
      Scans (word.toList ++ rest) [.ofWord word] rest := fun _ _ => .word
  have argument := (word "mut" " p)".toList (by decide) (.cons (by decide))).trans
    ((Scans.gap rfl).trans ((word "p" ")".toList (by decide) (.cons (by decide))).trans (.mark rfl)))
  have call : Scans "f(&mut p)".toList [.name "f", .leftParen, .ampersand, .mutWord, .name "p",
      .rightParen] [] := (word "f" "(&mut p)".toList (by decide) (.cons (by decide))).trans
    ((Scans.mark rfl).trans ((Scans.mark rfl).trans argument))
  have comment : Scans "//old\nf(&mut p)".toList [] "\nf(&mut p)".toList :=
    @Scans.piece '/' "/old\nf(&mut p)".toList 4 none rfl
  have number : Scans "1_0//old\nf(&mut p)".toList [.number "10"] "//old\nf(&mut p)".toList :=
    @Scans.piece '1' "_0//old\nf(&mut p)".toList 2 (some (.number "10")) rfl
  have scans : Scans cramped.toList [.star, .name "p", .assign, .number "10", .newline, .name "f",
      .leftParen, .ampersand, .mutWord, .name "p", .rightParen] [] :=
    (Scans.mark rfl).trans ((word "p" "=1_0//old\nf(&mut p)".toList (by decide) (.cons (by decide))).trans
      ((Scans.mark rfl).trans (number.trans (comment.trans ((Scans.mark rfl).trans call)))))
  obtain ⟨ts, tokens, same⟩ := scans.tokenize "t"
  have blank : ∀ {l cs}, Respaced l cs → Respaced l (' ' :: cs) := .blank (by decide)
  have spaced : ∀ {l cs} (s : Symbol), s ≠ .newline → Respaced l cs →
      Respaced (s :: l) (s.text.toList ++ ' ' :: cs) := fun s inLine more =>
    .token inLine (by rintro _ ⟨⟩; decide) (blank more)
  have last : Respaced [.rightParen] ")".toList := .token (s := .rightParen) nofun nofun .nothing
  have call' : Respaced [.name "f", .leftParen, .ampersand, .mutWord, .name "p", .rightParen]
      "f ( & mut p )".toList := spaced (.name "f") nofun <| spaced .leftParen nofun <|
    spaced .ampersand nofun <| spaced .mutWord nofun <| spaced (.name "p") nofun last
  have feed : Respaced _ "# new\n  f ( & mut p )".toList :=
    .newline (.comment (.inl ⟨" new".toList, rfl⟩) (by decide)) (blank (blank call'))
  have value : Respaced _ "10 \r# new\n  f ( & mut p )".toList :=
    spaced (.number "10") nofun (.blank (by decide) feed)
  have name : Respaced _ "p\t= 10 \r# new\n  f ( & mut p )".toList :=
    .token (s := .name "p") nofun (by rintro _ ⟨⟩; decide) <| .blank (by decide) <|
      spaced .assign nofun value
  have respaced : Respaced (ts.body.map Token.symbol) airy.toList := same ▸ spaced .star nofun name
  obtain ⟨⟨us, tokens', symbols⟩, alike, -⟩ := parse_respaced tokens respaced "u" none none
  refine ⟨ts, us, tokens, respaced, tokens', ?_, alike⟩
  rw [symbols, Tokens.toList, List.map_append, same, List.map_singleton, tokensFrom_finish tokens]
  rfl

end Program

end PointerTrace
