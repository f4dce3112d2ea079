import PointerTrace.Proofs.Parsing

/- Operations that are written as statements and read back. The written form of an operation is cut
   into the tokens of one statement (`Action.scans`), the grammar derives that statement from them
   (`Action.isStatement`), and the statement stands for the operation alone
   (`Action.meaning_statement`). Line by line this gives the operations of a whole text
   (`Program.parse_rendered`). -/
namespace PointerTrace

open Trace

namespace Trace

/-! ## Names -/

/-- The words that are no names. -/
def keywords : List String := ["let", "mut", "as", "const"]

/-- A word that is no keyword. -/
def IsName (name : String) : Prop := isWord name.toList = true ∧ name ∉ keywords

instance (name : String) : Decidable (IsName name) := inferInstanceAs (Decidable (_ ∧ _))

variable {name : String} {rest : List Char}

theorem IsName.ofWord (h : IsName name) : Symbol.ofWord name = .name name := by
  have ⟨noLet, noMut, noAs, noConst⟩ :
      name ≠ "let" ∧ name ≠ "mut" ∧ name ≠ "as" ∧ name ≠ "const" := by
    simpa [keywords] using h.2
  rw [Symbol.ofWord, if_neg noLet, if_neg noMut, if_neg noAs, if_neg noConst]

theorem IsName.ne_empty (h : IsName name) : name ≠ "" := by
  rintro rfl
  exact Bool.noConfusion h.1

theorem IsName.scans (h : IsName name) (ends : Ends rest) :
    Scans (name.toList ++ rest) [.name name] rest :=
  h.ofWord ▸ Scans.word h.1 ends

/-! ## The tokens of an operation -/

theorem scans_blank : Scans (' ' :: rest) [] rest := .gap rfl

theorem scans_star : Scans ('*' :: rest) [.star] rest := .mark rfl

theorem scans_ampersand : Scans ('&' :: rest) [.ampersand] rest := .mark rfl

/-- A word and the blank behind it. -/
theorem scans_spaced (word : String) (good : isWord word.toList = true) :
    Scans (word.toList ++ ' ' :: rest) [.ofWord word] rest :=
  (Scans.word good (.cons (by decide))).trans scans_blank

theorem scans_let : Scans ("let ".toList ++ rest) [.letWord] rest :=
  scans_spaced "let" (by decide)

theorem scans_mut : Scans ("mut ".toList ++ rest) [.mutWord] rest :=
  scans_spaced "mut" (by decide)

theorem scans_as : Scans (" as ".toList ++ rest) [.asWord] rest :=
  scans_blank.trans (scans_spaced "as" (by decide))

theorem ends_as : Ends (" as ".toList ++ rest) := .cons (by decide)

theorem scans_assign : Scans (" = ".toList ++ rest) [.assign] rest := by
  have mark : Scans ('=' :: ' ' :: rest) [.assign] (' ' :: rest) := .mark rfl
  exact scans_blank.trans (mark.trans scans_blank)

theorem ends_assign : Ends (" = ".toList ++ rest) := .cons (by decide)

/-- The start of a binding. -/
theorem IsName.scans_bound (h : IsName name) :
    Scans ("let ".toList ++ (name.toList ++ (" = ".toList ++ rest)))
      [.letWord, .name name, .assign] rest :=
  scans_let.trans ((h.scans ends_assign).trans scans_assign)

theorem scans_cell (ends : Ends rest) :
    Scans (": Cell".toList ++ rest) [.colon, .name "Cell"] rest := by
  have colon : ∀ rest, Scans (':' :: ' ' :: rest) [.colon] (' ' :: rest) := fun _ => .mark rfl
  have word : Scans ("Cell".toList ++ rest) [.name "Cell"] rest := .word (by decide) ends
  exact (colon _).trans (scans_blank.trans word)

theorem scans_isMutable (isMutable : Bool) :
    Scans ((if isMutable then "mut " else "").toList ++ rest)
      (if isMutable then [.mutWord] else []) rest := by
  cases isMutable with
  | false => exact .nothing rest
  | true => exact scans_mut

theorem scans_isCell (isCell : Bool) (ends : Ends rest) :
    Scans ((if isCell then ": Cell" else "").toList ++ rest)
      (if isCell then [.colon, .name "Cell"] else []) rest := by
  cases isCell with
  | false => exact .nothing rest
  | true => exact scans_cell ends

theorem ends_isCell (isCell : Bool) (ends : Ends rest) :
    Ends ((if isCell then ": Cell" else "").toList ++ rest) := by
  cases isCell with
  | false => exact ends
  | true => exact .cons (by decide)

theorem scans_castMark (kind : BorrowKind) (ends : Ends rest) :
    Scans ((Action.castMark kind).toList ++ rest) [.star, kindWord kind] rest := by
  cases kind with
  | shared =>
    have word : Scans ("const".toList ++ rest) [.constWord] rest := .word (by decide) ends
    exact scans_star.trans word
  | unique =>
    have word : Scans ("mut".toList ++ rest) [.mutWord] rest := .word (by decide) ends
    exact scans_star.trans word

/-- The tokens of the mark of a borrow. -/
def borrowSymbols : BorrowKind → List Symbol
  | .shared => [.ampersand]
  | .unique => [.ampersand, .mutWord]

theorem scans_borrowMark (kind : BorrowKind) :
    Scans ((Action.borrowMark kind).toList ++ rest) (borrowSymbols kind) rest := by
  cases kind with
  | shared => exact scans_ampersand
  | unique => exact scans_ampersand.trans scans_mut

/-- The tokens of a written number. -/
def integerSymbols : Int → List Symbol
  | .ofNat n => [.number (Decimal.ofNat n)]
  | .negSucc n => [.minus, .number (Decimal.ofNat (n + 1))]

theorem scans_integer (n : Int) (ends : Ends rest) :
    Scans ((Decimal.ofInt n).toList ++ rest) (integerSymbols n) rest := by
  cases n with
  | ofNat n => exact Scans.digits n ends
  | negSucc n =>
    have mark : Scans ('-' :: ((Decimal.ofNat (n + 1)).toList ++ rest)) [.minus]
        ((Decimal.ofNat (n + 1)).toList ++ rest) := .mark rfl
    have scans := mark.trans (Scans.digits (n + 1) ends)
    rw [Decimal.ofInt, String.toList_append]
    exact scans

theorem all_isInner_integerSymbols {n : Int} (writable : Decimal.isWritable n = true) :
    (integerSymbols n).all Symbol.isInner = true := by
  have few := Decimal.length_digits_of_isWritable writable
  cases n with
  | ofNat n => simpa [integerSymbols, Symbol.isInner, Decimal.ofNat] using few
  | negSucc n =>
    have minus : Symbol.minus.isInner = true := rfl
    have number : (Symbol.number (Decimal.ofNat (n + 1))).isInner = true := by
      simpa [Symbol.isInner, Decimal.ofNat] using few
    simp [integerSymbols, minus, number]

theorem isInteger_integerSymbols (n : Int) : IsInteger (integerSymbols n) n := by
  cases n with
  | ofNat n =>
    have int := IsInteger.plain (Decimal.ofNat n)
    rwa [Decimal.value_ofNat] at int
  | negSucc n =>
    have int := IsInteger.negative (Decimal.ofNat (n + 1))
    rwa [Decimal.value_ofNat] at int

end Trace

namespace Action

/-- The names in an operation. -/
def names : Action → List String
  | .declare name .. => [name]
  | .borrow target _ result => [target, result]
  | .reborrow source _ result | .toInteger source result => [source, result]
  | .read source binding => source :: binding.toList
  | .write source _ => [source]
  | .call source function => [source, function]

/-- The tokens of an operation. -/
def symbols : Action → List Symbol
  | .declare name value isMutable interiorMutable =>
    .letWord :: ((if isMutable then [.mutWord] else []) ++ (.name name ::
      ((if interiorMutable then [.colon, .name "Cell"] else []) ++
        (.assign :: integerSymbols value))))
  | .borrow target kind result =>
    .letWord :: .name result :: .assign :: (borrowSymbols kind ++ [.name target])
  | .reborrow source kind result =>
    [.letWord, .name result, .assign, .name source, .asWord, .star, kindWord kind]
  | .toInteger source result =>
    [.letWord, .name result, .assign, .name source, .asWord, .name "usize"]
  | .read source none => [.star, .name source]
  | .read source (some name) => [.letWord, .name name, .assign, .star, .name source]
  | .write source value => .star :: .name source :: .assign :: integerSymbols value
  | .call source function => [.name function, .leftParen, .name source, .rightParen]

/-- The statement that an operation is written as. -/
def statement : Action → Statement
  | .declare name value isMutable interiorMutable =>
    .binding isMutable name interiorMutable (.value value)
  | .borrow target kind result => .binding false result false (.pointer ⟨.borrow kind target, []⟩)
  | .reborrow source kind result =>
    .binding false result false (.pointer ⟨.name source, [.pointer kind]⟩)
  | .toInteger source result => .binding false result false (.pointer ⟨.name source, [.integer]⟩)
  | .read source none => .deref source none
  | .read source (some name) => .binding false name false (.deref source)
  | .write source value => .deref source (some value)
  | .call source function => .call function ⟨.name source, []⟩

variable {a : Action} {rest : List Char}

/-- The written form of an operation is cut into the tokens of the operation. -/
theorem scans (named : ∀ n ∈ a.names, IsName n) (ends : Ends rest) :
    Scans (a.text.toList ++ rest) a.symbols rest := by
  cases a with
  | declare name value isMutable interiorMutable =>
    have name' : IsName name := named _ (by simp [names])
    have scans := scans_let.trans ((scans_isMutable isMutable).trans
      ((name'.scans (ends_isCell interiorMutable ends_assign)).trans
        ((scans_isCell interiorMutable ends_assign).trans
          (scans_assign.trans (scans_integer value ends)))))
    simp only [text, String.toList_append, List.append_assoc]
    exact scans
  | borrow target kind result =>
    have target' : IsName target := named _ (by simp [names])
    have result' : IsName result := named _ (by simp [names])
    have scans := result'.scans_bound.trans ((scans_borrowMark kind).trans (target'.scans ends))
    simp only [text, String.toList_append, List.append_assoc]
    exact scans
  | reborrow source kind result =>
    have source' : IsName source := named _ (by simp [names])
    have result' : IsName result := named _ (by simp [names])
    have cast := (source'.scans ends_as).trans (scans_as.trans (scans_castMark kind ends))
    have scans := result'.scans_bound.trans cast
    simp only [text, String.toList_append, List.append_assoc]
    exact scans
  | toInteger source result =>
    have source' : IsName source := named _ (by simp [names])
    have result' : IsName result := named _ (by simp [names])
    have type : Scans ("usize".toList ++ rest) [.name "usize"] rest := .word (by decide) ends
    have cast := (source'.scans ends_as).trans (scans_as.trans type)
    have scans := result'.scans_bound.trans cast
    have last : " as usize".toList = " as ".toList ++ "usize".toList := by decide
    simp only [text, String.toList_append, List.append_assoc, last]
    exact scans
  | read source binding =>
    have source' : IsName source := named _ (by simp [names])
    have deref : Scans ("*".toList ++ (source.toList ++ rest)) [.star, .name source] rest :=
      scans_star.trans (source'.scans ends)
    cases binding with
    | none =>
      have written : (Action.read source none).text = "*" ++ source := rfl
      simp only [written, String.toList_append, List.append_assoc]
      exact deref
    | some name =>
      have name' : IsName name := named _ (by simp [names])
      have written :
          (Action.read source (some name)).text = "let " ++ name ++ " = *" ++ source := by
        have kept : nonempty (some name) = some name := by simp [nonempty, name'.ne_empty]
        rw [text, kept]
      have last : " = *".toList = " = ".toList ++ "*".toList := by decide
      have scans := name'.scans_bound.trans deref
      simp only [written, String.toList_append, List.append_assoc, last]
      exact scans
  | write source value =>
    have source' : IsName source := named _ (by simp [names])
    have scans := scans_star.trans ((source'.scans ends_assign).trans
      (scans_assign.trans (scans_integer value ends)))
    simp only [text, String.toList_append, List.append_assoc]
    exact scans
  | call source function =>
    have source' : IsName source := named _ (by simp [names])
    have function' : IsName function := named _ (by simp [names])
    have paren : Scans ('(' :: (source.toList ++ ')' :: rest)) [.leftParen]
      (source.toList ++ ')' :: rest) := .mark rfl
    have closed : Scans (')' :: rest) [.rightParen] rest := .mark rfl
    have scans := (function'.scans (.cons (by decide))).trans
      (paren.trans ((source'.scans (.cons (by decide))).trans closed))
    simp only [text, String.toList_append, List.append_assoc]
    exact scans

/-- The grammar derives the statement of an operation from its tokens. -/
theorem isStatement (a : Action) : IsStatement a.symbols a.statement := by
  cases a with
  | declare name value isMutable interiorMutable =>
    have typed : IsAnnotation (if interiorMutable then [.colon, .name "Cell"] else [])
        interiorMutable := by
      cases interiorMutable with
      | false => exact .absent
      | true => exact .type "Cell"
    exact .binding isMutable name typed (.value (isInteger_integerSymbols value))
  | borrow target kind result =>
    have primary : IsPrimary (borrowSymbols kind ++ [.name target]) (.borrow kind target) := by
      cases kind with
      | shared => exact .shared target
      | unique => exact .unique target
    have pointer := IsPointer.mk primary .nil
    rw [List.append_nil] at pointer
    exact .binding false result .absent (.pointer pointer)
  | reborrow source kind result =>
    have cast : IsCasts [.asWord, .star, kindWord kind] [.pointer kind] :=
      .cons (.pointer kind none) .nil
    exact .binding false result .absent (.pointer (.mk (.name source) cast))
  | toInteger source result =>
    have cast : IsCasts [.asWord, .name "usize"] [.integer] := .cons (.integer (by decide)) .nil
    exact .binding false result .absent (.pointer (.mk (.name source) cast))
  | read source binding =>
    cases binding with
    | none => exact .deref source
    | some name => exact .binding false name .absent (.deref source)
  | write source value => exact .derefAssign source (isInteger_integerSymbols value)
  | call source function => exact .call function (.mk (.name source) .nil)

/-- The statement of an operation stands for that operation alone. -/
theorem meaning_statement (a : Action) (used : Nat) : a.statement.meaning used = [a] := by
  cases a with
  | read source binding => cases binding <;> rfl
  | _ => rfl

theorem symbols_ne_nil (a : Action) : a.symbols ≠ [] := by
  cases a with
  | read source binding => cases binding <;> exact List.cons_ne_nil _ _
  | _ => exact List.cons_ne_nil _ _

theorem all_isInner_symbols {a : Action} (writable : a.isWritable = true) :
    a.symbols.all Symbol.isInner = true := by
  cases a with
  | declare name value isMutable interiorMutable =>
    have number := all_isInner_integerSymbols writable
    cases isMutable <;> cases interiorMutable <;> exact number
  | borrow target kind result => cases kind <;> rfl
  | reborrow source kind result => cases kind <;> rfl
  | toInteger source result => rfl
  | read source binding => cases binding <;> rfl
  | write source value => exact all_isInner_integerSymbols writable
  | call source function => rfl

end Action

/-! ## The lines of a text -/

namespace Trace

theorem mem_intercalate {α : Type} {x y : α} {ls : List (List α)} (h : y ∈ [x].intercalate ls) :
    y = x ∨ ∃ l ∈ ls, y ∈ l := by
  induction ls with
  | nil => cases h
  | cons l ls ih =>
    cases ls with
    | nil =>
      rw [List.intercalate_singleton] at h
      exact .inr ⟨l, List.mem_cons_self, h⟩
    | cons l' ls =>
      rw [List.intercalate_cons_cons, List.mem_append, List.mem_append, List.mem_singleton] at h
      rcases h with (inside | same) | later
      · exact .inr ⟨l, List.mem_cons_self, inside⟩
      · exact .inl same
      · obtain same | ⟨k, among, inside⟩ := ih later
        · exact .inl same
        · exact .inr ⟨k, List.mem_cons_of_mem l among, inside⟩

variable {l : List Action}

/-- The tokens of operations, a line each. -/
def lineSymbols (l : List Action) : List Symbol := [.newline].intercalate (l.map Action.symbols)

/-- Operations that are written one to a line are cut into their tokens, line by line. -/
theorem scans_lines (named : ∀ a ∈ l, ∀ n ∈ a.names, IsName n) :
    Scans (['\n'].intercalate (l.map fun a => a.text.toList)) (lineSymbols l) [] := by
  induction l with
  | nil => exact .nothing []
  | cons a l ih =>
    obtain ⟨own, others⟩ := List.forall_mem_cons.mp named
    cases l with
    | nil =>
      have scans := Action.scans own .nil
      rw [List.append_nil] at scans
      simpa [lineSymbols] using scans
    | cons b l =>
      -- the end of a line is the end of its last word or number
      have newline : ∀ rest, Scans ('\n' :: rest) [.newline] rest := fun _ => .mark rfl
      have scans := (Action.scans own (.cons (by decide))).trans ((newline _).trans (ih others))
      simpa [lineSymbols, List.intercalate_cons_cons] using scans

theorem short_of_lineSymbols {body : List Token} (same : body.map Token.symbol = lineSymbols l)
    (writable : ∀ a ∈ l, a.isWritable = true) : Short body := by
  intro t inside digits number
  have listed : t.symbol ∈ lineSymbols l := same ▸ List.mem_map_of_mem inside
  rw [number] at listed
  obtain ⟨⟨⟩⟩ | ⟨_, among, among'⟩ := mem_intercalate listed
  obtain ⟨a, here, rfl⟩ := List.mem_map.mp among
  have inner := List.all_eq_true.mp (Action.all_isInner_symbols (writable a here)) _ among'
  exact of_decide_eq_true inner

/-- Split at the ends of the lines, the tokens are those of the operations. -/
theorem splitOnP_of_lineSymbols {body : List Token} (same : body.map Token.symbol = lineSymbols l)
    (some : l ≠ []) (writable : ∀ a ∈ l, a.isWritable = true) :
    List.Forall₂ (fun piece a => piece.map Token.symbol = Action.symbols a)
      (body.splitOnP (·.symbol.endsStatement)) l := by
  induction l generalizing body with
  | nil => exact absurd rfl some
  | cons a l ih =>
    obtain ⟨own, others⟩ := List.forall_mem_cons.mp writable
    have whole : ∀ piece : List Token, piece.map Token.symbol = a.symbols →
        piece.splitOnP (·.symbol.endsStatement) = [piece] :=
      fun piece spelled => splitOnP_of_isInner (spelled ▸ Action.all_isInner_symbols own)
    cases l with
    | nil =>
      have spelled : body.map Token.symbol = a.symbols := by simpa [lineSymbols] using same
      rw [whole body spelled]
      exact .cons spelled .nil
    | cons b l =>
      have lines : body.map Token.symbol = a.symbols ++ (.newline :: lineSymbols (b :: l)) := by
        simpa [lineSymbols, List.intercalate_cons_cons] using same
      obtain ⟨piece, more, rfl, spelled, behind⟩ := List.map_eq_append_iff.mp lines
      obtain ⟨place, later, rfl, same'⟩ := symbols_eq_cons.mp behind
      rw [List.splitOnP_append_cons _ _ rfl, whole piece spelled]
      exact .cons spelled (ih same' (List.cons_ne_nil b l) others)

/-- Pieces that are spelled like operations are statements that stand for these operations. -/
theorem spells_symbols {pieces : List (List Token)}
    (spelled : List.Forall₂ (fun piece a => piece.map Token.symbol = Action.symbols a) pieces l) :
    ∃ found, List.Forall₂ Spells pieces found ∧
      ∀ used, (meaning used (found.filterMap id)).map Operation.action = l := by
  induction spelled with
  | nil => exact ⟨[], .nil, fun _ => rfl⟩
  | @cons piece a pieces l first rest ih =>
    obtain ⟨found, spells, means⟩ := ih
    cases piece with
    | nil => exact absurd first.symm a.symbols_ne_nil
    | cons t piece =>
      have statement : IsStatement ((t :: piece).map Token.symbol) a.statement :=
        first ▸ a.isStatement
      refine ⟨some (t.location, a.statement) :: found, .cons (.statement statement) spells,
        fun used => ?_⟩
      show ((a.statement.meaning used).map _ ++ meaning _ _).map _ = _
      rw [a.meaning_statement, List.map_append, means]
      rfl

end Trace

namespace Program

variable {l : List Operation}

/-- Operations that are written one to a line are read back as the same operations, in order, when
    their names are names of the language and their numbers are not too long to be written. -/
theorem parse_rendered (named : ∀ op ∈ l, ∀ n ∈ op.action.names, IsName n)
    (writable : ∀ op ∈ l, op.action.isWritable = true) (file : String) (name : Option String) :
    ∃ p, parse ("\n".intercalate (l.map Operation.text)) file name = .ok p ∧
      p.actions = l.map Operation.action := by
  have named' : ∀ a ∈ l.map Operation.action, ∀ n ∈ a.names, IsName n := by simpa using named
  have writable' : ∀ a ∈ l.map Operation.action, a.isWritable = true := by simpa using writable
  have lines : ("\n".intercalate (l.map Operation.text)).toList =
      ['\n'].intercalate ((l.map Operation.action).map fun a => a.text.toList) := by
    rw [String.toList_intercalate, List.map_map, List.map_map]
    rfl
  obtain ⟨ts, tokens, same⟩ := (lines ▸ scans_lines named').tokenize file
  have short := short_of_lineSymbols same writable'
  obtain ⟨found, spells, means⟩ : ∃ found,
      List.Forall₂ Spells (ts.body.splitOnP (·.symbol.endsStatement)) found ∧
        ∀ used, (meaning used (found.filterMap id)).map Operation.action =
          l.map Operation.action := by
    cases l with
    | nil =>
      -- no operations make an empty text, which is one empty piece
      rw [List.map_eq_nil_iff.mp same]
      exact ⟨[none], .cons .empty .nil, fun _ => rfl⟩
    | cons op l => exact spells_symbols (splitOnP_of_lineSymbols same (by simp) writable')
  exact ⟨_, parse_of_spells tokens short spells, means 0⟩

/-- Every kind of operation, on an interior-mutable variable. -/
def everyKind : List Operation := [⟨.declare "x" (-5) true true, none⟩,
  ⟨.borrow "x" .unique "r", none⟩, ⟨.reborrow "r" .shared "s", none⟩, ⟨.toInteger "s" "n", none⟩,
  ⟨.read "s" (some "v"), none⟩, ⟨.read "x" none, none⟩, ⟨.write "r" 7, none⟩, ⟨.call "r" "f", none⟩]

theorem parse_rendered_everyKind : ∃ p,
    parse ("\n".intercalate (everyKind.map Operation.text)) "t" none = .ok p ∧
      p.actions = everyKind.map Operation.action :=
  parse_rendered (by decide) (by decide +kernel) "t" none

end Program

end PointerTrace
