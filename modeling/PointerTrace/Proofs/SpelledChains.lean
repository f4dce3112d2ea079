import PointerTrace.Proofs.Temporaries

/- Chains that are spelled out. A chain of casts may be written with one binding for each of its links,
   which binds a name of its own where the chain has a temporary (`Statement.spelledOut`). Such a text
   can always be written (`exists_holds`); it is read as the same operations with the new names in
   place of the temporaries (`meaning_spelledOut`), and so it gets the same verdict. The temporaries
   themselves are linear: they come in order, each is bound once and taken once, right behind
   (`Program.parse_chains`). -/
namespace PointerTrace

open Program (temporary exchange)

namespace Trace

/-! ## Statements without chains -/

/-- The expression of a link that applies to a pointer. -/
def Link.expr (source : String) : Link → PointerExpr
  | .borrow kind target => ⟨.borrow kind target, []⟩
  | .cast c => ⟨.name source, [c]⟩

/-- The pointer that a link applies to when those before it have names of their own. -/
def pointerAt (fresh : Nat → String) (start : String) (used : Nat) : Nat → String
  | 0 => start
  | i + 1 => fresh (used + i + 1)

/-- One binding for each link, behind a number of names. -/
def lets (fresh : Nat → String) (start : String) (used : Nat) (links : List Link) : List Statement :=
  links.mapIdx fun i link =>
    .binding false (fresh (used + i + 1)) false (.pointer (link.expr (pointerAt fresh start used i)))

/-- A statement with one binding for each link of its chain. The last link of a binding stays in it. -/
def Statement.spelledOut (fresh : Nat → String) (used : Nat) : Statement → List Statement
  | .binding isMutable name isCell (.pointer e) =>
    match e.links.getLast? with
    | none => [.binding isMutable name isCell (.pointer e)]
    | some last => lets fresh e.start used e.links.dropLast ++ [.binding isMutable name isCell
        (.pointer (last.expr (pointerAt fresh e.start used (e.links.length - 1))))]
  | .call function e => lets fresh e.start used e.links ++
      [.call function ⟨.name (pointerAt fresh e.start used e.links.length), []⟩]
  | s => [s]

/-- Statements with their chains spelled out, behind a number of names. -/
def spelledOut (fresh : Nat → String) (used : Nat) : List Statement → List Statement
  | [] => []
  | s :: rest => s.spelledOut fresh used ++ spelledOut fresh (used + s.temporaryCount) rest

/-- A text that is read as statements. -/
def Holds (text file : String) (l : List Statement) : Prop :=
  ∃ ts found, tokenize text file = .ok ts ∧ readStatements ts = .ok found ∧ found.map Prod.snd = l

/-! ## What they stand for -/

section Meaning

variable {fresh : Nat → String} {used n : Nat} {start : String} {e : PointerExpr}

theorem links_expr (link : Link) (source : String) : (link.expr source).links = [link] := by
  cases link <;> rfl

/-- A binding of one link. -/
theorem meaning_link (link : Link) (source name : String) (isMutable isCell : Bool) (n : Nat) :
    Statement.meaning n (.binding isMutable name isCell (.pointer (link.expr source))) =
      [link.action source name] := by
  have some : (link.expr source).links ≠ [] := by simp [links_expr]
  rw [Statement.meaning, if_neg some, links_expr]
  cases link <;> rfl

theorem flatMap_mapIdx {α β γ : Type} {f : Nat → α → β} {g : β → List γ} {h : Nat → α → γ}
    {l : List α} (single : ∀ i x, g (f i x) = [h i x]) : (l.mapIdx f).flatMap g = l.mapIdx h := by
  induction l generalizing f h with
  | nil => rfl
  | cons x l ih =>
    rw [List.mapIdx_cons, List.flatMap_cons, single, List.mapIdx_cons, ih fun i x => single (i + 1) x]
    rfl

theorem flatMap_lets (links : List Link) (n : Nat) :
    (lets fresh start used links).flatMap (Statement.meaning n) = links.mapIdx fun i link =>
      link.action (pointerAt fresh start used i) (fresh (used + i + 1)) :=
  flatMap_mapIdx fun _ link => meaning_link link _ _ false false n

/-- The links of a chain up to some one, with other names in place of the temporaries. -/
theorem operandAt_exchange {result : Option String} (free : Program.temporaryNumber? start = none)
    {count i : Nat} (inner : result = none ∨ i < count) :
    exchange fresh (operandAt result start used count i) = pointerAt fresh start used i := by
  cases i with
  | zero => exact Program.exchange_of_none free
  | succ i =>
    rw [operandAt, exchange, temporaryNumber?_boundAt inner, Nat.add_right_comm]
    rfl

/-- Spelled out, a chain stands for its operations with the new names in place of the temporaries. -/
theorem rename_unnamed (written : IsName e.primary.written) (n : Nat) :
    (chainOperations none e.start used e.links).map (Action.rename (exchange fresh)) =
      (lets fresh e.start used e.links).flatMap (Statement.meaning n) := by
  have pointers (i : Nat) : exchange fresh (operandAt none e.start used e.links.length i) =
      pointerAt fresh e.start used i :=
    operandAt_exchange (temporaryNumber?_start written) (.inl rfl)
  have names (i : Nat) : exchange fresh (boundAt none used e.links.length i) = fresh (used + i + 1) :=
    pointers (i + 1)
  rw [rename_chainOperations (Program.exchange_of_none written.temporaryNumber?), flatMap_lets]
  simp only [pointers, names]

theorem rename_named {name : String} (named : IsName name) (written : IsName e.primary.written)
    {init : List Link} {last : Link} (split : e.links = init ++ [last]) (n : Nat) :
    (chainOperations (some name) e.start used e.links).map (Action.rename (exchange fresh)) =
      (lets fresh e.start used init).flatMap (Statement.meaning n) ++
        [last.action (pointerAt fresh e.start used init.length) name] := by
  have length : e.links.length = init.length + 1 := by simp [split]
  have pointers (i : Nat) (inside : i < init.length + 1) :
      exchange fresh (operandAt (some name) e.start used e.links.length i) =
        pointerAt fresh e.start used i :=
    operandAt_exchange (temporaryNumber?_start written) (.inr (length ▸ inside))
  have names (i : Nat) (inside : i < init.length) :
      exchange fresh (boundAt (some name) used e.links.length i) = fresh (used + i + 1) :=
    pointers (i + 1) (Nat.succ_lt_succ inside)
  have bound : exchange fresh (boundAt (some name) used e.links.length init.length) = name := by
    rw [boundAt, if_pos length.symm]
    exact Program.exchange_of_none named.temporaryNumber?
  rw [rename_chainOperations (Program.exchange_of_none written.temporaryNumber?), flatMap_lets]
  generalize e.links.length = count at *
  rw [split, List.mapIdx_append]
  congr 1
  · apply List.ext_getElem
    · simp
    · intro i here here'
      have inside : i < init.length := by simpa using here'
      simp [pointers i (Nat.lt_succ_of_lt inside), names i inside]
  · simp [pointers init.length (Nat.lt_succ_self _), bound]

theorem Statement.spelledOut_plain {s : Statement} (plain : s.links = []) :
    s.spelledOut fresh used = [s] := by
  cases s with
  | binding isMutable name isCell init =>
    cases init with
    | pointer e =>
      have bare : e.links = [] := plain
      simp [Statement.spelledOut, bare]
    | _ => rfl
  | call function e =>
    have bare : e.links = [] := plain
    obtain ⟨primary, casts⟩ := e
    cases primary with
    | borrow => cases bare
    | name source =>
      obtain rfl : casts = [] := by simpa [PointerExpr.links] using bare
      rfl
  | _ => rfl

/-- A statement that is spelled out stands for its operations with the new names in place of the
    temporaries. -/
theorem Statement.meaning_spelledOut {s : Statement} (named : ∀ n ∈ s.names, IsName n) (n : Nat) :
    (s.spelledOut fresh used).flatMap (Statement.meaning n) =
      (s.meaning used).map (Action.rename (exchange fresh)) := by
  by_cases plain : s.links = []
  · have fixed : ∀ x ∈ s.names, exchange fresh x = x :=
      fun x known => Program.exchange_of_none (named x known).temporaryNumber?
    rw [Statement.spelledOut_plain plain, s.rename_plain plain fixed used n]
    exact List.append_nil _
  cases s with
  | binding isMutable name isCell init =>
    cases init with
    | value | cell | deref => exact absurd rfl plain
    | pointer e =>
      have some : e.links ≠ [] := plain
      have split := List.dropLast_append_getLast some
      have name' : IsName name := named name List.mem_cons_self
      have written : IsName e.primary.written := named _ (by simp [Statement.names])
      rw [Statement.meaning, if_neg some, rename_named name' written split.symm n, Statement.spelledOut,
        List.getLast?_eq_some_getLast some]
      simp [meaning_link]
  | deref | assign => exact absurd rfl plain
  | call function e =>
    have written : IsName e.primary.written := named _ (by simp [Statement.names])
    have last : exchange fresh (operandAt none e.start used e.links.length e.links.length) =
        pointerAt fresh e.start used e.links.length :=
      operandAt_exchange (temporaryNumber?_start written) (.inl rfl)
    rw [Statement.meaning, List.map_append, rename_unnamed written n, Statement.spelledOut,
      List.flatMap_append, ← last]
    rfl

/-- What is spelled out takes no temporaries. -/
theorem Statement.temporaryCount_spelledOut (s : Statement) :
    ∀ t ∈ s.spelledOut fresh used, t.temporaryCount = 0 := by
  have linked (isMutable isCell : Bool) (name source : String) (link : Link) :
      Statement.temporaryCount (.binding isMutable name isCell (.pointer (link.expr source))) = 0 := by
    rw [Statement.temporaryCount, links_expr]
    rfl
  have lets_count (start : String) (links : List Link) :
      ∀ t ∈ lets fresh start used links, t.temporaryCount = 0 := by
    intro t inside
    obtain ⟨i, here, rfl⟩ := List.mem_mapIdx.mp inside
    exact linked ..
  cases s with
  | binding isMutable name isCell init =>
    cases init with
    | value | cell | deref => exact List.forall_mem_singleton.mpr rfl
    | pointer e =>
      by_cases bare : e.links = []
      · have plain : Statement.links (.binding isMutable name isCell (.pointer e)) = [] := bare
        rw [Statement.spelledOut_plain plain, List.forall_mem_singleton, Statement.temporaryCount, bare]
        rfl
      · rw [Statement.spelledOut, List.getLast?_eq_some_getLast bare]
        exact List.forall_mem_append.mpr
          ⟨lets_count _ _, List.forall_mem_singleton.mpr (linked ..)⟩
  | deref | assign => exact List.forall_mem_singleton.mpr rfl
  | call function e =>
    exact List.forall_mem_append.mpr ⟨lets_count _ _, List.forall_mem_singleton.mpr rfl⟩

/-- Statements without temporaries stand for the same wherever they are. -/
theorem meaning_of_temporaryCount {k : List (Location × Statement)}
    (without : ∀ s ∈ k.map Prod.snd, s.temporaryCount = 0) (n : Nat) :
    (meaning n k).map Operation.action = (k.map Prod.snd).flatMap (Statement.meaning n) := by
  induction k with
  | nil => rfl
  | cons x k ih =>
    obtain ⟨place, s⟩ := x
    obtain ⟨own, others⟩ := List.forall_mem_cons.mp without
    have none : s.temporaryCount = 0 := own
    rw [actions_meaning_cons, none, Nat.add_zero, ih others, List.map_cons, List.flatMap_cons]

/-- Statements that are spelled out stand for the operations with the new names in place of the
    temporaries. -/
theorem meaning_spelledOut {l k : List (Location × Statement)}
    (named : ∀ x ∈ l, ∀ n ∈ x.2.names, IsName n)
    (spelled : k.map Prod.snd = spelledOut fresh used (l.map Prod.snd)) (n : Nat) :
    (meaning n k).map Operation.action =
      ((meaning used l).map Operation.action).map (Action.rename (exchange fresh)) := by
  have without (l : List Statement) (used : Nat) :
      ∀ t ∈ spelledOut fresh used l, t.temporaryCount = 0 := by
    induction l generalizing used with
    | nil => nofun
    | cons s l ih => exact List.forall_mem_append.mpr ⟨s.temporaryCount_spelledOut, ih _⟩
  rw [meaning_of_temporaryCount (spelled ▸ without _ _), spelled]
  -- the places of the new statements are of no use any more
  clear spelled
  induction l generalizing used with
  | nil => rfl
  | cons x l ih =>
    obtain ⟨place, s⟩ := x
    obtain ⟨own, others⟩ := List.forall_mem_cons.mp named
    rw [List.map_cons, spelledOut, List.flatMap_append, s.meaning_spelledOut own, ih others,
      actions_meaning_cons, List.map_append]

end Meaning

/-! ## Writing them -/

section Writing

variable {fresh : Nat → String} {used : Nat} {start name source : String} {e : PointerExpr}
  {links : List Link} {link : Link}

/-- A token that a statement of a text can hold. -/
def Symbol.IsPlain (x : Symbol) : Prop := x.IsWritten ∧ x.isInner = true

/-- Some tokens that a text can hold spell the statement. -/
def Statement.Sayable (s : Statement) : Prop := ∃ l, IsStatement l s ∧ ∀ x ∈ l, x.IsPlain

/-- Some tokens that a text can hold spell the expression. -/
def PointerExpr.Sayable (e : PointerExpr) : Prop := ∃ l, IsPointer l e ∧ ∀ x ∈ l, x.IsPlain

theorem IsName.isPlain (named : IsName name) : (Symbol.name name).IsPlain :=
  ⟨⟨[], _, .word (s := .name name) named.1 named.ofWord .nil⟩, rfl⟩

theorem isPlain_word {s : Symbol} (known : s ∈ [.letWord, .mutWord, .asWord, .constWord]) :
    s.IsPlain := by
  simp only [List.mem_cons, List.not_mem_nil, or_false] at known
  rcases known with rfl | rfl | rfl | rfl
  all_goals exact ⟨⟨[], _, .word (by decide) (by decide) .nil⟩, rfl⟩

theorem isPlain_mark {s : Symbol} (known : s ∈ [.ampersand, .star, .assign, .leftParen, .rightParen]) :
    s.IsPlain := by
  simp only [List.mem_cons, List.not_mem_nil, or_false] at known
  rcases known with rfl | rfl | rfl | rfl | rfl
  all_goals exact ⟨⟨[], _, .mark (by decide) nofun⟩, rfl⟩

/-- The expression of a link can be written when its names can. -/
theorem sayable_expr (target : ∀ kind target, link = .borrow kind target → IsName target)
    (applies : ∀ cast, link = .cast cast → IsName source) : (link.expr source).Sayable := by
  cases link with
  | borrow kind borrowed =>
    have ampersand : Symbol.ampersand.IsPlain := isPlain_mark (by decide)
    have mutable : Symbol.mutWord.IsPlain := isPlain_word (by decide)
    have named := (target kind borrowed rfl).isPlain
    cases kind with
    | shared => exact ⟨_, .mk (.shared borrowed) .nil, by simp [ampersand, named]⟩
    | unique => exact ⟨_, .mk (.unique borrowed) .nil, by simp [ampersand, mutable, named]⟩
  | cast cast =>
    have named := (applies cast rfl).isPlain
    have as : Symbol.asWord.IsPlain := isPlain_word (by decide)
    cases cast with
    | pointer kind =>
      have star : Symbol.star.IsPlain := isPlain_mark (by decide)
      have word : (kindWord kind).IsPlain := by cases kind <;> exact isPlain_word (by decide)
      exact ⟨_, .mk (.name source) (.cons (.pointer kind none) .nil), by simp [named, as, star, word]⟩
    | integer =>
      have type : (Symbol.name "usize").IsPlain := IsName.isPlain (by decide)
      have cast : IsCast [.name "usize"] .integer := .integer (by decide)
      exact ⟨_, .mk (.name source) (.cons cast .nil), by simp [named, as, type]⟩

/-- Bindings of links can be written when their names can. -/
theorem sayable_lets (fresh_named : ∀ n, IsName (fresh n))
    (targets : ∀ kind target, .borrow kind target ∈ links → IsName target)
    (starts : ∀ cast, links[0]? = some (.cast cast) → IsName start) :
    ∀ t ∈ lets fresh start used links, t.Sayable := by
  intro t inside
  obtain ⟨i, here, rfl⟩ := List.mem_mapIdx.mp inside
  have expr : (links[i].expr (pointerAt fresh start used i)).Sayable := by
    apply sayable_expr
    · exact fun kind target link => targets kind target (link ▸ List.getElem_mem here)
    · intro cast link
      cases i with
      | zero => exact starts cast (link ▸ List.getElem?_eq_getElem here)
      | succ i => exact fresh_named _
  obtain ⟨l, spelled, plain⟩ := expr
  refine ⟨_, .binding false _ .absent (.pointer spelled), ?_⟩
  have binds : Symbol.letWord.IsPlain := isPlain_word (by decide)
  have assign : Symbol.assign.IsPlain := isPlain_mark (by decide)
  simpa [binds, assign, (fresh_named _).isPlain] using plain

/-- A statement that can be written can be written with its chain spelled out. -/
theorem Statement.Sayable.spelledOut {s : Statement} (sayable : s.Sayable)
    (fresh_named : ∀ n, IsName (fresh n)) (named : ∀ n ∈ s.names, IsName n) :
    ∀ t ∈ s.spelledOut fresh used, t.Sayable := by
  by_cases without : s.links = []
  · rw [Statement.spelledOut_plain without, List.forall_mem_singleton]
    exact sayable
  -- a link applies to a new name, but for the first one, which has what is written in the statement
  have targets {e : PointerExpr} (written : IsName e.primary.written) (kind : BorrowKind)
      (target : String) (known : .borrow kind target ∈ e.links) : IsName target :=
    written_of_borrow known ▸ written
  have starts {e : PointerExpr} (written : IsName e.primary.written) (cast : Cast)
      (first : e.links[0]? = some (.cast cast)) : IsName e.start := by
    rw [start_of_cast first]
    exact written
  obtain ⟨l, spelled, plain⟩ := sayable
  cases spelled with
  | @binding isMutable name k l isCell init typed bound =>
    cases bound with
    | value | cell | deref => exact absurd rfl without
    | @pointer _ e pointer =>
      have chained : e.links ≠ [] := without
      have written : IsName e.primary.written := named _ (by simp [Statement.names])
      have expr : ((e.links.getLast chained).expr
          (pointerAt fresh e.start used (e.links.length - 1))).Sayable := by
        apply sayable_expr
        · exact fun kind target last => targets written kind target (last ▸ List.getLast_mem chained)
        · intro cast last
          have here : e.links[e.links.length - 1]? = some (.cast cast) := by
            rw [← List.getLast?_eq_getElem?, List.getLast?_eq_some_getLast chained, last]
          generalize e.links.length - 1 = i at here ⊢
          cases i with
          | zero => exact starts written cast here
          | succ i => exact fresh_named _
      obtain ⟨l', spelled', plain'⟩ := expr
      rw [Statement.spelledOut, List.getLast?_eq_some_getLast chained]
      refine List.forall_mem_append.mpr ⟨sayable_lets fresh_named ?_ ?_, List.forall_mem_singleton.mpr
        ⟨_, .binding isMutable name typed (.pointer spelled'), ?_⟩⟩
      · exact fun kind target known => targets written kind target ((List.dropLast_sublist _).mem known)
      · intro cast first
        rw [List.getElem?_dropLast, Option.ite_none_right_eq_some] at first
        exact starts written cast first.2
      · simp only [List.forall_mem_cons, List.forall_mem_append] at plain ⊢
        obtain ⟨binds, mutable, name', annotation, assign, -⟩ := plain
        exact ⟨binds, mutable, name', annotation, assign, plain'⟩
  | deref | derefAssign | assign => exact absurd rfl without
  | @call function l e argument =>
    have written : IsName e.primary.written := named _ (by simp [Statement.names])
    have last : IsName (pointerAt fresh e.start used e.links.length) := by
      cases links : e.links with
      | nil => exact absurd links without
      | cons => exact fresh_named _
    refine List.forall_mem_append.mpr
      ⟨sayable_lets fresh_named (targets written) (starts written), List.forall_mem_singleton.mpr
        ⟨_, .call function (.mk (.name _) .nil), ?_⟩⟩
    simp only [List.forall_mem_cons, List.forall_mem_append] at plain ⊢
    obtain ⟨function', opens, -, closes⟩ := plain
    exact ⟨function', opens, by simpa using last.isPlain, closes⟩

theorem sayable_spelledOut (fresh_named : ∀ n, IsName (fresh n)) {l : List Statement}
    (sayable : ∀ s ∈ l, s.Sayable ∧ ∀ n ∈ s.names, IsName n) (used : Nat) :
    ∀ t ∈ spelledOut fresh used l, t.Sayable := by
  induction l generalizing used with
  | nil => nofun
  | cons s l ih =>
    obtain ⟨⟨own, named⟩, others⟩ := List.forall_mem_cons.mp sayable
    exact List.forall_mem_append.mpr ⟨own.spelledOut fresh_named named, ih others _⟩

/-- The statements of a text can be written. -/
theorem sayable_of_readStatements {source file : String} {ts : Tokens}
    {l : List (Location × Statement)} (tokens : tokenize source file = .ok ts)
    (read : readStatements ts = .ok l) : ∀ x ∈ l, x.2.Sayable := by
  rintro ⟨place, s⟩ known
  obtain ⟨found, related, rfl⟩ := readStatements_eq_ok_iff_spells.mp read
  obtain ⟨_, inside, rfl⟩ := List.mem_filterMap.mp known
  obtain ⟨piece, here, short, spells⟩ := exists_of_forall₂ related inside
  have plain : ∀ t ∈ piece, t.symbol.IsPlain := by
    intro t among
    obtain ⟨held, goesOn⟩ := mem_of_mem_splitOnP here among
    refine ⟨isWritten_of_tokenize tokens t held, ?_⟩
    cases symbol : t.symbol with
    | number digits => exact decide_eq_true (short t among digits symbol)
    | semicolon | newline | eof => exact absurd (by rw [symbol]; rfl) goesOn
    | _ => rfl
  cases spells with
  | statement spelled => exact ⟨_, spelled, by simpa using plain⟩

/-- Tokens that a text can hold can be written. -/
theorem exists_respaced (l : List Symbol) : ∃ cs, Respaced l cs := by
  induction l with
  | nil => exact ⟨[], .nothing⟩
  | cons s l ih =>
    obtain ⟨cs, respaced⟩ := ih
    by_cases feed : s = .newline
    · subst feed
      exact ⟨_, .newline .alone respaced⟩
    · have blank : SetsOff (' ' :: cs) := by
        rintro _ ⟨⟩
        decide
      exact ⟨_, .token feed blank (.blank (by decide) respaced)⟩

theorem IsStatement.ne_nil {l : List Symbol} {s : Statement} (spelled : IsStatement l s) : l ≠ [] := by
  cases spelled <;> exact List.cons_ne_nil _ _

/-- Statements can be written, one to a line. -/
theorem exists_symbols {l : List Statement} (sayable : ∀ s ∈ l, s.Sayable) :
    ∃ symbols : List Symbol, (∀ x ∈ symbols, x.IsWritten) ∧ ∀ body : List Token,
      body.map Token.symbol = symbols → ∃ found,
        List.Forall₂ (fun piece x => Short piece ∧ Spells piece x)
          (body.splitOnP (·.symbol.endsStatement)) found ∧
        (found.filterMap id).map Prod.snd = l := by
  induction l with
  | nil =>
    refine ⟨[], nofun, fun body same => ?_⟩
    rw [List.map_eq_nil_iff.mp same]
    exact ⟨[none], .cons ⟨nofun, .empty⟩ .nil, rfl⟩
  | cons s l ih =>
    obtain ⟨⟨k, spelled, inside⟩, others⟩ := List.forall_mem_cons.mp sayable
    obtain ⟨symbols, written, reads⟩ := ih others
    have feed : Symbol.newline.IsWritten := ⟨[], _, .newline⟩
    refine ⟨k ++ .newline :: symbols, List.forall_mem_append.mpr ⟨fun x known => (inside x known).1,
      List.forall_mem_cons.mpr ⟨feed, written⟩⟩, fun body same => ?_⟩
    obtain ⟨piece, more, rfl, rfl, behind⟩ := List.map_eq_append_iff.mp same
    obtain ⟨place, later, rfl, same'⟩ := symbols_eq_cons.mp behind
    obtain ⟨found, spells, means⟩ := reads later same'
    have inner : (piece.map Token.symbol).all Symbol.isInner = true :=
      List.all_eq_true.mpr fun x known => (inside x known).2
    rw [List.splitOnP_append_cons _ _ rfl, splitOnP_of_isInner inner]
    cases piece with
    | nil => exact absurd rfl spelled.ne_nil
    | cons t piece =>
      refine ⟨some (t.location, s) :: found,
        .cons ⟨short_of_isInner inner, .statement spelled⟩ spells, ?_⟩
      simpa using means

/-- There is a text for statements that can be written. -/
theorem exists_holds {l : List Statement} (sayable : ∀ s ∈ l, s.Sayable) :
    ∃ text, ∀ file, Holds text file l := by
  obtain ⟨symbols, written, reads⟩ := exists_symbols sayable
  obtain ⟨cs, respaced⟩ := exists_respaced symbols
  refine ⟨String.ofList cs, fun file => ?_⟩
  have scans : Scans (String.ofList cs).toList symbols [] := by
    rw [String.toList_ofList]
    exact respaced.scans written
  obtain ⟨ts, tokens, same⟩ := scans.tokenize file
  obtain ⟨found, spells, means⟩ := reads ts.body same
  exact ⟨ts, _, tokens, readStatements_eq_ok_iff_spells.mpr ⟨found, spells, rfl⟩, means⟩

end Writing

end Trace

namespace Program

open Trace

variable {source file : String} {name : Option String} {p : Program}

/-- A text may be read as given statements when it holds them. -/
theorem parse_of_holds {l : List Statement} {text file' : String} (holds : Holds text file' l)
    (name' : Option String) : ∃ k q, k.map Prod.snd = l ∧ parse text file' name' = .ok q ∧
      q.actions = (meaning 0 k).map Operation.action := by
  obtain ⟨ts, k, tokens, read, same⟩ := holds
  exact ⟨k, _, same, (parse_eq_ok_iff tokens).mpr ⟨k, read, rfl⟩, rfl⟩

/-- New names in place of the temporaries leave all names apart. -/
theorem renamed_exchange {q : Program} {fresh : Nat → String} (ofText : ∀ a ∈ p.actions, OfText a)
    (distinct : Function.Injective fresh)
    (unused : ∀ n, ∀ a ∈ p.actions, fresh n ∉ a.mentioned)
    (actions : q.actions = p.actions.map (Action.rename (exchange fresh))) :
    p.Renamed (exchange fresh) q := by
  refine ⟨actions, fun a here b here' x mentions y mentions' same => ?_⟩
  rcases (ofText a here).mentioned x mentions with plain | ⟨n, rfl⟩ <;>
    rcases (ofText b here').mentioned y mentions' with plain' | ⟨k, rfl⟩
  · rwa [exchange_of_none plain.temporaryNumber?, exchange_of_none plain'.temporaryNumber?] at same
  · rw [exchange_of_none plain.temporaryNumber?, exchange_temporary] at same
    exact absurd mentions (same ▸ unused k a here)
  · rw [exchange_of_none plain'.temporaryNumber?, exchange_temporary] at same
    exact absurd mentions' (same ▸ unused n b here')
  · rw [exchange_temporary, exchange_temporary] at same
    rw [distinct same]

/-- The temporaries of chains are linear. They are bound in order; each is bound by one operation and
    taken by one, the next; no name in the text is one of them, so that none is reported as bound
    twice or as unknown. When each link of a chain is written as a binding of its own, with names that
    the operations do not mention, the text is read as the same operations under the new names, and
    has the same problems or the same verdict, with the same rule at the same index. -/
theorem parse_chains (parsed : parse source file name = .ok p) :
    (p.actions.filterMap Action.result?).filter (fun x => x.toList.head? = some '%') =
      (List.range p.temporaries).map (fun i => temporary (i + 1)) ∧
    (∀ i < p.temporaries, ∃ n a b, p.actions[n]? = some a ∧ a.result? = some (temporary (i + 1)) ∧
      p.actions[n + 1]? = some b ∧ b.operand? = some (temporary (i + 1)) ∧
      ∀ m c, p.actions[m]? = some c → (c.result? = some (temporary (i + 1)) → m = n) ∧
        (c.operand? = some (temporary (i + 1)) → m = n + 1)) ∧
    (∀ ts, tokenize source file = .ok ts → ∀ t ∈ ts.body, ∀ n, t.symbol ≠ .name (temporary n)) ∧
    (∀ checkBindings, ∀ issue ∈ p.issues checkBindings, ∀ n,
      (∀ index, issue.cause ≠ .duplicateName (temporary n) index) ∧
      (∀ index, issue.cause ≠ .unknownPointer (temporary n) index) ∧
      ∀ index, issue.cause ≠ .unknownAllocation (temporary n) index) ∧
    ∀ fresh : Nat → String, (∀ n, IsName (fresh n)) → Function.Injective fresh →
      (∀ n, ∀ a ∈ p.actions, fresh n ∉ a.mentioned) →
      ∃ l, Holds source file l ∧ (∃ text, ∀ file', Holds text file' (spelledOut fresh 0 l)) ∧
        ∀ text file' name', Holds text file' (spelledOut fresh 0 l) →
          ∃ q, parse text file' name' = .ok q ∧
            q.actions = p.actions.map (Action.rename (exchange fresh)) ∧
            ∀ o, SameOutcome (exchange fresh) (p.check o) (q.check o) := by
  obtain ⟨threads, numbers, ofText⟩ := of_parsed parsed
  refine ⟨marked_results numbers ofText, fun i inside => bound_and_taken threads numbers inside, ?_,
    fun checkBindings issue reported n => not_reported threads numbers ofText reported n, ?_⟩
  · intro ts tokens t inside n symbol
    have written := isWritten_of_tokenize tokens t inside
    rw [symbol] at written
    exact not_isName_temporary n written.isName
  · intro fresh named distinct unused
    obtain ⟨ts, l, tokens, read, rfl⟩ := of_parse_eq_ok parsed
    have own := isName_of_readStatements tokens read
    refine ⟨l.map Prod.snd, ⟨ts, l, tokens, read, rfl⟩, exists_holds ?_, ?_⟩
    · have sayable : ∀ s ∈ l.map Prod.snd, s.Sayable ∧ ∀ n ∈ s.names, IsName n := by
        intro s inside
        obtain ⟨x, known, rfl⟩ := List.mem_map.mp inside
        exact ⟨sayable_of_readStatements tokens read x known, own x known⟩
      exact sayable_spelledOut named sayable 0
    · intro text file' name' holds
      obtain ⟨k, q, same, parsed', actions⟩ := parse_of_holds holds name'
      rw [meaning_spelledOut own same 0] at actions
      exact ⟨q, parsed', actions, (renamed_exchange ofText distinct unused actions).check⟩

/-- A declaration and a call with a chain of two links. -/
def castInCall : String := "let x = 0\nf(&x as *mut)"

/-- Names that are told apart by their lengths. -/
def vs (n : Nat) : String := String.ofList (List.replicate (n + 1) 'v')

theorem isName_vs (n : Nat) : IsName (vs n) := by
  have first : (vs n).toList = 'v' :: List.replicate n 'v' := by
    rw [vs, String.toList_ofList, List.replicate_succ]
  constructor
  · rw [first, isWord, Bool.and_eq_true, List.all_eq_true]
    refine ⟨by decide, fun c inside => ?_⟩
    rw [List.eq_of_mem_replicate inside]
    decide
  · intro keyword
    have heads : ∀ word ∈ keywords, word.toList.head? ≠ some 'v' := by decide
    exact heads _ keyword (by rw [first]; rfl)

theorem vs_injective : Function.Injective vs := by
  intro n k same
  have lengths := congrArg (fun name => name.toList.length) same
  simpa [vs] using lengths

theorem parse_castInCall : ∃ p, parse castInCall "t" none = .ok p ∧ p.temporaries = 2 ∧ p.actions =
    [.declare "x" 0 false false, .borrow "x" .shared (temporary 1),
      .reborrow (temporary 1) .unique (temporary 2), .call (temporary 2) "f"] := by
  have x : IsName "x" := by decide
  have f : IsName "f" := by decide
  have mark : ∀ {c : Char} {rest : List Char} {s : Symbol}, piece? c rest = some (0, some s) →
      Scans (c :: rest) [s] rest := .mark
  have cast : Scans "&x as *mut)".toList [.ampersand, .name "x", .asWord, .star, .mutWord, .rightParen]
      [] := scans_ampersand.trans ((x.scans ends_as).trans
    (scans_as.trans ((scans_castMark .unique (.cons (by decide))).trans (mark rfl))))
  have call : Scans "\nf(&x as *mut)".toList _ [] :=
    (mark rfl).trans ((f.scans (.cons (by decide))).trans ((mark rfl).trans cast))
  have zero : ∀ rest, Ends rest → Scans ("0".toList ++ rest) [.number "0"] rest :=
    fun _ => .number (by decide) (List.forall_mem_singleton.mpr rfl)
  have value : Scans "0\nf(&x as *mut)".toList _ _ := (zero _ (.cons (by decide))).trans call
  have scans : Scans castInCall.toList [.letWord, .name "x", .assign, .number "0", .newline, .name "f",
      .leftParen, .ampersand, .name "x", .asWord, .star, .mutWord, .rightParen] [] :=
    x.scans_bound.trans value
  obtain ⟨ts, tokens, same⟩ := scans.tokenize "t"
  have lines : ts.body.map Token.symbol = [.letWord, .name "x", .assign, .number "0"] ++ (.newline ::
      [.name "f", .leftParen, .ampersand, .name "x", .asWord, .star, .mutWord, .rightParen]) := same
  obtain ⟨declare, more, body, first, behind⟩ := List.map_eq_append_iff.mp lines
  obtain ⟨place, call, rfl, second⟩ := symbols_eq_cons.mp behind
  have inner : (declare.map Token.symbol).all Symbol.isInner = true := by rw [first]; rfl
  have inner' : (call.map Token.symbol).all Symbol.isInner = true := by rw [second]; rfl
  have binding : IsStatement (declare.map Token.symbol) (.binding false "x" false (.value 0)) :=
    first ▸ .binding false "x" .absent (.value (.plain "0"))
  have calls : IsStatement (call.map Token.symbol)
      (.call "f" ⟨.borrow .shared "x", [.pointer .unique]⟩) :=
    second ▸ .call "f" (.mk (.shared "x") (.cons (.pointer .unique none) .nil))
  obtain ⟨place₁, rest₁, rfl, -⟩ := symbols_eq_cons.mp first
  obtain ⟨place₂, rest₂, rfl, -⟩ := symbols_eq_cons.mp second
  have spells : List.Forall₂ (fun piece x => Short piece ∧ Spells piece x)
      (ts.body.splitOnP (·.symbol.endsStatement)) [some (place₁, .binding false "x" false (.value 0)),
        some (place₂, .call "f" ⟨.borrow .shared "x", [.pointer .unique]⟩)] := by
    rw [body, List.splitOnP_append_cons _ _ rfl, splitOnP_of_isInner inner, splitOnP_of_isInner inner']
    exact .cons ⟨short_of_isInner inner, .statement binding⟩
      (.cons ⟨short_of_isInner inner', .statement calls⟩ .nil)
  have read := readStatements_eq_ok_iff_spells.mpr ⟨_, spells, rfl⟩
  exact ⟨_, (parse_eq_ok_iff tokens).mpr ⟨_, read, rfl⟩, rfl, rfl⟩

theorem parse_chains_castInCall : ∃ p, parse castInCall "t" none = .ok p ∧
    p.actions.filterMap Action.result? = ["x", temporary 1, temporary 2] ∧
    (p.actions.filterMap Action.result?).filter (fun x => x.toList.head? = some '%') =
      [temporary 1, temporary 2] ∧
    ∃ text q, parse text "u" none = .ok q ∧ q.actions =
      [.declare "x" 0 false false, .borrow "x" .shared "vv", .reborrow "vv" .unique "vvv",
        .call "vvv" "f"] ∧ ∀ o, SameOutcome (exchange vs) (p.check o) (q.check o) := by
  obtain ⟨p, parsed, count, actions⟩ := parse_castInCall
  obtain ⟨marked, -, -, -, spelled⟩ := parse_chains parsed
  have unused : ∀ n, ∀ a ∈ p.actions, vs n ∉ a.mentioned := by
    intro n
    have other : vs n ≠ "x" := by
      intro same
      have heads := congrArg (fun name => name.toList.head?) same
      simp [vs, List.replicate_succ] at heads
    have written (k : Nat) : vs n ≠ temporary k :=
      fun same => not_isName_temporary k (same ▸ isName_vs n)
    simp [actions, Action.mentioned, other, written]
  obtain ⟨l, -, ⟨text, holds⟩, reads⟩ := spelled vs isName_vs vs_injective unused
  obtain ⟨q, parsed', actions', outcomes⟩ := reads text "u" none (holds "u")
  refine ⟨p, parsed, by rw [actions]; rfl, by rw [marked, count]; rfl, text, q, parsed', ?_, outcomes⟩
  have fixed : exchange vs "x" = "x" := exchange_of_none (IsName.temporaryNumber? (by decide))
  have one : vs 1 = "vv" := rfl
  have two : vs 2 = "vvv" := rfl
  rw [actions', actions]
  simp [Action.rename, fixed, one, two]

end Program

end PointerTrace
