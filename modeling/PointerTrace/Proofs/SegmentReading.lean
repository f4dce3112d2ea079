import PointerTrace.Proofs.Readers

/- What the grammar allows is read. Where the tokens of a part stand before something that the part
   does not go on with, its reader takes them whole (`readStatement_eq` and the lemmas before it); behind
   what leads to a number, one of too many digits breaks it off (`readStatement_of_leads`). With what
   the readers take, this makes reading a segment the same as deriving it from the grammar
   (`readSegment_eq_ok`), and says when it is broken off (`readSegment_eq_unreadable`). -/
namespace PointerTrace.Trace

/-! ## What is taken whole -/

section Taken

variable {used rest : List Token} {l : List Symbol}

theorem symbols_eq_cons {s : Symbol} : used.map Token.symbol = s :: l ↔
    ∃ place more, used = ⟨s, place⟩ :: more ∧ more.map Token.symbol = l := by
  constructor
  · intro same
    obtain ⟨⟨symbol, place⟩, more, rfl, rfl, rfl⟩ := List.map_eq_cons_iff.mp same
    exact ⟨place, more, rfl, rfl⟩
  · rintro ⟨place, more, rfl, rfl⟩
    rfl

theorem symbols_eq_single {s : Symbol} :
    used.map Token.symbol = [s] ↔ ∃ place, used = [⟨s, place⟩] := by
  rw [symbols_eq_cons]
  constructor
  · rintro ⟨place, more, rfl, none⟩
    exact ⟨place, by rw [List.map_eq_nil_iff.mp none]⟩
  · rintro ⟨place, rfl⟩
    exact ⟨place, [], rfl, rfl⟩

/-- Nothing follows that a pointer expression may go on with. -/
inductive Closed : List Token → Prop
  | nil : Closed []
  | paren (place : Location) (rest : List Token) : Closed (⟨.rightParen, place⟩ :: rest)

variable (stop : Token)

theorem readNumber_eq (rest : List Token) (short : Short used) {digits : String}
    (same : used.map Token.symbol = [.number digits]) :
    readNumber stop (used ++ rest) = .ok (Decimal.value digits.toList, rest) := by
  obtain ⟨place, rfl⟩ := symbols_eq_single.mp same
  have few : ¬ Decimal.literalLimit < digits.toList.length :=
    Nat.not_lt.mpr (String.length_toList ▸ short _ List.mem_cons_self digits rfl)
  simp only [List.cons_append, List.nil_append, readNumber, Decimal.literal, if_neg few]

theorem readInt_eq (rest : List Token) (short : Short used) {n : Int} (int : IsInteger l n)
    (same : used.map Token.symbol = l) : readInt stop (used ++ rest) = .ok (n, rest) := by
  cases int with
  | plain digits =>
    have number := readNumber_eq stop rest short same
    obtain ⟨place, rfl⟩ := symbols_eq_single.mp same
    simp only [readInt, List.cons_append, List.nil_append] at number ⊢
    rw [number]
    rfl
  | negative digits =>
    obtain ⟨place, more, rfl, behind⟩ := symbols_eq_cons.mp same
    have number := readNumber_eq stop rest short.tail behind
    simp only [readInt, List.cons_append]
    rw [number]
    rfl

theorem readCast_eq {cast : Cast} (spelled : IsCast l cast) (same : used.map Token.symbol = l)
    (other : skipPointee rest = rest) : readCast stop (used ++ rest) = .ok (cast, rest) := by
  cases spelled with
  | pointer kind pointee =>
    obtain ⟨place, more, rfl, behind⟩ := symbols_eq_cons.mp same
    obtain ⟨place', named, rfl, last⟩ := symbols_eq_cons.mp behind
    have skipped : skipPointee (named ++ rest) = rest := by
      cases pointee with
      | none => rw [List.map_eq_nil_iff.mp last, List.nil_append, other]
      | some name =>
        obtain ⟨place, rfl⟩ := symbols_eq_single.mp last
        rfl
    cases kind <;> simp only [List.cons_append, kindWord, readCast, skipped]
  | integer known =>
    obtain ⟨place, rfl⟩ := symbols_eq_single.mp same
    simp only [List.cons_append, List.nil_append, readCast, readName]
    exact if_pos known

/-- After casts stands what stood after them, or another cast. -/
theorem skipPointee_casts {casts : List Cast} (spelled : IsCasts l casts)
    (same : used.map Token.symbol = l) (closed : Closed rest) :
    skipPointee (used ++ rest) = used ++ rest := by
  cases spelled with
  | nil =>
    rw [List.map_eq_nil_iff.mp same, List.nil_append]
    cases closed <;> rfl
  | cons first more =>
    obtain ⟨place, used, rfl, -⟩ := symbols_eq_cons.mp same
    rfl

theorem readCasts_eq {casts : List Cast} (spelled : IsCasts l casts)
    (same : used.map Token.symbol = l) (closed : Closed rest) {links : Nat}
    (enough : used.length ≤ links) : readCasts stop links (used ++ rest) = .ok (casts, rest) := by
  induction spelled generalizing used links with
  | nil =>
    rw [List.map_eq_nil_iff.mp same, List.nil_append]
    cases links <;> cases closed <;> rfl
  | cons first more ih =>
    obtain ⟨place, both, rfl, behind⟩ := symbols_eq_cons.mp same
    obtain ⟨u, v, rfl, own, later⟩ := List.map_eq_append_iff.mp behind
    obtain ⟨links, rfl⟩ := Nat.exists_eq_add_of_le' (Nat.le_trans (Nat.le_add_left 1 _) enough)
    have fewer : v.length ≤ links := by
      simp only [List.length_cons, List.length_append] at enough
      omega
    have one := readCast_eq stop first own (skipPointee_casts more later closed)
    rw [List.cons_append, List.append_assoc, readCasts, one]
    show readCasts stop links (v ++ rest) >>= _ = _
    rw [ih later fewer]
    rfl

theorem readPrimary_eq {primary : Primary} (spelled : IsPrimary l primary)
    (same : used.map Token.symbol = l) : readPrimary stop (used ++ rest) = .ok (primary, rest) := by
  cases spelled with
  | shared target =>
    obtain ⟨place, more, rfl, behind⟩ := symbols_eq_cons.mp same
    obtain ⟨place', rfl⟩ := symbols_eq_single.mp behind
    rfl
  | unique target =>
    obtain ⟨place, more, rfl, behind⟩ := symbols_eq_cons.mp same
    obtain ⟨place', named, rfl, last⟩ := symbols_eq_cons.mp behind
    obtain ⟨place'', rfl⟩ := symbols_eq_single.mp last
    rfl
  | name name =>
    obtain ⟨place, rfl⟩ := symbols_eq_single.mp same
    rfl

theorem readPointer_eq {e : PointerExpr} (spelled : IsPointer l e)
    (same : used.map Token.symbol = l) (closed : Closed rest) :
    readPointer stop (used ++ rest) = .ok (e, rest) := by
  cases spelled with
  | mk start more =>
    obtain ⟨u, v, rfl, own, later⟩ := List.map_eq_append_iff.mp same
    have enough : v.length ≤ (v ++ rest).length := by simp
    rw [List.append_assoc, readPointer, readPrimary_eq stop start own]
    show readCasts stop (v ++ rest).length (v ++ rest) >>= _ = _
    rw [readCasts_eq stop more later closed enough]
    rfl

/-- Neither a colon pair nor a star stands where a pointer expression is told from the rest. -/
theorem readInitializer_of_pointer {e : PointerExpr} (spelled : IsPointer l e)
    (same : used.map Token.symbol = l) : readInitializer stop used =
      (readPointer stop used >>= fun taken => pure (.pointer taken.1, taken.2)) := by
  cases spelled with
  | mk start more =>
    obtain ⟨u, v, rfl, own, later⟩ := List.map_eq_append_iff.mp same
    cases start with
    | shared target =>
      obtain ⟨place, named, rfl, last⟩ := symbols_eq_cons.mp own
      obtain ⟨place', rfl⟩ := symbols_eq_single.mp last
      rfl
    | unique target =>
      obtain ⟨place, named, rfl, -⟩ := symbols_eq_cons.mp own
      rfl
    | name name =>
      obtain ⟨place, rfl⟩ := symbols_eq_single.mp own
      cases more with
      | nil =>
        rw [List.map_eq_nil_iff.mp later]
        rfl
      | cons first more =>
        obtain ⟨place', casts, rfl, -⟩ := symbols_eq_cons.mp later
        rfl

theorem readInitializer_eq (short : Short used) {init : Initializer}
    (spelled : IsInitializer l init) (same : used.map Token.symbol = l) :
    readInitializer stop used = .ok (init, []) := by
  cases spelled with
  | value int =>
    have number := readInt_eq stop [] short int same
    rw [List.append_nil] at number
    cases int <;> obtain ⟨place, more, rfl, -⟩ := symbols_eq_cons.mp same <;>
      exact congrArg (· >>= fun taken => pure (Initializer.value taken.1, taken.2)) number
  | @cell type known digits n int =>
    obtain ⟨place₁, more₁, rfl, behind₁⟩ := symbols_eq_cons.mp same
    obtain ⟨place₂, more₂, rfl, behind₂⟩ := symbols_eq_cons.mp behind₁
    obtain ⟨place₃, more₃, rfl, behind₃⟩ := symbols_eq_cons.mp behind₂
    obtain ⟨place₄, more₄, rfl, behind₄⟩ := symbols_eq_cons.mp behind₃
    obtain ⟨u, v, rfl, own, last⟩ := List.map_eq_append_iff.mp behind₄
    obtain ⟨place₅, rfl⟩ := symbols_eq_single.mp last
    have number := readInt_eq stop [⟨.rightParen, place₅⟩] short.tail.tail.tail.tail.left int own
    have called : readCell stop type place₁ (⟨.doubleColon, place₂⟩ :: ⟨.name "new", place₃⟩ ::
        ⟨.leftParen, place₄⟩ :: (u ++ [⟨.rightParen, place₅⟩])) = (readInt stop
          (u ++ [⟨.rightParen, place₅⟩]) >>= fun taken =>
            readSymbol stop .rightParen "')'" taken.2 >>= fun last =>
              pure (.cell taken.1, last.2)) := by
      unfold readCell
      rw [if_neg (not_not_intro known)]
      rfl
    show readCell stop type place₁ _ = _
    rw [called, number]
    rfl
  | deref source =>
    obtain ⟨place, more, rfl, behind⟩ := symbols_eq_cons.mp same
    obtain ⟨place', rfl⟩ := symbols_eq_single.mp behind
    rfl
  | pointer pointer =>
    have read := readPointer_eq stop pointer same .nil
    rw [List.append_nil] at read
    rw [readInitializer_of_pointer stop pointer same, read]
    rfl

theorem readAnnotation_eq (rest : List Token) {isCell : Bool} (spelled : IsAnnotation l isCell)
    (same : used.map Token.symbol = l) (place : Location) : readAnnotation stop
      (used ++ ⟨.assign, place⟩ :: rest) = .ok (isCell, ⟨.assign, place⟩ :: rest) := by
  cases spelled with
  | absent =>
    rw [List.map_eq_nil_iff.mp same]
    rfl
  | type type =>
    obtain ⟨place', named, rfl, last⟩ := symbols_eq_cons.mp same
    obtain ⟨place'', rfl⟩ := symbols_eq_single.mp last
    rfl

theorem readBinding_eq (short : Short used) (isMutable : Bool) {name : String} {k : List Symbol}
    {isCell : Bool} {init : Initializer} (typed : IsAnnotation k isCell)
    (bound : IsInitializer l init)
    (same : used.map Token.symbol = .name name :: (k ++ .assign :: l)) :
    readBinding stop isMutable used = .ok (.binding isMutable name isCell init, []) := by
  obtain ⟨place, more, rfl, behind⟩ := symbols_eq_cons.mp same
  obtain ⟨u, v, rfl, own, last⟩ := List.map_eq_append_iff.mp behind
  obtain ⟨place', w, rfl, later⟩ := symbols_eq_cons.mp last
  have annotated := readAnnotation_eq stop w typed own place'
  have initial := readInitializer_eq stop short.tail.right.tail bound later
  show readAnnotation stop (u ++ ⟨.assign, place'⟩ :: w) >>= _ = _
  rw [annotated]
  show readInitializer stop w >>= _ = _
  rw [initial]
  rfl

/-- What the grammar takes for a statement is read as that statement. -/
theorem readStatement_eq (short : Short used) {statement : Statement}
    (spelled : IsStatement l statement) (same : used.map Token.symbol = l) :
    readStatement stop used = .ok (statement, []) := by
  cases spelled with
  | binding isMutable name typed bound =>
    obtain ⟨place, more, rfl, behind⟩ := symbols_eq_cons.mp same
    cases isMutable with
    | false =>
      have read := readBinding_eq stop short.tail false typed bound behind
      obtain ⟨place', more, rfl, -⟩ := symbols_eq_cons.mp behind
      exact read
    | true =>
      obtain ⟨place', more, rfl, behind'⟩ := symbols_eq_cons.mp behind
      exact readBinding_eq stop short.tail.tail true typed bound behind'
  | deref source =>
    obtain ⟨place, more, rfl, behind⟩ := symbols_eq_cons.mp same
    obtain ⟨place', rfl⟩ := symbols_eq_single.mp behind
    rfl
  | derefAssign source int =>
    obtain ⟨place, more, rfl, behind⟩ := symbols_eq_cons.mp same
    obtain ⟨place', more', rfl, behind'⟩ := symbols_eq_cons.mp behind
    obtain ⟨place'', u, rfl, own⟩ := symbols_eq_cons.mp behind'
    have number := readInt_eq stop [] short.tail.tail.tail int own
    rw [List.append_nil] at number
    show readInt stop u >>= _ = _
    rw [number]
    rfl
  | assign name int =>
    obtain ⟨place, more, rfl, behind⟩ := symbols_eq_cons.mp same
    obtain ⟨place', u, rfl, own⟩ := symbols_eq_cons.mp behind
    have number := readInt_eq stop [] short.tail.tail int own
    rw [List.append_nil] at number
    show readInt stop u >>= _ = _
    rw [number]
    rfl
  | call function argument =>
    obtain ⟨place, more, rfl, behind⟩ := symbols_eq_cons.mp same
    obtain ⟨place', both, rfl, behind'⟩ := symbols_eq_cons.mp behind
    obtain ⟨u, v, rfl, own, last⟩ := List.map_eq_append_iff.mp behind'
    obtain ⟨place'', rfl⟩ := symbols_eq_single.mp last
    have read := readPointer_eq stop argument own (.paren place'' [])
    show readPointer stop (u ++ [⟨.rightParen, place''⟩]) >>= _ = _
    rw [read]
    rfl

end Taken

/-! ## Numbers of too many digits -/

section Overlong

variable {lead : List Token} {l : List Symbol} {digits : String} (stop : Token) (place : Location)
  (rest : List Token) (long : Decimal.literalLimit < digits.length)
include long

theorem readNumber_of_long : readNumber stop (⟨.number digits, place⟩ :: rest) =
    .error (.unreadable (.tooManyDigits digits.length)) := by
  rw [readNumber, Decimal.literal, String.length_toList, if_pos long]

theorem readInt_of_leads (leads : LeadsInteger l) (same : lead.map Token.symbol = l) :
    readInt stop (lead ++ ⟨.number digits, place⟩ :: rest) =
      .error (.unreadable (.tooManyDigits digits.length)) := by
  have number := readNumber_of_long stop place rest long
  cases leads with
  | plain =>
    rw [List.map_eq_nil_iff.mp same]
    simp only [readInt, List.nil_append] at number ⊢
    rw [number]
    rfl
  | negative =>
    obtain ⟨place', rfl⟩ := symbols_eq_single.mp same
    simp only [readInt, List.cons_append, List.nil_append]
    rw [number]
    rfl

theorem readInitializer_of_leads (leads : LeadsInitializer l) (same : lead.map Token.symbol = l) :
    readInitializer stop (lead ++ ⟨.number digits, place⟩ :: rest) =
      .error (.unreadable (.tooManyDigits digits.length)) := by
  cases leads with
  | value int =>
    have number := readInt_of_leads stop place rest long int same
    have failed := congrArg (· >>= fun taken => pure (Initializer.value taken.1, taken.2)) number
    cases int with
    | plain =>
      rw [List.map_eq_nil_iff.mp same] at failed ⊢
      exact failed
    | negative =>
      obtain ⟨place', rfl⟩ := symbols_eq_single.mp same
      exact failed
  | @cell type known signs int =>
    obtain ⟨place₁, more₁, rfl, behind₁⟩ := symbols_eq_cons.mp same
    obtain ⟨place₂, more₂, rfl, behind₂⟩ := symbols_eq_cons.mp behind₁
    obtain ⟨place₃, more₃, rfl, behind₃⟩ := symbols_eq_cons.mp behind₂
    obtain ⟨place₄, more₄, rfl, behind₄⟩ := symbols_eq_cons.mp behind₃
    have number := readInt_of_leads stop place rest long int behind₄
    show readCell stop type place₁ _ = _
    unfold readCell
    rw [if_neg (not_not_intro known)]
    show (readInt stop (more₄ ++ ⟨.number digits, place⟩ :: rest) >>= _) = _
    rw [number]
    rfl

theorem readBinding_of_leads (isMutable : Bool) {name : String} {k : List Symbol} {isCell : Bool}
    (typed : IsAnnotation k isCell) (init : LeadsInitializer l)
    (same : lead.map Token.symbol = .name name :: (k ++ .assign :: l)) :
    readBinding stop isMutable (lead ++ ⟨.number digits, place⟩ :: rest) =
      .error (.unreadable (.tooManyDigits digits.length)) := by
  obtain ⟨place₁, more, rfl, behind⟩ := symbols_eq_cons.mp same
  obtain ⟨u, v, rfl, own, last⟩ := List.map_eq_append_iff.mp behind
  obtain ⟨place₂, w, rfl, later⟩ := symbols_eq_cons.mp last
  have annotated := readAnnotation_eq stop (w ++ ⟨.number digits, place⟩ :: rest) typed own place₂
  have initial := readInitializer_of_leads stop place rest long init later
  rw [List.cons_append, List.append_assoc]
  show readAnnotation stop (u ++ ⟨.assign, place₂⟩ :: (w ++ _)) >>= _ = _
  rw [annotated]
  show readInitializer stop (w ++ _) >>= _ = _
  rw [initial]
  rfl

/-- Behind what leads to a number, one of too many digits breaks reading off, whatever follows. -/
theorem readStatement_of_leads (leads : LeadsStatement l) (same : lead.map Token.symbol = l) :
    readStatement stop (lead ++ ⟨.number digits, place⟩ :: rest) =
      .error (.unreadable (.tooManyDigits digits.length)) := by
  cases leads with
  | binding isMutable name typed init =>
    obtain ⟨place₁, more, rfl, behind⟩ := symbols_eq_cons.mp same
    cases isMutable with
    | false =>
      have read := readBinding_of_leads stop place rest long false typed init behind
      obtain ⟨place₂, more, rfl, -⟩ := symbols_eq_cons.mp behind
      exact read
    | true =>
      obtain ⟨place₂, more, rfl, behind'⟩ := symbols_eq_cons.mp behind
      exact readBinding_of_leads stop place rest long true typed init behind'
  | derefAssign source int =>
    obtain ⟨place₁, more₁, rfl, behind₁⟩ := symbols_eq_cons.mp same
    obtain ⟨place₂, more₂, rfl, behind₂⟩ := symbols_eq_cons.mp behind₁
    obtain ⟨place₃, u, rfl, own⟩ := symbols_eq_cons.mp behind₂
    show readInt stop (u ++ _) >>= _ = _
    rw [readInt_of_leads stop place rest long int own]
    rfl
  | assign name int =>
    obtain ⟨place₁, more₁, rfl, behind₁⟩ := symbols_eq_cons.mp same
    obtain ⟨place₂, u, rfl, own⟩ := symbols_eq_cons.mp behind₁
    show readInt stop (u ++ _) >>= _ = _
    rw [readInt_of_leads stop place rest long int own]
    rfl

end Overlong

/-! ## Segments -/

/-- What a segment stands for: nothing when it is empty, else the statement that it spells, at the place
    of its first token. -/
inductive Spells : List Token → Option (Location × Statement) → Prop
  | empty : Spells [] none
  | statement {first : Token} {rest : List Token} {statement : Statement}
      (spelled : IsStatement ((first :: rest).map Token.symbol) statement) :
      Spells (first :: rest) (some (first.location, statement))

variable {s : Segment}

theorem spells_of_readSegment {found : Option (Location × Statement)}
    (read : readSegment s = .ok found) : Spells s.tokens found := by
  obtain ⟨tokens, stop⟩ := s
  cases tokens with
  | nil =>
    cases read
    exact .empty
  | cons first rest =>
    unfold readSegment at read
    dsimp only at read
    cases taken : readStatement stop (first :: rest) with
    | error e =>
      rw [taken] at read
      cases read
    | ok result =>
      obtain ⟨statement, left⟩ := result
      rw [taken] at read
      obtain ⟨used, split, spelled⟩ := (reads_statement stop _).took taken
      change (if left = [] then _ else _) = _ at read
      split at read
      · next all =>
        rw [all, List.append_nil] at split
        rw [← split] at spelled
        cases read
        exact .statement spelled
      · cases read

/-- A segment that cannot be read fails at a place, or at a number of too many digits behind what
    leads to a number. -/
theorem readSegment_eq_error {e : ReadFailure} (failed : readSegment s = .error e) :
    Fails s.tokens LeadsStatement e := by
  obtain ⟨tokens, stop⟩ := s
  cases tokens with
  | nil => cases failed
  | cons first rest =>
    unfold readSegment at failed
    dsimp only at failed
    cases taken : readStatement stop (first :: rest) with
    | error e' =>
      rw [taken] at failed
      cases failed
      exact (reads_statement stop _).failed taken
    | ok result =>
      obtain ⟨statement, left⟩ := result
      rw [taken] at failed
      change (if left = [] then _ else _) = _ at failed
      split at failed
      · cases failed
      · cases failed
        exact .fault _ _

/-- A number of too many digits stands where a statement has a number. -/
inductive Overlong (tokens : List Token) : Document.ScalarFault → Prop
  | number {lead rest : List Token} {digits : String} {place : Location} {more : List Symbol}
      {statement : Statement} (split : tokens = lead ++ ⟨.number digits, place⟩ :: rest)
      (spelled : IsStatement (lead.map Token.symbol ++ .number digits :: more) statement)
      (long : Decimal.literalLimit < digits.length) : Overlong tokens (.tooManyDigits digits.length)

/-- Reading a segment is broken off exactly at such a number. -/
theorem readSegment_eq_unreadable {fault : Document.ScalarFault} :
    readSegment s = .error (.unreadable fault) ↔ Overlong s.tokens fault := by
  constructor
  · intro failed
    cases readSegment_eq_error failed with
    | digits split leads long =>
      obtain ⟨more, statement, spelled⟩ := leads.continues _
      exact .number split spelled long
  · rintro ⟨split, spelled, long⟩
    next lead rest digits place more statement =>
    have leads := leadsStatement_iff.mpr ⟨digits, more, statement, spelled⟩
    obtain ⟨tokens, stop⟩ := s
    have broken := readStatement_of_leads stop place rest long leads rfl
    rw [← split] at broken
    cases tokens with
    | nil => simp at split
    | cons first tokens =>
      unfold readSegment
      dsimp only
      rw [broken]
      rfl

/-- A segment is read as what it stands for, when no number has too many digits. -/
theorem readSegment_eq_ok {found : Option (Location × Statement)} :
    readSegment s = .ok found ↔ Short s.tokens ∧ Spells s.tokens found := by
  constructor
  · intro read
    have spells := spells_of_readSegment read
    refine ⟨fun t inside digits number => Nat.not_lt.mp fun long => ?_, spells⟩
    -- the number stands in a statement, so that reading would have broken off there
    obtain ⟨symbol, place⟩ := t
    obtain ⟨lead, rest, split⟩ := List.append_of_mem inside
    obtain rfl : symbol = .number digits := number
    have broken : readSegment s = .error (.unreadable (.tooManyDigits digits.length)) := by
      refine readSegment_eq_unreadable.mpr ?_
      generalize s.tokens = tokens at spells split
      cases spells with
      | empty => simp at split
      | statement spelled =>
        rw [split, List.map_append, List.map_cons] at spelled
        exact .number split spelled long
    rw [read] at broken
    cases broken
  · rintro ⟨short, spells⟩
    obtain ⟨tokens, stop⟩ := s
    cases spells with
    | empty => rfl
    | statement spelled =>
      unfold readSegment
      dsimp only
      rw [readStatement_eq stop short spelled rfl]
      rfl

end PointerTrace.Trace
