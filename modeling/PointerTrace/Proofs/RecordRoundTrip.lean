import PointerTrace.Document.Yaml.Standard
import PointerTrace.Program.Document
import PointerTrace.Proofs.Extension

/- Programs that are written as records and read again. What is lost are the places of the operations
   and an empty name that a read was to bind (`Operation.recorded`). Neither is among what the pass over
   the names and the machine look at, so that the program that is read goes through the same states
   (`Program.state?_recorded`) and is judged in the same way (`Program.check_recorded`). What is said of
   texts of records holds of any reader and writer of documents, where the reader undoes the writer. -/
namespace PointerTrace

open Document (Value)

/-! ## Documents as they are read -/

namespace Json

mutual

/-- What a document is read as. -/
def value : Json → Value
  | .null => .null
  | .bool b => .bool b
  | .int n => .int n
  | .float x => .float x
  | .text s => .text s
  | .array items => .list (values items)
  | .object members => .mapping (pairs members)

/-- What the items of an array are read as. -/
def values : List Json → List Value
  | [] => []
  | j :: rest => value j :: values rest

/-- What the members of an object are read as. -/
def pairs : List (String × Json) → List (Value × Value)
  | [] => []
  | (name, j) :: rest => (.text name, value j) :: pairs rest

end

mutual

/-- Whether a document is read as a value, by comparison. Floating-point numbers are never taken for
    equal. -/
def isValue : Json → Value → Bool
  | .null, .null => true
  | .bool a, .bool b => a = b
  | .int m, .int n => m = n
  | .text s, .text t => s = t
  | .array items, .list l => areValues items l
  | .object members, .mapping l => arePairs members l
  | _, _ => false

/-- Whether items are read as values. -/
def areValues : List Json → List Value → Bool
  | [], [] => true
  | j :: rest, v :: l => isValue j v && areValues rest l
  | _, _ => false

/-- Whether members are read as pairs. -/
def arePairs : List (String × Json) → List (Value × Value) → Bool
  | [], [] => true
  | (name, j) :: rest, (.text key, v) :: l => name = key && isValue j v && arePairs rest l
  | _, _ => false

end

mutual

theorem eq_of_isValue : ∀ (j : Json) (v : Value), isValue j v = true → v = value j
  | .null, .null, _ => rfl
  | .bool a, .bool b, h => by rw [value, of_decide_eq_true h]
  | .int m, .int n, h => by rw [value, of_decide_eq_true h]
  | .text s, .text t, h => by rw [value, of_decide_eq_true h]
  | .array items, .list l, h => by rw [value, eq_of_areValues items l h]
  | .object members, .mapping l, h => by rw [value, eq_of_arePairs members l h]

theorem eq_of_areValues : ∀ (items : List Json) (l : List Value),
    areValues items l = true → l = values items
  | [], [], _ => rfl
  | j :: rest, v :: l, h => by
    rw [areValues, Bool.and_eq_true] at h
    rw [values, eq_of_isValue j v h.1, eq_of_areValues rest l h.2]

theorem eq_of_arePairs : ∀ (members : List (String × Json)) (l : List (Value × Value)),
    arePairs members l = true → l = pairs members
  | [], [], _ => rfl
  | (name, j) :: rest, (.text key, v) :: l, h => by
    rw [arePairs, Bool.and_eq_true, Bool.and_eq_true, decide_eq_true_eq] at h
    obtain ⟨⟨rfl, first⟩, more⟩ := h
    rw [pairs, eq_of_isValue j v first, eq_of_arePairs rest l more]

end

theorem values_eq (items : List Json) : values items = items.map value := by
  induction items with
  | nil => rfl
  | cons j rest ih => rw [values, ih, List.map_cons]

end Json

/-! ## Operations -/

theorem nonempty_nonempty (name : Option String) : nonempty (nonempty name) = nonempty name := by
  simp [nonempty]

namespace Action

/-- The operation without an empty name that a read was to bind. -/
def plain : Action → Action
  | .read source binding => .read source (nonempty binding)
  | a => a

theorem plain_cases (a : Action) :
    a.plain = a ∨ ∃ source binding, a = .read source binding ∧
      a.plain = .read source (nonempty binding) := by
  cases a with
  | read source binding => exact .inr ⟨source, binding, rfl, rfl⟩
  | _ => exact .inl rfl

theorem result?_plain (a : Action) : a.plain.result? = a.result? := by
  rcases plain_cases a with same | ⟨source, binding, rfl, same⟩ <;> rw [same]
  rfl

theorem text_plain (a : Action) : a.plain.text = a.text := by
  rcases plain_cases a with same | ⟨source, binding, rfl, same⟩
  · rw [same]
  · rw [same, text, text, nonempty_nonempty]

theorem toRecord_plain (a : Action) : a.plain.toRecord = a.toRecord := by
  rcases plain_cases a with same | ⟨source, binding, rfl, same⟩
  · rw [same]
  · rw [same, toRecord, toRecord, nonempty_nonempty]

end Action

/-- The operation as its record gives it back. -/
def Operation.recorded (op : Operation) : Operation := ⟨op.action.plain, none⟩

namespace Record

/-- A record gives back the operation that it was written for. -/
theorem read_toRecord (index : Nat) (a : Action) :
    read index (Json.object a.toRecord).value = .ok a.plain := by
  cases a with
  | read source binding =>
    show read index (.mapping (Json.pairs ([("op", .text "read"), ("source", .text source)] ++ _))) =
      .ok (.read source (nonempty binding))
    -- the name is written when it is not empty
    generalize nonempty binding = written
    cases written <;> rfl
  | borrow target kind result => cases kind <;> rfl
  | reborrow source kind result => cases kind <;> rfl
  | _ => rfl

theorem readFrom_toRecord (index : Nat) (l : List Action) :
    readFrom index (l.map fun a => (Json.object a.toRecord).value) = .ok (l.map Action.plain) := by
  induction l generalizing index with
  | nil => rfl
  | cons a l ih =>
    rw [List.map_cons, readFrom, read_toRecord]
    show (readFrom (index + 1) _ >>= _) = _
    rw [ih]
    rfl

end Record

/-! ## Programs -/

namespace Program

/-- The program as its records give it back under a name. -/
def recorded (p : Program) (name : String) : Program :=
  ⟨p.operations.map Operation.recorded, name, none, 0⟩

variable (p : Program) (name : String)

theorem ofRecords_toRecords :
    ofRecords (p.toRecords.map Json.value) name = .ok (p.recorded name) := by
  have each : p.toRecords.map Json.value =
      p.actions.map fun a => (Json.object a.toRecord).value := by
    rw [toRecords, List.map_map]
    rfl
  rw [ofRecords, each, Record.readFrom_toRecord]
  simp [Except.map, recorded, actions, Operation.recorded]

variable {p} in
theorem getElem?_recorded {n : Nat} {op : Operation} (here : p.operations[n]? = some op) :
    (p.recorded name).operations[n]? = some op.recorded := by
  show (p.operations.map Operation.recorded)[n]? = _
  rw [List.getElem?_map, here]
  rfl

theorem toRecords_recorded : (p.recorded name).toRecords = p.toRecords := by
  simp [toRecords, actions, recorded, Operation.recorded, Action.toRecord_plain]

end Program

/-! ## Names -/

/-- A problem without its place. -/
def Issue.unplaced (i : Issue) : Issue := { i with location := none }

namespace Scope

variable (s : Scope) (checkBindings : Bool) (index : Nat)

theorem after_plain (a : Action) : s.after a.plain = s.after a := by
  rcases a.plain_cases with same | ⟨source, binding, rfl, same⟩ <;> rw [same]
  rfl

theorem issues_recorded (op : Operation) : s.issues checkBindings index op.recorded =
    (s.issues checkBindings index op).map Issue.unplaced := by
  obtain ⟨a, place⟩ := op
  simp only [issues, Operation.recorded, List.map_map]
  rcases a.plain_cases with same | ⟨source, binding, rfl, same⟩ <;> rw [same] <;> rfl

theorem issuesFrom_recorded (l : List Operation) :
    issuesFrom checkBindings s index (l.map Operation.recorded) =
      (issuesFrom checkBindings s index l).map Issue.unplaced := by
  induction l generalizing s index with
  | nil => rfl
  | cons op l ih =>
    have after : s.after op.recorded.action = s.after op.action := s.after_plain op.action
    rw [List.map_cons, issuesFrom, issuesFrom, issues_recorded, after, ih, List.map_append]

end Scope

/-! ## Changes and faults -/

namespace Machine

variable {m m' : Machine} {act : Action}

theorem Change.plain (h : m.Change act m') : m.Change act.plain m' := by
  rcases act.plain_cases with same | ⟨source, binding, rfl, same⟩
  · rwa [same]
  · rw [same]
    -- the change of a read does not depend on what it binds
    cases h with
    | derive derives => cases derives
    | untagged derives => cases derives
    | read resolved found tagged granted => exact .read resolved found tagged granted
    | write writes => cases writes

theorem Faults.plain {fault : AccessFault} (h : m.Faults act fault) : m.Faults act.plain fault := by
  rcases act.plain_cases with same | ⟨source, binding, rfl, same⟩
  · rwa [same]
  · rw [same]
    cases h with
    | derive derives => cases derives
    | access accesses found refused => exact .access accesses found refused

end Machine

/-! ## Runs and verdicts -/

/-- The violation as it is found in the program that the records give back under a name. -/
def Violation.recorded (name : String) (v : Violation) : Violation :=
  ⟨name, { v.fault with operation := v.fault.operation.recorded }⟩

/-- The verdict on the program that the records give back under a name. -/
def Verdict.recorded (name : String) : Verdict → Verdict
  | .sound _ steps values reads => .sound name steps values reads
  | .violation v => .violation (v.recorded name)

namespace Program

variable {p : Program} {o : CheckOptions}

theorem WellFormed.recorded {checkBindings : Bool} (clean : p.WellFormed checkBindings)
    (name : String) : (p.recorded name).WellFormed checkBindings := by
  show Scope.issuesFrom checkBindings .empty 0 (p.operations.map Operation.recorded) = []
  rw [Scope.issuesFrom_recorded, List.map_eq_nil_iff]
  exact clean

/-- The program that the records give back goes through the same states. -/
theorem state?_recorded (clean : p.WellFormed o.checkBindings) (name : String) {n : Nat}
    {m : Machine} (h : (p.run o).state? n = some m) :
    ∃ trail, ((p.recorded name).run o).state? n = some (m.within (p.recorded name) false trail) := by
  induction n generalizing m with
  | zero =>
    rw [(Run.state?_zero h).2, Run.state?_start (clean.recorded name)]
    exact ⟨[], rfl⟩
  | succ n ih =>
    obtain ⟨before, op, after, found, here, change, rfl⟩ := Run.state?_succ h
    obtain ⟨trail, found'⟩ := ih found
    -- the place of an operation is noted in the trail only, and a check keeps none
    have change' := change.plain.within (p.recorded name) false trail
    exact ⟨_, Run.state?_of_change found' (getElem?_recorded name here) change'⟩

/-- A well-formed program and the one that its records give back are judged in the same way. -/
theorem check_recorded (clean : p.WellFormed o.checkBindings) (name : String) :
    (p.recorded name).check o = (p.check o).map (Verdict.recorded name) := by
  have length : (p.recorded name).length = p.length := List.length_map ..
  rcases check_cases clean with ⟨last, done⟩ | ⟨n, m, op, fault, found, here, faults⟩
  · obtain ⟨trail, done'⟩ := state?_recorded clean name done
    rw [← length] at done'
    rw [check_of_done done, check_of_done done', length]
    rfl
  · obtain ⟨trail, found'⟩ := state?_recorded clean name found
    have here' := getElem?_recorded name here
    have faults' := faults.plain.within (p.recorded name) false trail
    rw [check_of_faults found here faults, check_of_faults found' here' faults']
    rfl

/-! ## Texts of records -/

/-- A text that is read as the document of a program gives its name and its records. -/
theorem readRecords_of_document [Document.Yaml.Library] {text : String}
    (read : readDocument text = .ok (Json.object p.toDocument).value) (given : String) :
    readRecords text given = .ok (p.recorded p.name) := by
  rw [readRecords, read]
  show ofRecords (Json.values p.toRecords) p.name = _
  rw [Json.values_eq, ofRecords_toRecords]

/-- Records give back the program that they were written for, but for the places of its operations
    and empty names that reads were to bind, and what is given back has the same records and is
    judged in the same way. Whatever records a program was read from, its own records stay the same
    from then on. Whatever library reads and writes texts, that of a program is read as its name and its
    records where reading undoes writing. -/
theorem records_roundTrip [Document.Yaml.Library] (p : Program) (name : String) :
    (∃ q, ofRecords (p.toRecords.map Json.value) name = .ok q ∧ q.name = name ∧
      q.operations = p.operations.map Operation.recorded ∧ q.toRecords = p.toRecords ∧
      (∀ o : CheckOptions, p.WellFormed o.checkBindings →
        q.check o = (p.check o).map (Verdict.recorded name)) ∧
      ∀ op ∈ p.operations, op.recorded.text = op.text) ∧
    (∀ records given, ofRecords records given = .ok p →
      (ofRecords (p.toRecords.map Json.value) name).map toRecords = .ok p.toRecords) ∧
    (readDocument p.writeRecords = .ok (Json.object p.toDocument).value →
      ∃ q, readRecords p.writeRecords name = .ok q ∧ q.name = p.name ∧
        q.toRecords = p.toRecords) := by
  have same := p.toRecords_recorded name
  refine ⟨⟨p.recorded name, p.ofRecords_toRecords name, rfl, rfl, same, ?_, ?_⟩, ?_, ?_⟩
  · intro o clean
    exact check_recorded clean name
  · intro op _
    exact op.action.text_plain
  · intro records given _
    rw [ofRecords_toRecords]
    exact congrArg Except.ok same
  · intro read
    exact ⟨_, readRecords_of_document read name, rfl, p.toRecords_recorded p.name⟩

/-- A read that is to bind an empty name. -/
def silentRead : Program :=
  ⟨[⟨.declare "x" 5 false false, none⟩, ⟨.read "x" (some ""), some ⟨2, 1, "t"⟩⟩], "t", none, 0⟩

theorem records_roundTrip_silentRead :
    (∃ q, ofRecords (silentRead.toRecords.map Json.value) "u" = .ok q ∧
      q.operations = [⟨.declare "x" 5 false false, none⟩, ⟨.read "x" none, none⟩] ∧
      q.check {} = .ok (.sound "u" 2 [("x", 5)] [⟨1, "x", "x", 5⟩])) ∧
    ∃ q, readRecords silentRead.writeRecords "u" = .ok q ∧ q.name = "t" ∧
      q.toRecords = silentRead.toRecords := by
  have read : readDocument silentRead.writeRecords =
      .ok (Json.object silentRead.toDocument).value := by
    have told : (readDocument silentRead.writeRecords).toOption.any
        (Json.object silentRead.toDocument).isValue = true := by
      decide +kernel
    cases outcome : readDocument silentRead.writeRecords with
    | error e =>
      rw [outcome] at told
      cases told
    | ok v =>
      rw [outcome] at told
      rw [Json.eq_of_isValue _ v told]
  obtain ⟨⟨q, records, -, operations, -, judged, -⟩, -, texts⟩ := records_roundTrip silentRead "u"
  exact ⟨⟨q, records, operations, judged {} rfl⟩, texts read⟩

end Program

end PointerTrace
