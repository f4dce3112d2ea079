import Mathlib.Data.List.Forall2
import Mathlib.Data.List.Induction
import Mathlib.Data.List.Nodup
import PointerTrace.Report.Sarif

/- The interchange document of a list of verdicts, as a consumer finds it (`toolRun?`): the rules of the
   tool, the results, and two counts. The results are built from the violations and the rules from the
   rules that they break, each of these listed once. Going through the verdicts one by one, a sound one
   adds nothing, a violation adds its rule unless the rule is listed already (`brokenRules_append`), so
   that the rules stand in the order in which they are first broken (`brokenRules_ordered`), and every
   result refers to exactly one of them (`sarif_consistent`). -/
namespace PointerTrace.Report

/-! ## Rules -/

/-- Whether a verdict is a violation of a rule. -/
def breaks (rule : Rule) (r : Verdict) : Bool := (violation? r).any (·.rule = rule)

/-- The index of the first violation of a rule among verdicts. -/
def firstBroken (l : List Verdict) (rule : Rule) : Nat := l.findIdx (breaks rule)

theorem violation?_eq_some {r : Verdict} {v : Violation} :
    violation? r = some v ↔ r = .violation v := by
  cases r <;> simp [violation?]

theorem mem_brokenRules {l : List Verdict} {rule : Rule} :
    rule ∈ brokenRules l ↔ ∃ v, Verdict.violation v ∈ l ∧ v.rule = rule := by
  simp [brokenRules, violations, List.mem_eraseDups, violation?_eq_some]

/-- One more verdict adds the rule that it breaks, unless that is listed already. -/
theorem brokenRules_append (l : List Verdict) (r : Verdict) : brokenRules (l ++ [r]) =
    match violation? r with
    | none => brokenRules l
    | some v => if v.rule ∈ brokenRules l then brokenRules l else brokenRules l ++ [v.rule] := by
  unfold brokenRules violations
  rw [List.filterMap_append, List.map_append, List.eraseDups_append]
  generalize (l.filterMap violation?).map Violation.rule = broken
  cases same : violation? r with
  | none => simp [same, List.removeAll]
  | some v =>
    by_cases listed : v.rule ∈ broken
    · simp [same, List.removeAll, List.mem_eraseDups, listed]
    · simp [same, List.removeAll, List.mem_eraseDups, listed, List.eraseDups_cons]

theorem firstBroken_lt {l : List Verdict} {rule : Rule} :
    firstBroken l rule < l.length ↔ rule ∈ brokenRules l := by
  rw [firstBroken, List.findIdx_lt_length, mem_brokenRules]
  constructor
  · rintro ⟨r, inside, broken⟩
    cases r with
    | sound => simp [breaks, violation?] at broken
    | violation v => exact ⟨v, inside, by simpa [breaks, violation?] using broken⟩
  · rintro ⟨v, inside, same⟩
    exact ⟨.violation v, inside, by simpa [breaks, violation?] using same⟩

theorem firstBroken_append {l : List Verdict} {rule : Rule} (listed : rule ∈ brokenRules l)
    (r : Verdict) : firstBroken (l ++ [r]) rule = firstBroken l rule := by
  have found := firstBroken_lt.mpr listed
  unfold firstBroken at found ⊢
  rw [List.findIdx_append, if_pos found]

/-- The rules are listed in the order in which they are first broken. -/
theorem brokenRules_ordered (l : List Verdict) :
    (brokenRules l).Pairwise fun a b => firstBroken l a < firstBroken l b := by
  induction l using List.reverseRecOn with
  | nil => simp [brokenRules, violations]
  | append_singleton l r ih =>
    have kept : (brokenRules l).Pairwise fun a b =>
        firstBroken (l ++ [r]) a < firstBroken (l ++ [r]) b := by
      refine ih.imp_of_mem ?_
      intro a b listed listed' earlier
      rwa [firstBroken_append listed, firstBroken_append listed']
    rw [brokenRules_append]
    split
    · exact kept
    · next v same =>
      split
      · exact kept
      · next unlisted =>
        rw [List.pairwise_append]
        refine ⟨kept, by simp, ?_⟩
        intro a listed b last
        rw [List.mem_singleton] at last
        subst last
        -- the rule that is new was not broken by any of the verdicts before
        have late : l.length ≤ firstBroken (l ++ [r]) v.rule := by
          have absent : ¬ firstBroken l v.rule < l.length := by rwa [firstBroken_lt]
          unfold firstBroken at absent ⊢
          rw [List.findIdx_append, if_neg absent]
          omega
        have early := firstBroken_lt.mpr listed
        rw [firstBroken_append listed]
        omega

theorem brokenRules_nodup (l : List Verdict) : (brokenRules l).Nodup :=
  (brokenRules_ordered l).imp fun earlier same => by simp [same] at earlier

theorem ruleId_injective : Function.Injective ruleId := by
  intro a b same
  cases a <;> cases b <;> simp_all [ruleId]

/-! ## The document -/

/-- What a consumer of an interchange document finds in its only run. -/
structure ToolRun where
  rules : List Json
  results : List Json
  traces : Json
  violations : Json

/-- The run of an interchange document. -/
def toolRun? (document : Json) : Option ToolRun := do
  let .array [run] ← document.field? "runs" | none
  let driver ← (← run.field? "tool").field? "driver"
  let .array rules ← driver.field? "rules" | none
  let .array results ← run.field? "results" | none
  let .array [invocation] ← run.field? "invocations" | none
  let counts ← invocation.field? "properties"
  return ⟨rules, results, ← counts.field? "tracesChecked", ← counts.field? "violations"⟩

theorem toolRun?_sarifDocument (l : List Verdict) (version : String) :
    toolRun? (sarifDocument l version) = some ⟨(brokenRules l).map ruleObject,
      (violations l).map resultObject, .ofNat l.length, .ofNat ((violations l).map resultObject).length⟩ :=
  rfl

/-- A rule of the tool is listed with its identifier and its name. -/
def Lists (rule : Rule) (j : Json) : Prop :=
  j.field? "id" = some (.text (ruleId rule)) ∧ j.field? "name" = some (.text rule.name)

/-- The rule that a result refers to is listed exactly once, and is the one that the violation breaks. -/
def RefersTo (rules : List Json) (v : Violation) (result : Json) : Prop :=
  ∃ id before rule after, result.field? "ruleId" = some id ∧ rules = before ++ rule :: after ∧
    rule.field? "id" = some id ∧ rule.field? "name" = some (.text v.rule.name) ∧
    ∀ other ∈ before ++ after, other.field? "id" ≠ some id

theorem lists_ruleObject (rule : Rule) : Lists rule (ruleObject rule) := ⟨rfl, rfl⟩

theorem refersTo_resultObject {l : List Verdict} {v : Violation} (inside : .violation v ∈ l) :
    RefersTo ((brokenRules l).map ruleObject) v (resultObject v) := by
  have listed : v.rule ∈ brokenRules l := mem_brokenRules.mpr ⟨v, inside, rfl⟩
  obtain ⟨before, after, split⟩ := List.append_of_mem listed
  have once := brokenRules_nodup l
  refine ⟨.text (ruleId v.rule), before.map ruleObject, ruleObject v.rule, after.map ruleObject, rfl,
    by simp [split], rfl, rfl, ?_⟩
  intro other elsewhere same
  rw [← List.map_append, List.mem_map] at elsewhere
  obtain ⟨rule, there, rfl⟩ := elsewhere
  have again : rule = v.rule := by
    apply ruleId_injective
    simpa [Json.field?, ruleObject] using same
  rw [split, List.nodup_middle] at once
  exact (List.nodup_cons.mp once).1 (again ▸ there)

/-- The interchange document has one result for each violation, in the order of the verdicts, and none
    for a program that is sound. The rules of the tool are those that are broken, each of them once, in
    the order of their first violations. Every result refers to exactly one of these rules, the one that
    its violation breaks, and the two counts are those of the verdicts and of the results. -/
theorem sarif_consistent (l : List Verdict) (version : String) : ∃ document run,
    sarif l version = document.indented ∧ toolRun? document = some run ∧
    List.Forall₂ (fun v result => result = resultObject v ∧ RefersTo run.rules v result)
      (l.filterMap violation?) run.results ∧
    (∃ listed, List.Forall₂ Lists listed run.rules ∧ listed.Nodup ∧
      (∀ rule, rule ∈ listed ↔ ∃ v, Verdict.violation v ∈ l ∧ v.rule = rule) ∧
      listed.Pairwise fun a b => firstBroken l a < firstBroken l b) ∧
    run.traces = .ofNat l.length ∧ run.violations = .ofNat run.results.length := by
  refine ⟨_, _, rfl, toolRun?_sarifDocument l version, ?_, ⟨brokenRules l, ?_, brokenRules_nodup l,
    fun rule => mem_brokenRules, brokenRules_ordered l⟩, rfl, rfl⟩
  · show List.Forall₂ _ (violations l) ((violations l).map resultObject)
    rw [List.forall₂_map_right_iff, List.forall₂_same]
    intro v inside
    obtain ⟨r, given, same⟩ := List.mem_filterMap.mp inside
    rw [violation?_eq_some] at same
    exact ⟨rfl, refersTo_resultObject (same ▸ given)⟩
  · rw [List.forall₂_map_right_iff, List.forall₂_same]
    exact fun rule _ => lists_ruleObject rule

end PointerTrace.Report
