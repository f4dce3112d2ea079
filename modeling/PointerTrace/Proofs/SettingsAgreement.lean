import PointerTrace.Proofs.SettingsReading

/- Settings files of both kinds. A text that is both JSON and YAML, with the same value, may stand in a
   file of either kind. As a mapping it gives the same settings from both, or is refused for the same
   fault; any other value is refused from a JSON file, and from a YAML file too, unless it counts as
   holding nothing (`Json.isHollow`): then the YAML file gives the defaults. So the two kinds agree
   exactly on documents that are not hollow (`Tree.settings_agree_iff`). -/
namespace PointerTrace

/-- Whether a document holds nothing, and not even as an object. -/
def Json.isHollow : Json → Bool
  | .null => true
  | .bool b => !b
  | .int n => n = 0
  | .float x => x == 0.0
  | .text s => s = ""
  | .array items => items.isEmpty
  | .object _ => false

namespace Files

open Document (Value)

/-! ## Agreement -/

/-- A failure that is due to the document in a file: it is no mapping, or a key has a value that is
    not admitted. -/
inductive SettingsFailure.OfDocument : SettingsFailure → Prop where
  | notMapping (path : String) : OfDocument (.notMapping path)
  | settings (fault : SettingsFault) : OfDocument (.settings fault)

/-- Two readings agree: they give the same settings, or both refuse the document. -/
inductive Agree : Except SettingsFailure Settings → Except SettingsFailure Settings → Prop where
  | settings (s : Settings) : Agree (.ok s) (.ok s)
  | refused {f g : SettingsFailure} (first : f.OfDocument) (second : g.OfDocument) :
      Agree (.error f) (.error g)

/-- The settings file that is asked for, or else the nearest one, has a path and holds a text. -/
structure Tree.Supplies (t : Tree) (asked : Option String) (start path : String)
    (text : List Char) : Prop where
  located : t.settingsPath? asked start = some path
  holds : t.readCharacters path = .ok text

theorem Agree.of_mapError (outcome : Except SettingsFault Settings) :
    Agree (outcome.mapError .settings) (outcome.mapError .settings) := by
  cases outcome with
  | ok s => exact .settings s
  | error fault => exact .refused (.settings fault) (.settings fault)

/-! ## Documents -/

variable {path : String} {text : List Char} {j : Json}

theorem settingsOf_object (path : String) (members : List (String × Json)) :
    settingsOf path (Json.object members).toValue =
      (Settings.ofPairs (Json.pairsOf members)).mapError .settings := rfl

theorem settingsOf_of_not_object (path : String) (other : ∀ members, j ≠ .object members) :
    settingsOf path j.toValue = .error (.notMapping path) := by
  cases j with
  | object members => exact absurd rfl (other members)
  | _ => rfl

/-- What holds nothing is hollow, or the empty object. -/
theorem isVacant_toValue : j.toValue.isVacant = true ↔ j.isHollow = true ∨ j = .object [] := by
  cases j with
  | array items => cases items <;> simp [Json.toValue, Json.valuesOf, Value.isVacant, Json.isHollow]
  | object members =>
    cases members <;> simp [Json.toValue, Json.pairsOf, Value.isVacant, Json.isHollow]
  | _ => simp [Json.toValue, Value.isVacant, Json.isHollow]

/-! ## Files -/

/-- The text of a JSON file is read as its document. -/
theorem readSettings_json [Document.Yaml.Library] (isJson : path.endsWith ".json" = true)
    (read : Json.read text = .ok j) : readSettings path text = settingsOf path j.toValue := by
  rw [readSettings, isJson]
  show (readJson text >>= settingsOf path) = _
  rw [readJson, read]
  rfl

/-- The text of a YAML file is read as its document, where one that is hollow counts as an empty
    mapping. -/
theorem readSettings_yaml [Document.Yaml.Library] (isYaml : path.endsWith ".json" = false)
    (read : Document.Yaml.Library.read text = .ok j.toValue) : readSettings path text =
      if j.isHollow then .ok {} else settingsOf path j.toValue := by
  have outcome : readSettings path text =
      settingsOf path (if j.toValue.isVacant then .mapping [] else j.toValue) := by
    rw [readSettings, isYaml]
    show (readYaml path text >>= settingsOf path) = _
    rw [readYaml, read]
    rfl
  rw [outcome]
  by_cases hollow : j.isHollow = true
  · rw [if_pos hollow, if_pos (isVacant_toValue.mpr (.inl hollow))]
    rfl
  · rw [if_neg hollow]
    split
    · next vacant =>
      rcases isVacant_toValue.mp vacant with contrary | rfl
      · exact absurd contrary hollow
      · rfl
    · rfl

namespace Tree

variable {t t' : Tree} {asked asked' : Option String} {start start' path' : String}

/-- The settings of a file are those in its text. -/
theorem Supplies.settings [Document.Yaml.Library] (supplies : t.Supplies asked start path text) :
    t.settings asked start = readSettings path text :=
  settings_of_text supplies.located supplies.holds

/-- A JSON file and a YAML file with a text that is the same document in both, each asked for or
    found, with any library that reads YAML: they give the same settings or both refuse the document,
    unless it is hollow. An object gives the same outcome from both. Anything else is refused from the
    JSON file; from the YAML file it is refused too, but if it is hollow the settings have their
    defaults. -/
theorem settings_agree_iff [Document.Yaml.Library] (json : Json.read text = .ok j)
    (yaml : Document.Yaml.Library.read text = .ok j.toValue)
    (first : t.Supplies asked start path text) (isJson : path.endsWith ".json" = true)
    (second : t'.Supplies asked' start' path' text) (isYaml : path'.endsWith ".json" = false) :
    (Agree (t.settings asked start) (t'.settings asked' start') ↔ j.isHollow = false) ∧
    (∀ members, j = .object members →
      t.settings asked start = (Settings.ofPairs (Json.pairsOf members)).mapError .settings ∧
      t'.settings asked' start' = t.settings asked start) ∧
    ((∀ members, j ≠ .object members) →
      t.settings asked start = .error (.notMapping path) ∧
      t'.settings asked' start' =
        if j.isHollow then .ok {} else .error (.notMapping path')) := by
  have fromJson := first.settings.trans (readSettings_json isJson json)
  have fromYaml := second.settings.trans (readSettings_yaml isYaml yaml)
  have object : ∀ members, j = .object members →
      t.settings asked start = (Settings.ofPairs (Json.pairsOf members)).mapError .settings ∧
      t'.settings asked' start' = t.settings asked start := by
    rintro members rfl
    rw [settingsOf_object] at fromJson fromYaml
    exact ⟨fromJson, fromYaml.trans fromJson.symm⟩
  have other : (∀ members, j ≠ .object members) →
      t.settings asked start = .error (.notMapping path) ∧
      t'.settings asked' start' = if j.isHollow then .ok {} else .error (.notMapping path') := by
    intro none
    rw [settingsOf_of_not_object _ none] at fromJson fromYaml
    exact ⟨fromJson, fromYaml⟩
  refine ⟨?_, object, other⟩
  by_cases isObject : ∃ members, j = .object members
  · obtain ⟨members, rfl⟩ := isObject
    obtain ⟨outcome, same⟩ := object members rfl
    rw [same, outcome]
    exact ⟨fun _ => rfl, fun _ => .of_mapError _⟩
  · obtain ⟨refused, outcome⟩ := other (not_exists.mp isObject)
    rw [refused, outcome]
    cases j.isHollow with
    | true => exact ⟨nofun, nofun⟩
    | false => exact ⟨fun _ => rfl, fun _ => .refused (.notMapping path) (.notMapping path')⟩

/-- A tree with a text in a settings file of each kind. -/
def twoKinds (text : String) : Tree :=
  ⟨["a"], [(["a", "c.json"], .file (text.toList.map Char.toNat)),
    (["a", ".borrowstackrc.yml"], .file (text.toList.map Char.toNat))]⟩

/-- Settings that are written in both kinds alike. -/
def quiet : String := "\x7b\"log_level\": \"ERROR\"\x7d"

theorem settings_agree_iff_quiet :
    Agree ((twoKinds quiet).settings (some "c.json") ".") ((twoKinds quiet).settings none ".") ∧
    (twoKinds quiet).settings none "." = .ok { logLevel := .error } := by
  let j : Json := .object [("log_level", .text "ERROR")]
  have told : (Document.Yaml.read quiet.toList).toOption.any j.isValue = true := by decide +kernel
  have yaml : Document.Yaml.read quiet.toList = .ok j.toValue := by
    cases outcome : Document.Yaml.read quiet.toList with
    | error e =>
      rw [outcome] at told
      cases told
    | ok v =>
      rw [outcome] at told
      rw [Json.eq_of_isValue _ v told]
      rfl
  have json : Json.read quiet.toList = .ok j := rfl
  have first : (twoKinds quiet).Supplies (some "c.json") "." "c.json" quiet.toList :=
    ⟨rfl, by decide +kernel⟩
  have second : (twoKinds quiet).Supplies none "." "/a/.borrowstackrc.yml" quiet.toList :=
    ⟨by decide +kernel, by decide +kernel⟩
  obtain ⟨agree, object, -⟩ := settings_agree_iff json yaml first (by decide +kernel) second
    (by decide +kernel)
  obtain ⟨outcome, same⟩ := object _ rfl
  exact ⟨agree.mpr rfl, same.trans (outcome.trans (by decide +kernel))⟩

/-- Not every text that is the same document in both is the same to both kinds of file: the empty list
    is refused from a JSON file, and gives the defaults from a YAML file. -/
theorem not_forall_settings_agree : ¬ ∀ (text : List Char) (j : Json),
    Json.read text = .ok j → Document.Yaml.read text = .ok j.toValue →
    ∀ (t : Tree) (path path' : String),
      path.endsWith ".json" = true → t.readCharacters path = .ok text →
      path'.endsWith ".yml" = true → t.readCharacters path' = .ok text →
      Agree (t.settings (some path) ".") (t.settings (some path') ".") := by
  intro agree
  let t := twoKinds "[]"
  have read : Json.read "[]".toList = .ok (.array []) := rfl
  have read' : Document.Yaml.read "[]".toList = .ok (Json.array []).toValue := rfl
  have first : t.Supplies (some "c.json") "." "c.json" "[]".toList := ⟨rfl, by decide +kernel⟩
  have second : t.Supplies (some ".borrowstackrc.yml") "." ".borrowstackrc.yml" "[]".toList :=
    ⟨rfl, by decide +kernel⟩
  have refused : t.settings (some "c.json") "." = .error (.notMapping "c.json") :=
    first.settings.trans ((readSettings_json (by decide +kernel) read).trans
      (settingsOf_of_not_object _ nofun))
  have defaults : t.settings (some ".borrowstackrc.yml") "." = .ok {} :=
    second.settings.trans (readSettings_yaml (by decide +kernel) read')
  have both := agree "[]".toList _ read read' t "c.json" ".borrowstackrc.yml" (by decide +kernel)
    first.holds (by decide +kernel) second.holds
  rw [refused, defaults] at both
  cases both

end Tree

end Files

end PointerTrace
