import PointerTrace.Document.Yaml.Standard
import PointerTrace.Files.SettingsFile
import PointerTrace.Proofs.RecordRoundTrip

/- Reading settings. Each of the four keys has values that it admits, and a setting that each of them
   gives; a key that is left out gives the setting of its default value. Pairs are refused exactly if one
   of these keys has a value that it does not admit (`Settings.ofPairs_refused`), and otherwise every
   setting is what its key gives (`Settings.ofPairs_eq_ok`), whatever other keys there are. So the
   settings are read back from their own pairs, and from their text where reading undoes writing
   (`Settings.ofPairs_roundTrip`). -/
namespace PointerTrace

open Document (Value)

/-! ## Names -/

section Names

variable {α : Type} {all : List α} {name : α → String} {word : String}

theorem mem_names (listed : ∀ x, x ∈ all) : word ∈ all.map name ↔ ∃ x, word = name x := by
  simp [listed, eq_comm]

/-- A word that is a name is looked up as what it names. -/
theorem find?_name_eq_some (listed : ∀ x, x ∈ all) (distinct : Function.Injective name) {x : α} :
    (all.find? fun y => name y = word) = some x ↔ word = name x := by
  constructor
  · intro found
    have named := List.find?_some found
    rw [decide_eq_true_eq] at named
    exact named.symm
  · rintro rfl
    cases found : all.find? fun y => name y = name x with
    | none => simpa using List.find?_eq_none.mp found x (listed x)
    | some y =>
      have named := List.find?_some found
      rw [decide_eq_true_eq] at named
      rw [distinct named]

end Names

theorem Format.listed (f : Format) : f ∈ Format.all := by
  cases f <;> decide

theorem Format.name_injective : Function.Injective Format.name := by
  intro a b same
  cases a <;> cases b <;> simp_all [Format.name]

theorem LogLevel.listed (l : LogLevel) : l ∈ LogLevel.all := by
  cases l <;> decide

theorem LogLevel.name_injective : Function.Injective LogLevel.name := by
  intro a b same
  cases a <;> cases b <;> simp_all [LogLevel.name]

namespace Settings

/-! ## Keys -/

/-- The keys that are known. -/
inductive Key where
  | format
  | externalValue
  | checkBindings
  | logLevel
  deriving DecidableEq, Repr

namespace Key

/-- A key as it is written. -/
def name : Key → String
  | .format => "format"
  | .externalValue => "external_write_value"
  | .checkBindings => "check_bindings"
  | .logLevel => "log_level"

/-- The value that counts when a key is left out. -/
def default : Key → Value
  | .format => .text "pretty"
  | .externalValue => .int 1
  | .checkBindings => .bool false
  | .logLevel => .text "warning"

/-- A value that a key may have. A format and a level may be given by any value that is written as one;
    capitals make no difference to a level. -/
def Admits : Key → Value → Prop
  | .format, v => ∃ word ∈ ["pretty", "text", "json", "markdown", "sarif"], v.plain? = some word
  | .externalValue, v => ∃ n, v = .int n
  | .checkBindings, v => ∃ b, v = .bool b
  | .logLevel, v => ∃ word, v.plain? = some word ∧
      Text.lower word ∈ ["debug", "info", "warning", "error"]

/-- The settings are what a value gives for a key. -/
def Gives : Key → Value → Settings → Prop
  | .format, v, s => v.plain? = some s.format.name
  | .externalValue, v, s => v = .int s.externalValue
  | .checkBindings, v, s => v = .bool s.checkBindings
  | .logLevel, v, s => ∃ word, v.plain? = some word ∧ Text.lower word = s.logLevel.name

/-- The value that counts for a key among pairs. -/
def valueIn (key : Key) (pairs : List (Value × Value)) : Value :=
  (Value.field? pairs key.name).getD key.default

theorem mem_formats {word : String} :
    word ∈ ["pretty", "text", "json", "markdown", "sarif"] ↔ ∃ f : Format, word = f.name := by
  show word ∈ Format.all.map Format.name ↔ _
  exact mem_names Format.listed

theorem mem_levels {word : String} :
    word ∈ ["debug", "info", "warning", "error"] ↔ ∃ l : LogLevel, word = l.name := by
  show word ∈ LogLevel.all.map LogLevel.name ↔ _
  exact mem_names LogLevel.listed

/-- A value is admitted if there are settings that it gives. -/
theorem admits_iff {key : Key} {v : Value} : key.Admits v ↔ ∃ s, key.Gives v s := by
  cases key with
  | format =>
    simp only [Admits, mem_formats]
    constructor
    · rintro ⟨_, ⟨f, rfl⟩, plain⟩
      exact ⟨{ format := f }, plain⟩
    · rintro ⟨s, plain⟩
      exact ⟨_, ⟨s.format, rfl⟩, plain⟩
  | externalValue =>
    constructor
    · rintro ⟨n, rfl⟩
      exact ⟨{ externalValue := n }, rfl⟩
    · rintro ⟨s, given⟩
      exact ⟨s.externalValue, given⟩
  | checkBindings =>
    constructor
    · rintro ⟨b, rfl⟩
      exact ⟨{ checkBindings := b }, rfl⟩
    · rintro ⟨s, given⟩
      exact ⟨s.checkBindings, given⟩
  | logLevel =>
    simp only [Admits, mem_levels]
    constructor
    · rintro ⟨word, plain, l, level⟩
      exact ⟨{ logLevel := l }, word, plain, level⟩
    · rintro ⟨s, word, plain, level⟩
      exact ⟨word, plain, s.logLevel, level⟩

theorem gives_default (key : Key) : key.Gives key.default {} := by
  cases key with
  | logLevel => exact ⟨"warning", rfl, by decide +kernel⟩
  | _ => rfl

end Key

/-! ## Values -/

section Values

variable {v : Value}

theorem bind_eq_ok {ε α β : Type} {x : Except ε α} {f : α → Except ε β} {b : β} :
    x >>= f = .ok b ↔ ∃ a, x = .ok a ∧ f a = .ok b := by
  cases x <;> simp [bind, Except.bind]

theorem elim_eq_ok {ε α : Type} {x : Option α} {fault : ε} {a : α} :
    x.elim (.error fault) Except.ok = .ok a ↔ x = some a := by
  cases x <;> simp

theorem formatOfName?_eq_some {name : String} {f : Format} :
    Format.ofName? name = some f ↔ name = f.name :=
  find?_name_eq_some Format.listed Format.name_injective

theorem levelOfName?_eq_some {name : String} {l : LogLevel} :
    LogLevel.ofName? name = some l ↔ name = l.name :=
  find?_name_eq_some LogLevel.listed LogLevel.name_injective

theorem readFormat_eq_ok {f : Format} : readFormat v = .ok f ↔ v.plain? = some f.name := by
  simp only [readFormat, textOf, bind_eq_ok, elim_eq_ok, formatOfName?_eq_some]
  exact ⟨fun ⟨_, plain, same⟩ => same ▸ plain, fun plain => ⟨_, plain, rfl⟩⟩

theorem readExternalValue_eq_ok {n : Int} : readExternalValue v = .ok n ↔ v = .int n := by
  cases v <;> simp [readExternalValue, refused]

theorem readCheckBindings_eq_ok {b : Bool} : readCheckBindings v = .ok b ↔ v = .bool b := by
  cases v <;> simp [readCheckBindings, refused]

theorem readLogLevel_eq_ok {l : LogLevel} : readLogLevel v = .ok l ↔
    ∃ word, v.plain? = some word ∧ Text.lower word = l.name := by
  simp only [readLogLevel, textOf, bind_eq_ok, elim_eq_ok, levelOfName?_eq_some]

end Values

/-! ## Pairs -/

section Pairs

variable {pairs : List (Value × Value)} {s : Settings}

/-- A key that is left out is read as its default value. -/
theorem readKey_eq {α : Type} {key : Key} {read : Value → Except SettingsFault α} {d : α}
    (default : read key.default = .ok d) :
    readKey pairs key.name read d = read (key.valueIn pairs) := by
  unfold readKey Key.valueIn
  cases Value.field? pairs key.name with
  | none => exact default.symm
  | some v => rfl

theorem ofPairs_eq (pairs : List (Value × Value)) : ofPairs pairs = (do
    let format ← readFormat (Key.format.valueIn pairs)
    let externalValue ← readExternalValue (Key.externalValue.valueIn pairs)
    let checkBindings ← readCheckBindings (Key.checkBindings.valueIn pairs)
    let logLevel ← readLogLevel (Key.logLevel.valueIn pairs)
    return ⟨format, externalValue, checkBindings, logLevel⟩) := by
  rw [← readKey_eq (readFormat_eq_ok.mpr (Key.gives_default .format)),
    ← readKey_eq (readExternalValue_eq_ok.mpr (Key.gives_default .externalValue)),
    ← readKey_eq (readCheckBindings_eq_ok.mpr (Key.gives_default .checkBindings)),
    ← readKey_eq (readLogLevel_eq_ok.mpr (Key.gives_default .logLevel))]
  rfl

/-- Pairs are read as the settings that their keys give. -/
theorem ofPairs_eq_ok : ofPairs pairs = .ok s ↔ ∀ key : Key, key.Gives (key.valueIn pairs) s := by
  rw [ofPairs_eq]
  simp only [bind_eq_ok, readFormat_eq_ok, readExternalValue_eq_ok, readCheckBindings_eq_ok,
    readLogLevel_eq_ok]
  constructor
  · rintro ⟨format, first, value, second, truth, third, level, fourth, ⟨⟩⟩ key
    cases key with
    | format => exact first
    | externalValue => exact second
    | checkBindings => exact third
    | logLevel => exact fourth
  · intro gives
    exact ⟨_, gives .format, _, gives .externalValue, _, gives .checkBindings, _, gives .logLevel, rfl⟩

/-- Pairs are refused exactly if a known key has a value that it does not admit. -/
theorem ofPairs_refused : (∃ fault, ofPairs pairs = .error fault) ↔
    ∃ (key : Key) (v : Value), Value.field? pairs key.name = some v ∧ ¬ key.Admits v := by
  constructor
  · rintro ⟨fault, refused⟩
    by_contra admitted
    have admits : ∀ key : Key, key.Admits (key.valueIn pairs) := by
      intro key
      unfold Key.valueIn
      cases here : Value.field? pairs key.name with
      | none => exact Key.admits_iff.mpr ⟨{}, key.gives_default⟩
      | some v =>
        by_contra other
        exact admitted ⟨key, v, here, other⟩
    -- each key gives settings of its own, and a key looks at one of them only
    obtain ⟨a, format⟩ := Key.admits_iff.mp (admits .format)
    obtain ⟨b, value⟩ := Key.admits_iff.mp (admits .externalValue)
    obtain ⟨c, truth⟩ := Key.admits_iff.mp (admits .checkBindings)
    obtain ⟨d, level⟩ := Key.admits_iff.mp (admits .logLevel)
    have read : ofPairs pairs =
        .ok ⟨a.format, b.externalValue, c.checkBindings, d.logLevel⟩ := by
      rw [ofPairs_eq_ok]
      intro key
      cases key with
      | format => exact format
      | externalValue => exact value
      | checkBindings => exact truth
      | logLevel => exact level
    rw [refused] at read
    cases read
  · rintro ⟨key, v, here, other⟩
    cases outcome : ofPairs pairs with
    | error fault => exact ⟨fault, rfl⟩
    | ok s =>
      have gives := ofPairs_eq_ok.mp outcome key
      rw [Key.valueIn, here] at gives
      exact absurd (Key.admits_iff.mpr ⟨s, gives⟩) other

theorem sameKey_text {key : Value} {name : String} :
    Value.sameKey key (.text name) = true ↔ key = .text name := by
  cases key <;> simp [Value.sameKey]

/-- A key that is not known makes no difference. -/
theorem ofPairs_unknown {key : Value} (unknown : ∀ known : Key, key ≠ .text known.name) (v : Value)
    (before after : List (Value × Value)) :
    ofPairs (before ++ (key, v) :: after) = ofPairs (before ++ after) := by
  have values : ∀ known : Key,
      known.valueIn (before ++ (key, v) :: after) = known.valueIn (before ++ after) := by
    intro known
    have other : Value.sameKey key (.text known.name) = false := by
      rw [Bool.eq_false_iff, Ne, sameKey_text]
      exact unknown known
    simp [Key.valueIn, Value.field?, List.find?_append, other]
  rw [ofPairs_eq, ofPairs_eq]
  simp only [values]

end Pairs

/-! ## Written settings -/

/-- Settings are read back from their own pairs. -/
theorem ofPairs_toMembers (s : Settings) : ofPairs (Json.pairsOf s.toMembers) = .ok s := by
  rw [ofPairs_eq_ok]
  intro key
  cases key with
  | format => exact rfl
  | externalValue => exact rfl
  | checkBindings => exact rfl
  | logLevel =>
    refine ⟨s.logLevel.name, rfl, ?_⟩
    cases s.logLevel <;> decide +kernel

end Settings

namespace Files

/-- The path of the settings file: the one asked for, or that of the nearest one. -/
def Tree.settingsPath? (t : Tree) (asked : Option String) (start : String) : Option String :=
  asked <|> t.foundPath? start

variable {t : Tree} {asked : Option String} {start path : String} {text : List Char} {s : Settings}

theorem readJson_ne_file (text : List Char) (failure : Failure) :
    readJson text ≠ .error (.file failure) := by
  unfold readJson
  split <;> nofun

theorem settingsOf_ne_file (path : String) (document : Value) (failure : Failure) :
    settingsOf path document ≠ .error (.file failure) := by
  unfold settingsOf
  split
  · next pairs _ => cases Settings.ofPairs pairs <;> nofun
  · nofun

variable [Document.Yaml.Library]

theorem readYaml_ne_file (path : String) (text : List Char) (failure : Failure) :
    readYaml path text ≠ .error (.file failure) := by
  unfold readYaml
  split <;> nofun

/-- A text that is there is not refused because of its file. -/
theorem readSettings_ne_file (path : String) (text : List Char) (failure : Failure) :
    readSettings path text ≠ .error (.file failure) := by
  have settings : ∀ outcome : Except SettingsFailure Value, outcome ≠ .error (.file failure) →
      (outcome >>= settingsOf path) ≠ .error (.file failure) := by
    intro outcome other
    cases outcome with
    | error e => exact fun same => other (by cases same; rfl)
    | ok v => exact settingsOf_ne_file path v failure
  cases isJson : path.endsWith ".json" with
  | true =>
    rw [readSettings, isJson]
    exact settings _ (readJson_ne_file text failure)
  | false =>
    rw [readSettings, isJson]
    exact settings _ (readYaml_ne_file path text failure)

/-- The settings of a file that has a text are those in the text, whether it was asked for or found. -/
theorem Tree.settings_of_text (located : t.settingsPath? asked start = some path)
    (holds : t.readCharacters path = .ok text) :
    t.settings asked start = readSettings path text := by
  have content : t.settingsAt path = readSettings path text := by rw [settingsAt, holds]
  unfold settings
  cases asked with
  | some given =>
    cases located
    exact content
  | none =>
    have found : t.foundPath? start = some path := located
    rw [found]
    show t.settingsFound path = _
    rw [settingsFound, content]
    split
    · next failure refused => exact absurd refused (readSettings_ne_file path text failure)
    · rfl

/-- Settings are read back from their text, if reading undoes writing. -/
theorem readSettings_write (yaml : path.endsWith ".json" = false)
    (inverts : Document.Yaml.Library.read s.write.toList = .ok (Json.object s.toMembers).toValue) :
    readSettings path s.write.toList = .ok s := by
  have document : readYaml path s.write.toList = .ok (Json.object s.toMembers).toValue := by
    rw [readYaml, inverts]
    rfl
  rw [readSettings, yaml]
  show (readYaml path s.write.toList >>= _) = _
  rw [document]
  show (Settings.ofPairs (Json.pairsOf s.toMembers)).mapError SettingsFailure.settings = .ok s
  rw [Settings.ofPairs_toMembers]
  rfl

end Files

namespace Settings

open Files (Tree)

/-- Settings and what they are read from. The values of pairs are such as have a text unless a number
    in them is too long, which none of those that are admitted does. Pairs are refused exactly if a
    known key has a value that it does not admit, and otherwise read as the settings that the values of
    the known keys give, or their defaults where they are left out. Other keys make no difference,
    wherever they stand. Settings are read back from their own pairs, and from a file that holds their
    text, asked for or found, with any library whose reader undoes its writer on them. -/
theorem ofPairs_roundTrip [Document.Yaml.Library] :
    (∀ pairs : List (Value × Value),
      ((∃ fault, ofPairs pairs = .error fault) ↔
        ∃ (key : Key) (v : Value), Value.field? pairs key.name = some v ∧ ¬ key.Admits v) ∧
      ∀ s, ofPairs pairs = .ok s ↔ ∀ key : Key, key.Gives (key.valueIn pairs) s) ∧
    (∀ key : Value, (∀ known : Key, key ≠ .text known.name) → ∀ v before after,
      ofPairs (before ++ (key, v) :: after) = ofPairs (before ++ after)) ∧
    ∀ s : Settings, ofPairs (Json.pairsOf s.toMembers) = .ok s ∧
      ∀ (t : Tree) (asked : Option String) (start path : String),
        t.settingsPath? asked start = some path → path.endsWith ".json" = false →
        t.readCharacters path = .ok s.write.toList →
        Document.Yaml.Library.read s.write.toList = .ok (Json.object s.toMembers).toValue →
        t.settings asked start = .ok s := by
  refine ⟨fun pairs => ⟨ofPairs_refused, fun s => ofPairs_eq_ok⟩,
    fun key unknown v before after => ofPairs_unknown unknown v before after,
    fun s => ⟨ofPairs_toMembers s, ?_⟩⟩
  intro t asked start path found yaml text inverts
  rw [Tree.settings_of_text found text]
  exact Files.readSettings_write yaml inverts

/-- Settings that are not the defaults. -/
def strict : Settings := ⟨.markdown, -7, true, .error⟩

/-- A directory below one whose settings are strict. -/
def belowStrict : Tree :=
  ⟨["a", "b"], [(["a", ".borrowstackrc.yml"], .file (strict.write.toList.map Char.toNat))]⟩

theorem ofPairs_roundTrip_strict :
    (∃ fault, ofPairs [(.text "external_write_value", .bool true)] = .error fault) ∧
    ofPairs (Json.pairsOf (strict.toMembers.take 2) ++ (.text "colour", .null) ::
      Json.pairsOf (strict.toMembers.drop 2)) = .ok strict ∧
    belowStrict.settings none "." = .ok strict := by
  obtain ⟨pairs, others, written⟩ := ofPairs_roundTrip
  refine ⟨?_, ?_, ?_⟩
  · refine (pairs _).1.mpr ⟨.externalValue, .bool true, rfl, ?_⟩
    rintro ⟨n, ⟨⟩⟩
  · have unknown : ∀ known : Key, Value.text "colour" ≠ .text known.name := by
      intro known same
      cases known <;> simp [Key.name] at same
    rw [others _ unknown]
    exact (written strict).1
  · have told : (Document.Yaml.read strict.write.toList).toOption.any
        (Json.object strict.toMembers).isValue = true := by
      decide +kernel
    refine (written strict).2 belowStrict none "." "/a/.borrowstackrc.yml" (by decide +kernel)
      (by decide +kernel) (by decide +kernel) ?_
    show Document.Yaml.read strict.write.toList = _
    cases outcome : Document.Yaml.read strict.write.toList with
    | error e =>
      rw [outcome] at told
      cases told
    | ok v =>
      rw [outcome] at told
      rw [Json.eq_of_isValue _ v told]
      rfl

end Settings

end PointerTrace
