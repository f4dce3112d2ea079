import PointerTrace.Document.JsonReader
import PointerTrace.Files.TextFile
import PointerTrace.Settings

/- Settings from a file. A file that is asked for must be there and be readable; when none is asked
   for, the nearest one is taken, and without one that can be opened the settings have their defaults.
   A file whose name ends in `.json` is read as JSON, any other as YAML, where a document without
   content counts as an empty mapping. -/
namespace PointerTrace.Files

/-- Why a settings file gives no settings. -/
inductive SettingsFailure where
  | file (failure : Failure)
  | notUtf8 (fault : Text.Utf8.Fault)
  | notJson (text : List Char) (error : Json.SyntaxError) (index : Nat)
  | scalar (fault : Document.ScalarFault)
  | malformed (path : String)
  | notMapping (path : String)
  | settings (fault : SettingsFault)
  deriving DecidableEq, Repr

/-- The wording of a failure. -/
def SettingsFailure.message : SettingsFailure → String
  | .file failure => failure.message
  | .notUtf8 fault => encodingMessage fault
  | .notJson text error index => Json.errorMessage text error index
  | .scalar fault => fault.message
  | .malformed path => path ++ ": <yaml>"
  | .notMapping path => path ++ ": configuration must be a mapping"
  | .settings fault => fault.message

/-- The document in the text of a JSON file. -/
def readJson (text : List Char) : Except SettingsFailure Document.Value :=
  match Json.read text with
  | .ok j => .ok j.toValue
  | .error (.malformed error index) => .error (.notJson text error index)
  | .error (.tooManyDigits count) => .error (.scalar (.tooManyDigits count))
  | .error (.tooDeep nesting) => .error (.scalar (.tooDeep nesting))

/-- The document in the text of a YAML file; one without content is an empty mapping. -/
def readYaml [Document.Yaml.Library] (path : String) (text : List Char) :
    Except SettingsFailure Document.Value :=
  match Document.Yaml.Library.read text with
  | .ok v => .ok (if v.isVacant then .mapping [] else v)
  | .error .malformed => .error (.malformed path)
  | .error (.scalar fault) => .error (.scalar fault)

/-- The settings in a document. -/
def settingsOf (path : String) (document : Document.Value) : Except SettingsFailure Settings :=
  match document.opened with
  | .mapping pairs => (Settings.ofPairs pairs).mapError .settings
  | _ => .error (.notMapping path)

/-- The settings in the text of a file. -/
def readSettings [Document.Yaml.Library] (path : String) (text : List Char) :
    Except SettingsFailure Settings := do
  let document ← if path.endsWith ".json" then readJson text else readYaml path text
  settingsOf path document

/-- The settings in the file at a path. -/
def Tree.settingsAt [Document.Yaml.Library] (t : Tree) (path : String) :
    Except SettingsFailure Settings :=
  match t.readCharacters path with
  | .ok text => readSettings path text
  | .error (.file failure) => .error (.file failure)
  | .error (.notUtf8 fault) => .error (.notUtf8 fault)

/-- The settings in the file at a path that was found and not asked for: if it cannot be opened, they
    are the defaults. -/
def Tree.settingsFound [Document.Yaml.Library] (t : Tree) (path : String) :
    Except SettingsFailure Settings :=
  match t.settingsAt path with
  | .error (.file _) => .ok {}
  | outcome => outcome

/-- The path of the nearest settings file from a path upwards. -/
def Tree.foundPath? (t : Tree) (start : String) : Option String :=
  (t.findSettings? (t.absolute start)).map (Place.textFrom (rootOf start))

/-- The settings that hold: those of the file asked for, those of the nearest file, or the
    defaults. -/
def Tree.settings [Document.Yaml.Library] (t : Tree) (asked : Option String) (start : String) :
    Except SettingsFailure Settings :=
  match asked with
  | some path => t.settingsAt path
  | none => (t.foundPath? start).elim (.ok {}) t.settingsFound

end PointerTrace.Files
