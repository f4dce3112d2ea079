import PointerTrace.Document.Yaml.Library
import PointerTrace.Machine.Check
import PointerTrace.Text.LowerCase

/- Settings of the checker, and reading them from the pairs of a settings file. Keys that are not
   known are ignored; a known key with a value of the wrong kind is refused. -/
namespace PointerTrace

/-- The ways a verdict is written. -/
inductive Format where
  | pretty
  | text
  | json
  | markdown
  | sarif
  deriving DecidableEq, Repr

/-- The name of a format. -/
def Format.name : Format → String
  | .pretty => "pretty"
  | .text => "text"
  | .json => "json"
  | .markdown => "markdown"
  | .sarif => "sarif"

/-- All formats. -/
def Format.all : List Format := [.pretty, .text, .json, .markdown, .sarif]

/-- The format with a name. -/
def Format.ofName? (name : String) : Option Format := Format.all.find? (·.name = name)

/-- How much is logged. -/
inductive LogLevel where
  | debug
  | info
  | warning
  | error
  deriving DecidableEq, Repr

/-- The name of a log level. -/
def LogLevel.name : LogLevel → String
  | .debug => "debug"
  | .info => "info"
  | .warning => "warning"
  | .error => "error"

/-- All log levels. -/
def LogLevel.all : List LogLevel := [.debug, .info, .warning, .error]

/-- The log level with a name. -/
def LogLevel.ofName? (name : String) : Option LogLevel := LogLevel.all.find? (·.name = name)

/-- The settings of the checker. -/
structure Settings where
  format : Format := .pretty
  externalValue : Int := 1
  checkBindings : Bool := false
  logLevel : LogLevel := .warning
  deriving DecidableEq, Repr

/-- Why settings are refused; the value given is kept as text, unless it holds a number that is too
    long to be written. Values are such as have a text but for their numbers (`Value.quoted?`). -/
inductive SettingsFault where
  | unknownFormat (given : String)
  | notInteger (given : String)
  | notTruthValue (given : String)
  | unknownLogLevel (given : String)
  | unwritable
  deriving DecidableEq, Repr

/-- The wording of a fault of settings. -/
def SettingsFault.message : SettingsFault → String
  | .unknownFormat given => "unknown output format '" ++ given ++ "' (expected one of " ++
      ", ".intercalate (Format.all.map Format.name) ++ ")"
  | .notInteger given => "external_write_value must be an integer, got " ++ given
  | .notTruthValue given => "check_bindings must be true or false, got " ++ given
  | .unknownLogLevel given => "unknown log level '" ++ given ++ "'"
  | .unwritable => Decimal.unwritableMessage

namespace Settings

open Document (Value)

/-- The part of the settings that a check depends on. -/
def options (s : Settings) : CheckOptions := ⟨s.externalValue, s.checkBindings⟩

/-- A value as text. -/
def textOf (v : Value) : Except SettingsFault String := v.plain?.elim (.error .unwritable) .ok

/-- Refuses a value, quoted in what is said about it. -/
def refused {α : Type} (v : Value) (fault : String → SettingsFault) : Except SettingsFault α :=
  .error (v.quoted?.elim .unwritable fault)

/-- The format that a value names. -/
def readFormat (v : Value) : Except SettingsFault Format := do
  let word ← textOf v
  (Format.ofName? word).elim (.error (.unknownFormat word)) .ok

/-- The number that a value is; a truth value is none. -/
def readExternalValue : Value → Except SettingsFault Int
  | .int n => .ok n
  | v => refused v .notInteger

/-- The truth value that a value is. -/
def readCheckBindings : Value → Except SettingsFault Bool
  | .bool b => .ok b
  | v => refused v .notTruthValue

/-- The log level that a value names. Capitals make no difference. -/
def readLogLevel (v : Value) : Except SettingsFault LogLevel := do
  let word := Text.lower (← textOf v)
  (LogLevel.ofName? word).elim (.error (.unknownLogLevel word)) .ok

/-- Reads the value of a key, or takes a default when the key is left out. -/
def readKey {α : Type} (pairs : List (Value × Value)) (key : String)
    (read : Value → Except SettingsFault α) (default : α) : Except SettingsFault α :=
  match Value.field? pairs key with
  | some v => read v
  | none => .ok default

/-- Reads settings from pairs. -/
def ofPairs (pairs : List (Value × Value)) : Except SettingsFault Settings := do
  let d : Settings := {}
  let format ← readKey pairs "format" readFormat d.format
  let externalValue ← readKey pairs "external_write_value" readExternalValue d.externalValue
  let checkBindings ← readKey pairs "check_bindings" readCheckBindings d.checkBindings
  let logLevel ← readKey pairs "log_level" readLogLevel d.logLevel
  return ⟨format, externalValue, checkBindings, logLevel⟩

/-- The settings as pairs. -/
def toMembers (s : Settings) : List (String × Json) :=
  [("format", .text s.format.name), ("external_write_value", .int s.externalValue),
    ("check_bindings", .bool s.checkBindings), ("log_level", .text s.logLevel.name)]

/-- The text of a settings file. -/
def write [Document.Yaml.Library] (s : Settings) : String :=
  Document.Yaml.Library.write s.toMembers

end Settings

end PointerTrace
