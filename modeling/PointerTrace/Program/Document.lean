import PointerTrace.Document.Yaml.Library
import PointerTrace.Program.Record

/- Programs as texts of records. -/
namespace PointerTrace

open Document (Yaml.Library)

/-- Reads a text as a document; half of a surrogate pair stands in none. -/
def readDocument [Yaml.Library] (text : String) : Except Document.Yaml.Fault Document.Value :=
  (Text.characters? text).elim (.error .malformed) Yaml.Library.read

/-- Reads a text of records. -/
def Program.readRecords [Yaml.Library] (text name : String) : Except ReadFailure Program :=
  match readDocument text with
  | .ok v => ofDocument v name
  | .error .malformed => .error (.ofSyntax .malformedDocument none)
  | .error (.scalar fault) => .error (.unreadable fault)

/-- Writes a program as a text of records. -/
def Program.writeRecords [Yaml.Library] (p : Program) : String := Yaml.Library.write p.toDocument

/-- A program as a text of records, unless a number in it is too long to be written. -/
def Program.writeRecords? [Yaml.Library] (p : Program) : Option String :=
  if p.toRecords.all Json.isWritable then some p.writeRecords else none

end PointerTrace
