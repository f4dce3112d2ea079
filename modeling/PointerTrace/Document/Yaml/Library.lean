import PointerTrace.Document.Json
import PointerTrace.Document.Yaml.Fault

/- What reads and writes YAML. Records and settings are read and written through a library that is a
   parameter: what is said about them holds of any reader and any writer, with what a statement needs of
   the two as a hypothesis of it. -/
namespace PointerTrace.Document.Yaml

/-- A reader of documents, given by their characters, and a writer of mappings. -/
class Library where
  read : List Char → Except Fault Value
  write : List (String × Json) → String

end PointerTrace.Document.Yaml
