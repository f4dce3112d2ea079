import PointerTrace.Files.TextFile
import PointerTrace.Program.Document
import PointerTrace.Trace.Parser

/- Programs in files. The ending of a file's name tells records from trace text; a program is named
   after its file. -/
namespace PointerTrace.Files

/-- Why a file gives no program. -/
inductive ProgramFailure where
  | absent
  | file (failure : Failure)
  | content (failure : ReadFailure)
  deriving DecidableEq, Repr

/-- The endings of files of records; capitals make no difference. -/
def recordEndings : List String := [".yml", ".yaml", ".json"]

/-- Whether a path names a file of records. -/
def holdsRecords (path : String) : Bool := recordEndings.any fun ending => (Text.lower path).endsWith ending

/-- The program in the text of the file at a path. -/
def readProgram [Document.Yaml.Library] (path text : String) : Except ReadFailure Program :=
  if holdsRecords path then Program.readRecords text (baseName path)
  else Program.parse text path (some (baseName path))

/-- Bytes of a trace file that are no text, as a problem at the start of the file. -/
def encodingFailure (path : String) (fault : Text.Utf8.Fault) : ReadFailure :=
  .ofSyntax (.notUtf8 fault.reason.text fault.start) (some ⟨1, 1, path⟩)

/-- The program in the file at a path. -/
def Tree.programAt [Document.Yaml.Library] (t : Tree) (path : String) : Except ProgramFailure Program :=
  if t.holds path then
    match t.readText path with
    | .ok text => (readProgram path text).mapError .content
    | .error (.file failure) => .error (.file failure)
    | .error (.notUtf8 fault) => .error (.content (encodingFailure path fault))
  else .error .absent

end PointerTrace.Files
