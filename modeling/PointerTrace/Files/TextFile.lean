import PointerTrace.Files.Discovery
import PointerTrace.Text.Lines
import PointerTrace.Text.Utf8

/- Texts in files: UTF-8, with any line end read as a line feed. -/
namespace PointerTrace.Files

/-- Why a file gives no text. -/
inductive TextFailure where
  | file (failure : Failure)
  | notUtf8 (fault : Text.Utf8.Fault)
  deriving DecidableEq, Repr

/-- The wording of what is wrong with bytes. -/
def encodingMessage (f : Text.Utf8.Fault) : String :=
  let last := f.start + f.bytes.length - 1
  "'utf-8' codec can't decode " ++
    (match f.bytes with
      | [b] => "byte 0x" ++ String.ofList (Text.hexDigits 2 b) ++ " in position " ++
          Decimal.ofNat f.start
      | _ => "bytes in position " ++ Decimal.ofNat f.start ++ "-" ++ Decimal.ofNat last) ++
    ": " ++ f.reason.text

/-- The characters of the file at a path. -/
def Tree.readCharacters (t : Tree) (path : String) : Except TextFailure (List Char) := do
  let bytes ← (t.read path).mapError .file
  let cs ← (Text.Utf8.decode bytes).mapError .notUtf8
  return Text.plainNewlines cs

/-- The text of the file at a path. -/
def Tree.readText (t : Tree) (path : String) : Except TextFailure String :=
  Text.ofChars <$> t.readCharacters path

/-- Writes a text into the file at a path. -/
def Tree.writeText (t : Tree) (path text : String) : Except Failure Tree :=
  t.write path ((Text.toPlain text).toUTF8.toList.map UInt8.toNat)

end PointerTrace.Files
