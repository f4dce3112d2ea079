import PointerTrace.CommandLine.Run

/- The program itself. It looks at the places that its arguments and the search for settings name,
   runs on what it found there, prints and logs the outcome, and makes what is new. -/
namespace PointerTrace

open Files (Entry Place Tree)

/-- What stands at a place. -/
def observe (p : Place) : IO (Option (Place × Entry)) := do
  let path := (← IO.currentDir) / Text.toPlain p.text
  if ← path.isDir then return some (p, .directory)
  else if ← path.pathExists then
    let bytes ← IO.FS.readBinFile path
    return some (p, .file (bytes.toList.map UInt8.toNat))
  else return none

/-- A place and those above it below the root, the uppermost first. -/
def ancestry (p : Place) : List Place := (List.range p.length).map fun n => p.take (n + 1)

/-- The tree as far as arguments make the program look at it. -/
def snapshot (working : Place) (arguments : List String) : IO Tree := do
  let bare : Tree := ⟨working, []⟩
  let named := match CommandLine.Request.ofArguments arguments with
    | .ok request => (request.paths.map bare.absolute).flatMap ancestry
    | .error _ => []
  let entries ← (Files.settingsPlaces working ++ named).eraseDups.filterMapM observe
  return ⟨working, entries⟩

/-- Makes what stands at a place. -/
def make : Place × Entry → IO Unit
  | (p, .file bytes) => IO.FS.writeBinFile (Text.toPlain p.text) ⟨(bytes.map UInt8.ofNat).toArray⟩
  | (p, .directory) => IO.FS.createDirAll (Text.toPlain p.text)

end PointerTrace

open PointerTrace in
/-- Runs the program on its arguments. -/
def main (arguments : List String) : IO UInt32 := do
  let arguments := arguments.map Text.ofString
  let working := (Files.pathNames (Text.ofString (← IO.currentDir).toString)).filter (· ≠ "")
  let before ← snapshot working arguments
  let out ← IO.getStdout
  let err ← IO.getStderr
  let style := Report.Style.of (← out.isTty) (← IO.getEnv "NO_COLOR").isSome
  match CommandLine.run style before arguments with
  | .ok o =>
    err.putStr (Text.toPlain o.err)
    (o.files.entries.filter (· ∉ before.entries)).forM make
    out.putStr (Text.toPlain o.out)
    return o.exit.toUInt32
  | .error abort =>
    err.putStrLn (Text.toPlain abort.message)
    return 1
