import PointerTrace.Text.Quoted

/- A tree of files, as far as a command looks at it or changes it. A path is a text; it names a place
   in the tree, given by the names on the way from the root. Names of the tree that are written `.`
   or left out stay at a place, and `..` goes up. -/
namespace PointerTrace.Files

/-- What stands at a place. -/
inductive Entry where
  | file (bytes : List Nat)
  | directory
  deriving DecidableEq, Repr

/-- A place, by the names from the root down. -/
abbrev Place := List String

/-- A tree of files with a working directory. -/
structure Tree where
  working : Place
  entries : List (Place × Entry)
  deriving DecidableEq, Repr

/-- Why a path cannot be used. -/
inductive Error where
  | notFound
  | exists
  | notDirectory
  | isDirectory
  deriving DecidableEq, Repr

/-- The number of an error. -/
def Error.number : Error → Nat
  | .notFound => 2
  | .exists => 17
  | .notDirectory => 20
  | .isDirectory => 21

/-- The wording of an error. -/
def Error.text : Error → String
  | .notFound => "No such file or directory"
  | .exists => "File exists"
  | .notDirectory => "Not a directory"
  | .isDirectory => "Is a directory"

/-- An error of using a path. -/
structure Failure where
  error : Error
  path : String
  deriving DecidableEq, Repr

/-- The wording of a failure. -/
def Failure.message (f : Failure) : String :=
  "[Errno " ++ Decimal.ofNat f.error.number ++ "] " ++ f.error.text ++ ": " ++ Text.quoted f.path

/-- A place as an absolute path, after the slashes that the path starts with. -/
def Place.textFrom (root : String) (p : Place) : String := root ++ "/".intercalate p

/-- A place as an absolute path. -/
def Place.text (p : Place) : String := p.textFrom "/"

/-- The slashes that a path keeps at its start when it is made absolute: two if there are exactly two,
    and otherwise one. -/
def rootOf (path : String) : String :=
  if (path.toList.takeWhile (· = '/')).length = 2 then "//" else "/"

/-- The names of a path between its slashes, in order. -/
def pathNames (path : String) : List String :=
  (path.toList.splitOn '/').map String.ofList

/-- Whether a path starts at the root. -/
def isAbsolute (path : String) : Bool := path.toList.head? = some '/'

/-- A path below another one. -/
def join (directory name : String) : String :=
  if directory = "" || isAbsolute name then name
  else if directory.toList.getLast? = some '/' then directory ++ name
  else directory ++ "/" ++ name

/-- The last name of a path. -/
def baseName (path : String) : String := (pathNames path).getLast?.getD ""

/-- A path without its last name, and without the slashes before that name. -/
def parentPath (path : String) : String :=
  let names := (pathNames path).dropLast
  let head := "/".intercalate names
  if names.all (· = "") then String.ofList (List.replicate names.length '/')
  else String.ofList (head.toList.reverse.dropWhile (· = '/')).reverse

namespace Tree

/-- What stands at a place. A directory stands wherever something stands below it. -/
def at? (t : Tree) (p : Place) : Option Entry :=
  match t.entries.lookup p with
  | some e => some e
  | none =>
    if p.isPrefixOf t.working || t.entries.any (fun e => p.isPrefixOf e.1) then some .directory
    else none

/-- Follows names from a place; every place that a name is looked up in must be a directory. -/
def follow (t : Tree) (p : Place) : List String → Except Error Place
  | [] => .ok p
  | name :: rest =>
    match t.at? p with
    | some .directory =>
      if name = "" || name = "." then t.follow p rest
      else if name = ".." then t.follow p.dropLast rest
      else t.follow (p ++ [name]) rest
    | some (.file _) => .error .notDirectory
    | none => .error .notFound

/-- The place that a path names. -/
def placeOf (t : Tree) (path : String) : Except Error Place :=
  if path = "" then .error .notFound
  else t.follow (if isAbsolute path then [] else t.working) (pathNames path)

/-- What stands at a path. -/
def entry (t : Tree) (path : String) : Except Error Entry := do
  match t.at? (← t.placeOf path) with
  | some e => return e
  | none => throw .notFound

/-- Whether something stands at a path. -/
def holds (t : Tree) (path : String) : Bool := (t.entry path).isOk

/-- Whether a file stands at a place. -/
def isFile (t : Tree) (p : Place) : Bool :=
  match t.at? p with
  | some (.file _) => true
  | _ => false

/-- The bytes of the file at a path. -/
def read (t : Tree) (path : String) : Except Failure (List Nat) :=
  match t.entry path with
  | .ok (.file bytes) => .ok bytes
  | .ok .directory => .error ⟨.isDirectory, path⟩
  | .error e => .error ⟨e, path⟩

/-- The tree with an entry set at a place. -/
def set (t : Tree) (p : Place) (e : Entry) : Tree :=
  { t with entries := t.entries.filter (·.1 ≠ p) ++ [(p, e)] }

/-- Writes a file at a path. -/
def write (t : Tree) (path : String) (bytes : List Nat) : Except Failure Tree :=
  match t.placeOf path with
  | .error e => .error ⟨e, path⟩
  | .ok p =>
    match t.at? p, t.at? p.dropLast with
    | some .directory, _ => .error ⟨.isDirectory, path⟩
    | _, some .directory => .ok (t.set p (.file bytes))
    | _, _ => .error ⟨.notFound, path⟩

/-- A path without the slashes at its end; a path of slashes alone keeps one. -/
def withoutSlash (path : String) : String :=
  match path.toList.reverse.dropWhile (· = '/') with
  | [] => if path = "" then "" else "/"
  | cs => String.ofList cs.reverse

/-- Makes one directory. One that is there already is left as it is. -/
def makeDirectory (t : Tree) (path : String) : Except Failure Tree :=
  match t.placeOf (withoutSlash path) with
  | .error e => .error ⟨e, path⟩
  | .ok p =>
    match t.at? p, t.at? p.dropLast with
    | some .directory, _ => .ok t
    | some (.file _), _ => .error ⟨.exists, path⟩
    | none, some .directory => .ok (t.set p .directory)
    | none, _ => .error ⟨.notFound, path⟩

/-- Makes the directories at some paths, one after the other. -/
def makeAll (t : Tree) : List String → Except Failure Tree
  | [] => .ok t
  | path :: rest => do (← t.makeDirectory path).makeAll rest

/-- The path and the paths above it that do not exist yet, the uppermost first. -/
def missingPaths (t : Tree) : Nat → String → List String
  | 0, path => [path]
  | more + 1, path =>
    let above := parentPath (if baseName path = "" then parentPath path else path)
    if above = "" || t.holds above then [path] else t.missingPaths more above ++ [path]

/-- Makes the directory at a path and those above it. -/
def makeDirectories (t : Tree) (path : String) : Except Failure Tree :=
  t.makeAll (t.missingPaths path.length path)

end Tree

end PointerTrace.Files
