import PointerTrace.Files.Tree

/- Finding a settings file: it may have one of three names and stand in the directory where the search
   starts or in any directory above. The nearest directory wins, and in one directory the first of
   the names. -/
namespace PointerTrace.Files

/-- The names of settings files, the preferred one first. -/
def settingsNames : List String := [".borrowstackrc.yml", ".borrowstackrc.yaml", ".borrowstackrc.json"]

/-- A directory and those above it, nearest first, given by its names from the innermost out. -/
def upwards : List String → List Place
  | [] => [[]]
  | name :: outer => (name :: outer).reverse :: upwards outer

/-- The places where a settings file may stand, in the order in which they are looked at. -/
def settingsPlaces (directory : Place) : List Place :=
  (upwards directory.reverse).flatMap fun p => settingsNames.map fun name => p ++ [name]

/-- The settings file that stands in a directory. -/
def Tree.settingsIn? (t : Tree) (directory : Place) : Option Place :=
  (settingsNames.map fun name => directory ++ [name]).find? t.isFile

/-- The nearest settings file from a directory upwards. -/
def Tree.findSettings? (t : Tree) (directory : Place) : Option Place :=
  (upwards directory.reverse).findSome? t.settingsIn?

/-- Carries out the names of a path on a place without looking at the tree. -/
def normalize : Place → List String → Place
  | p, [] => p
  | p, name :: rest =>
    if name = "" || name = "." then normalize p rest
    else if name = ".." then normalize p.dropLast rest
    else normalize (p ++ [name]) rest

/-- The place that a path names when nothing is looked up. -/
def Tree.absolute (t : Tree) (path : String) : Place :=
  normalize (if isAbsolute path then [] else t.working) (pathNames path)

end PointerTrace.Files
