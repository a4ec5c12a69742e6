import GatewaySync.Settings.Format
import GatewaySync.Text.Blank
/-!
# Files that settings are read from

The files and directories that are known, by the names on the path from the top, and the directory that
relative paths start from. A directory is known if it is named or if something in it is.
-/
namespace GatewaySync

structure FileTree where
  files : List (List String × String)
  directories : List (List String)
  current : List String

def pathNames (path : String) : List String := (Text.splitOn '/' path.toList).map String.ofList

/-- The name of the directory itself, which a path may repeat. -/
def isIdleName (name : String) : Bool := name = "" || name = "."

/-- The part of a file name after its last point, unless that is the first character. -/
def extension (name : String) : String :=
  let cs := name.toList.reverse
  let last := cs.takeWhile (· != '.')
  if last.length + 1 < cs.length then String.ofList last.reverse else ""

namespace FileTree

/-- A directory with files below it, given by their relative paths. Inside it is the current one. -/
def ofFiles (directory : List String) (files : List (String × String)) (current : String) : FileTree :=
  let below := fun path => directory ++ (pathNames path).filter fun name => !isIdleName name
  let current := below current
  ⟨files.map fun (path, text) => (below path, text), [current], current⟩

def text? (t : FileTree) (path : List String) : Option String := t.files.lookup path

def isFile (t : FileTree) (path : List String) : Bool := (t.text? path).isSome

def isDirectory (t : FileTree) (path : List String) : Bool :=
  t.directories.any path.isPrefixOf ||
    t.files.any fun f => path.length < f.1.length && path.isPrefixOf f.1

def step (t : FileTree) (place : List String) (name : String) : Option (List String) :=
  if !t.isDirectory place then none
  else if isIdleName name then some place
  else if name = ".." then some place.dropLast
  else if t.isFile (place ++ [name]) ∨ t.isDirectory (place ++ [name]) then some (place ++ [name])
  else none

def resolve (t : FileTree) (path : String) : Option (List String) :=
  if path = "" then none
  else (pathNames path).foldlM t.step (if path.startsWith "/" then [] else t.current)

/-- The file of a name without extension, below a directory: the file of exactly this name, or else
the first with the extension of a format. A file of exactly this name hides the others even if its
extension is not one of a format. -/
def find? (t : FileTree) (directory : List String) (name : String) : Option (List String × Format) :=
  let names := pathNames name
  match names.dropLast.foldlM t.step directory, names.getLast? with
  | some path, some last =>
    let exact := path ++ [last]
    if t.isFile exact then (Format.ofExtension? (extension last)).map fun f => (exact, f)
    else
      let candidates := Format.all.flatMap fun format =>
        format.extensions.map fun e => (path ++ [last ++ "." ++ e], format)
      candidates.find? fun c => t.isFile c.1
  | _, _ => none

/-- The text of the file with a name in the current directory, or in the nearest one above it. -/
def nearest? (t : FileTree) (name : String) : Option String :=
  let depths := (List.range (t.current.length + 1)).reverse
  depths.findSome? fun depth => t.text? (t.current.take depth ++ [name])

def relative (t : FileTree) (path : List String) : String :=
  let rec go : List String → List String → List String
    | a :: up, b :: down =>
      if a = b then go up down else List.replicate (up.length + 1) ".." ++ b :: down
    | up, down => List.replicate up.length ".." ++ down
  "/".intercalate (go t.current path)

def absolute (path : List String) : String := "/" ++ "/".intercalate path

end FileTree

end GatewaySync
