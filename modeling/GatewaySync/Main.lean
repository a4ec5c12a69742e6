import GatewaySync.CommandLine.Execute
/-!
# The program

Reads the arguments, the environment and the files that settings may come from, and prints what comes of
them. A connection to a cluster is not part of it, so controllers end with an error.
-/
namespace GatewaySync.Program

/-- The build that the program reports; date and commit are not recorded. -/
def build : BuildInfo := ⟨CommandLine.packageVersion, none, none⟩

def placeFrom (directory : List String) (path : String) : List String :=
  (pathNames path).foldl
    (fun place name =>
      if isIdleName name then place
      else if name = ".." then place.dropLast
      else place ++ [name])
    (if path.startsWith "/" then [] else directory)

def readText? (place : List String) : IO (Option String) := do
  try
    return some (← IO.FS.readFile (FileTree.absolute place))
  catch _ => return none

def namesIn? (place : List String) : IO (Option (List String)) := do
  try
    let directory ← IO.FS.realPath (FileTree.absolute place)
    return some ((← directory.readDir).toList.map (·.fileName))
  catch _ => return none

def readFiles (places : List (List String)) : IO (List (List String × String)) :=
  places.filterMapM fun place => do return (← readText? place).map fun text => (place, text)

def readStarting (place : List String) (start : String) : IO (List (List String × String)) := do
  let names := (← namesIn? place).getD []
  readFiles ((names.filter (·.startsWith start)).map fun name => place ++ [name])

def readTree (root : Option String) : IO FileTree := do
  let current := placeFrom [] (← IO.currentDir).toString
  let root := root.elim current (placeFrom current)
  let above := (List.range (current.length + 1)).map fun depth => current.take depth ++ [".env"]
  let nearby ← readStarting current "config"
  let defaults ← readStarting (current ++ ["config"]) "default"
  let further ← readStarting root "config"
  let directories := if (← namesIn? root).isSome then [current, root] else [current]
  return ⟨nearby ++ defaults ++ further ++ (← readFiles (root :: above)), directories, current⟩

def readEnvironment : IO (List (String × String)) := do
  try
    let bytes ← IO.FS.readBinFile "/proc/self/environ"
    let text := (String.fromUTF8? bytes).getD ""
    let entries := Text.splitOn (Char.ofNat 0) text.toList
    return entries.filterMap fun entry =>
      (Text.splitOnce '=' entry).map fun (name, value) => (String.ofList name, String.ofList value)
  catch _ => return []

def settingsRoot (args : List String) : Option String :=
  match CommandLine.Invocation.ofArguments args with
  | .ok i => i.settings.or i.root
  | .error _ => none

def run (args : List String) : IO UInt32 := do
  let tree ← readTree (settingsRoot args)
  let operate := fun _ => .error (.cluster "no cluster is configured")
  let outcome := CommandLine.execute build operate tree (← readEnvironment) args
  for event in outcome.logs do
    IO.println event.line
  IO.print outcome.output
  for line in outcome.errors do
    IO.eprintln line
  if outcome.exitCode = 2 then
    IO.eprintln "For more information, try '--help'."
  return outcome.exitCode

end GatewaySync.Program

def main (args : List String) : IO UInt32 := GatewaySync.Program.run args
