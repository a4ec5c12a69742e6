import GatewaySync.Settings.Convert
import GatewaySync.Settings.FileTree
/-!
# Loading settings

The root is a settings file or a directory that holds one. Layers are added in a fixed order, each
over the earlier ones: the root if it is a file, then next to the current directory the general file,
the defaults file and the file of the run mode, then the file in the root if that is a directory, and
last the environment.
-/
namespace GatewaySync

inductive LoadError where
  | noRoot
  | unknownFormat (path : String)
  /-- A file that is not a table in its format, and why. -/
  | malformed (path cause : String)
  | fault (fault : SettingsFault)
  deriving DecidableEq, Repr

def LoadError.message : LoadError → String
  | noRoot => "Runtime error: unable to canonicalize root directory"
  | unknownFormat path =>
    "Config error: configuration file " ++ Text.quoted path ++ " is not of a registered file format"
  | malformed path cause => "Config error: " ++ cause ++ " in " ++ path
  | fault f => "Config error: " ++ f.message

namespace Settings

def addFile (t : FileTree) (entries : List (String × Layered)) (file : List String × Format) :
    Except LoadError (List (String × Layered)) :=
  match t.text? file.1 with
  | none => .ok entries
  | some text =>
    let source := t.relative file.1
    match (file.2.document? text).map Json.lastWins with
    | some (.obj members) => .ok (Layered.addSource entries (Layered.ofMembers source members))
    | some other =>
      let found := (Layered.leaf none other).described
      .error (.malformed source (SettingsFault.mismatch "" (some source) found "a map").message)
    | none => .error (.malformed source (file.2.refusal text))

/-- The file of the root, if the root is a file. -/
def rootFile (t : FileTree) (root : List String) : Except LoadError (List (List String × Format)) :=
  if t.isFile root then
    match Format.ofExtension? (extension (root.getLastD "")) with
    | some format => .ok [(root, format)]
    | none => .error (.unknownFormat (FileTree.absolute root))
  else .ok []

def fileNames (runMode : String) : List String := ["config", "config/default", "config." ++ runMode]

def variableOf (environment : List (String × String)) (name : String) : Option String :=
  environment.lookup name

def defaultRunMode : String := "development"

/-- The files that settings are read from, in the order of their layers. -/
def files (t : FileTree) (runMode : String) (root : List String) :
    Except LoadError (List (List String × Format)) := do
  let first ← rootFile t root
  let nearby := (fileNames runMode).filterMap (t.find? t.current)
  let last := if t.isDirectory root then (t.find? root "config").toList else []
  .ok (first ++ nearby ++ last)

/-- Loads the settings; without a root the current directory is the root. -/
def load (t : FileTree) (environment : List (String × String)) (root : Option String) :
    Except LoadError Settings := do
  let place ← match root with
    | none => .ok t.current
    | some path => match t.resolve path with
      | some place => .ok place
      | none => .error .noRoot
  let runMode := (variableOf environment "RUN_MODE").getD defaultRunMode
  let entries ← (← files t runMode place).foldlM (addFile t) []
  let entries := Layered.addSource entries
    (environment.filterMap fun (name, value) => Layered.ofVariable name value)
  (Layered.table entries).toSettings.mapError .fault

end Settings

end GatewaySync
