import GatewaySync.CommandLine.Invocation
/-!
# Help texts

What the program tells about itself and its commands. Descriptions stand in one column.
-/
namespace GatewaySync.CommandLine

def programName : String := "ksync"

def packageName : String := "konnect-cli"

def packageVersion : String := "0.1.0"

def columns (rows : List (String × String)) : List String :=
  let width := (rows.map (·.1.length)).foldl max 0
  rows.map fun (left, right) => "  " ++ padded left width ++ "  " ++ right
where
  padded (s : String) (width : Nat) : String := s ++ "".pushn ' ' (width - s.length)

def Switch.usage (s : Switch) : String :=
  (s.letter.elim "    " fun letter => "-" ++ letter.toString ++ ", ") ++ "--" ++ s.long ++
    match s.role with
    | .valued name => " <" ++ name ++ ">"
    | _ => ""

def Command.switchLines (c : Command) : List String :=
  "Options:" :: columns (c.switches.map fun s => (s.usage, s.about))

def Command.helpLines (c : Command) (name : String) : List String :=
  [c.about, "", "Usage: " ++ programName ++ " " ++ name ++ " [OPTIONS]", ""] ++ c.switchLines

def helpAbout : String := "Print this message or the help of the given subcommand(s)"

def Topic.helpLines : Topic → List String
  | program =>
    ["Usage: " ++ programName ++ " [OPTIONS] <COMMAND>", "", "Commands:"] ++
      columns [("run", runCommand.about), ("info", infoCommand.about), ("help", helpAbout)] ++
      "" :: mainCommand.switchLines
  | run => runCommand.helpLines "run"
  | info => infoCommand.helpLines "info"
  | help =>
    [helpAbout, "", "Usage: " ++ programName ++ " help [COMMAND]...", "", "Arguments:"] ++
      columns [("[COMMAND]...", "Print help for the subcommand(s)")]

/-- The line about the version of the program or of one of its commands. -/
def Topic.versionLine (topic : Topic) : String :=
  let name := match topic with
    | program => packageName
    | run => packageName ++ "-run"
    | info => packageName ++ "-info"
    | help => packageName ++ "-help"
  name ++ " " ++ packageVersion

end GatewaySync.CommandLine
