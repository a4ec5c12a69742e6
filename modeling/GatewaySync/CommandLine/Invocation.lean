import GatewaySync.CommandLine.Switches
import GatewaySync.Settings.Basic
/-!
# Invocations

What a command line asks for: general switches, and either to run the controllers or to show
information.
-/
namespace GatewaySync.CommandLine

inductive Task where
  | run (ns : Option String)
  | info (json : Bool)
  deriving DecidableEq, Repr

structure Invocation where
  verbose : Bool
  root : Option String
  settings : Option String
  logLevel : Option LogLevel
  task : Task
  deriving DecidableEq, Repr

/-- A path is not empty. -/
def checkPath (value : String) : Except UsageError Unit := if value = "" then .error .noValue else .ok ()

def checkLevel (value : String) : Except UsageError Unit :=
  if (LogLevel.ofName? value).isSome then .ok () else .error .badValue

def mainCommand : Command where
  topic := .program
  about := ""
  ownSwitches := [
    { long := "verbose", letter := some 'v', role := .flag, about := "" },
    { long := "root", letter := some 'r', role := .valued "ROOT"
      about := "Directory holding `config.*` files", check := checkPath },
    { long := "log-level", letter := some 'l', role := .valued "LEVEL"
      about := "Overrides `log_level` from the settings", check := checkLevel },
    { long := "settings", letter := some 's', role := .valued "SETTINGS", about := "", check := checkPath }]
  subcommands := ["run", "r", "info", "help"]

def runCommand : Command where
  topic := .run
  about := "Run the Konnect controllers"
  ownSwitches := [
    { long := "namespace", letter := some 'n', role := .valued "NAMESPACE"
      about := "Watch a single namespace" }]
  subcommands := []

def infoCommand : Command where
  topic := .info
  about := "Show build information and effective settings"
  ownSwitches := [
    { long := "json", letter := none, role := .flag
      about := "Print settings as JSON instead of a summary" }]
  subcommands := []

def Command.words (c : Command) (args : List String) : Except UsageError Progress := do
  let (p, _) ← c.walk false Progress.start args
  p.settle

/-- What is asked for after `help`: at most the name of one subcommand. -/
def helpRequest (args : List String) : UsageError :=
  match args with
  | [] => .help .program
  | ["run"] => .help .run
  | ["r"] => .help .run
  | ["info"] => .help .info
  | ["help"] => .help .help
  | _ => .unknownCommand

def Task.ofWords (name : String) (args : List String) : Except UsageError Task :=
  match name with
  | "help" => .error (helpRequest args)
  | "info" => do return .info ((← infoCommand.words args).isGiven "json")
  | _ => do return .run ((← runCommand.words args).value? "namespace")

/-- Reads a command line. The subcommand comes first, then the general switches that are pending. -/
def Invocation.ofArguments (args : List String) : Except UsageError Invocation := do
  let (p, subcommand) ← mainCommand.walk false Progress.start args
  let task ← match subcommand with
    | some (name, rest) => (Task.ofWords name rest).map some
    | none => .ok none
  let p ← p.settle
  match task with
  | none => .error (if p.given = [] then .nothingGiven else .noCommand)
  | some task => return {
      verbose := p.isGiven "verbose"
      root := p.value? "root"
      settings := p.value? "settings"
      logLevel := (p.value? "log-level").bind LogLevel.ofName?
      task := task }

end GatewaySync.CommandLine
