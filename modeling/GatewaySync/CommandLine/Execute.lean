import GatewaySync.BuildInfo
import GatewaySync.CommandLine.Help
import GatewaySync.CommandLine.LogFilter
import GatewaySync.Json.Printer
import GatewaySync.Settings.Codec
import GatewaySync.Settings.EnvFile
import GatewaySync.Settings.Load
import GatewaySync.Sync.Error
/-!
# Execution of a command line

Variables come from the environment and a file of them, then the command line is read, the settings are
loaded, and the task is done. Neither the output nor the log shows the token.
-/
namespace GatewaySync.CommandLine

/-- What the user gets to see of a run. -/
structure Outcome where
  exitCode : UInt32
  output : String
  logs : List LogEvent
  errors : List String
  deriving DecidableEq, Repr

/-- Why a task that was asked for is not done. -/
inductive Failure where
  | settings (error : LoadError)
  | config (cause : String)
  | operator (error : SyncError)
  deriving DecidableEq, Repr

def Failure.message : Failure → String
  | settings error => error.message
  | config cause => "Unable to initialize config: " ++ cause
  | operator error => "Operator failed: " ++ error.message

def Failure.tokenMissing : Failure := .config "konnect.token is not set (KSYNC__KONNECT__TOKEN)"

def lines (xs : List String) : String := String.join (xs.map (· ++ "\n"))

namespace Outcome

/-- The outcome for a command line that is not carried out. -/
def ofUsage : UsageError → Outcome
  | .help topic => ⟨0, lines topic.helpLines, [], []⟩
  | .version topic => ⟨0, lines [topic.versionLine], [], []⟩
  | _ => ⟨2, "", [], []⟩

def ofResult (logs : List LogEvent) : Except Failure String → Outcome
  | .ok output => ⟨0, output, logs, []⟩
  | .error failure => ⟨1, "", logs, ["Error: " ++ failure.message]⟩

end Outcome

/-- The settings without the token. -/
def redacted (s : Settings) : Settings :=
  if s.konnect.token = "" then s
  else { s with konnect := { s.konnect with token := "<redacted>" } }

def summary (s : Settings) : List String :=
  ["server:    " ++ s.konnect.serverUrl,
   "namespace: " ++ s.operator.watched.getD "*",
   "sync:      " ++ toString s.operator.syncPeriod.toNat ++ "s",
   "log level: " ++ s.logLevel.name]

def information (build : BuildInfo) (json : Bool) (s : Settings) : String :=
  let shown := redacted s
  lines ((programName ++ " " ++ build.text) ::
    if json then [shown.encode.pretty] else summary shown)

def operatorSettings (s : Settings) (ns : Option String) : Except Failure Settings :=
  if s.konnect.token = "" then .error .tokenMissing
  else .ok { s with operator := { s.operator with watched := ns.or s.operator.watched } }

/-- The level up to which events are shown if no log filter is set. -/
def Invocation.level (i : Invocation) (s : Settings) : LogLevel :=
  i.logLevel.getD (if i.verbose then .debug else s.logLevel)

def startEvent (build : BuildInfo) : LogEvent :=
  ⟨.debug, "konnect_cli::cli", "starting ksync", [("version", build.text)]⟩

def logFilter (environment : List (String × String)) (level : LogLevel) : LogFilter :=
  LogFilter.ofText level ((environment.lookup "RUST_LOG").getD "")

/-- Does a task. Controllers are started by `operate`. -/
def Task.perform (build : BuildInfo) (operate : Settings → Except SyncError String) (s : Settings) :
    Task → Except Failure String
  | .info json => .ok (information build json s)
  | .run ns => do
    let s ← operatorSettings s ns
    (operate s).mapError .operator

/-- Carries out what was asked for, with the variables of the file already in the environment. -/
def Invocation.execute (build : BuildInfo) (operate : Settings → Except SyncError String)
    (t : FileTree) (environment : List (String × String)) (i : Invocation) : Outcome :=
  match Settings.load t environment (i.settings.or i.root) with
  | .error e => .ofResult [] (.error (.settings e))
  | .ok s =>
    let filter := logFilter environment (i.level s)
    let logs := [startEvent build].filter filter.shows
    .ofResult logs (i.task.perform build operate s)

def execute (build : BuildInfo) (operate : Settings → Except SyncError String) (t : FileTree)
    (environment : List (String × String)) (args : List String) : Outcome :=
  match Invocation.ofArguments args with
  | .error e => .ofUsage e
  | .ok i => i.execute build operate t (EnvFile.apply t environment)

end GatewaySync.CommandLine
