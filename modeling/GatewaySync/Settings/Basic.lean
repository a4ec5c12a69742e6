/-!
# Settings of the operator

What a user may set, and what holds if nothing is set. Times are whole seconds.
-/
namespace GatewaySync

structure KonnectSettings where
  serverUrl : String
  token : String
  requestTimeout : UInt64
  deriving DecidableEq, Repr

structure OperatorSettings where
  syncPeriod : UInt64
  notReadyRequeue : UInt64
  errorBackoffInitial : UInt64
  errorBackoffMax : UInt64
  /-- Passes that run at the same time for one kind. -/
  concurrency : UInt16
  /-- The one namespace that is watched, or all of them. -/
  watched : Option String
  deriving DecidableEq, Repr

inductive LogLevel where
  | off
  | error
  | warn
  | info
  | debug
  | trace
  deriving DecidableEq, Repr

namespace LogLevel

def all : List LogLevel := [off, error, warn, info, debug, trace]

def name : LogLevel → String
  | off => "OFF"
  | error => "ERROR"
  | warn => "WARN"
  | info => "INFO"
  | debug => "DEBUG"
  | trace => "TRACE"

def rank : LogLevel → Nat
  | off => 0
  | error => 1
  | warn => 2
  | info => 3
  | debug => 4
  | trace => 5

def ofName? (s : String) : Option LogLevel :=
  all.find? fun level => level.name.toList = s.toList.map Char.toUpper

end LogLevel

structure Settings where
  logLevel : LogLevel
  konnect : KonnectSettings
  operator : OperatorSettings
  deriving DecidableEq, Repr

def KonnectSettings.default : KonnectSettings := ⟨"https://us.api.konghq.com", "", 30⟩

def OperatorSettings.default : OperatorSettings := ⟨60, 5, 1, 300, 4, none⟩

def Settings.default : Settings := ⟨.info, KonnectSettings.default, OperatorSettings.default⟩

end GatewaySync
