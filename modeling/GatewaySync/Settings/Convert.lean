import GatewaySync.Number.Decimal
import GatewaySync.Number.Range
import GatewaySync.Number.Shortest
import GatewaySync.Settings.Basic
import GatewaySync.Settings.Layer
import GatewaySync.Text.Quoted
/-!
# Settings from layers

Numbers, truth values and texts stand in for each other where one is wanted and the other is found.
Settings are read from a table, or from an array that lists them in order; missing ones have their
defaults.
-/
namespace GatewaySync

inductive SettingsFault where
  /-- A value of another kind than the one that is wanted, under its path. -/
  | mismatch (path : String) (source : Option String) (found wanted : String)
  | notGroup (found group : String)
  | noSuchLevel (name : String)
  | notLevel
  deriving DecidableEq, Repr

namespace SettingsFault

def message : SettingsFault → String
  | mismatch path source found wanted =>
    "invalid type: " ++ found ++ ", expected " ++ wanted ++
      (if path = "" then "" else " for key `" ++ path ++ "`") ++
      (source.map (" in " ++ ·)).getD ""
  | notGroup found group => "invalid type: " ++ found ++ ", expected struct " ++ group
  | noSuchLevel name => "enum LevelFilter does not have variant constructor " ++ name
  | notLevel =>
    "value of enum LevelFilter should be represented by either string or table with exactly one key"

/-- The fault as seen from outside the entry that it is under. -/
def under (segment : String) : SettingsFault → SettingsFault
  | mismatch path source found wanted =>
    let point := if path = "" ∨ path.startsWith "[" then "" else "."
    mismatch (segment ++ point ++ path) source found wanted
  | other => other

end SettingsFault

abbrev Conversion (α : Type) := Layered → Except SettingsFault α

namespace Layered

def source : Layered → Option String
  | leaf source _ => source
  | table _ => none

def described : Layered → String
  | leaf _ (.bool b) => "boolean `" ++ toString b ++ "`"
  | leaf _ (.int n) => "64-bit integer `" ++ toString n ++ "`"
  | leaf _ (.float bits) => "floating point `" ++ Shortest.plain bits ++ "`"
  | leaf _ (.str s) => "string " ++ Text.quoted s
  | leaf _ (.arr _) => "sequence"
  | leaf _ (.obj _) => "map"
  | leaf _ _ => "unit value"
  | table _ => "map"

def mismatch {α : Type} (v : Layered) (wanted : String) : Except SettingsFault α :=
  .error (.mismatch "" v.source v.described wanted)

def withFraction (bits : UInt64) : String :=
  let text := Shortest.plain bits
  if Binary64.isFinite bits ∧ ¬ text.contains '.' then text ++ ".0" else text

/-- A value that is no group of settings, as faults name it. -/
def describedOutsideGroup : Layered → String
  | leaf _ (.int n) => "integer `" ++ toString n ++ "`"
  | leaf _ (.float bits) => "floating point `" ++ withFraction bits ++ "`"
  | other => other.described

/-- A text; numbers and truth values are written out. -/
def toText : Conversion String
  | leaf _ (.str s) => .ok s
  | leaf _ (.bool b) => .ok (toString b)
  | leaf _ (.int n) => .ok (toString n)
  | leaf _ (.float bits) => .ok (Shortest.plain bits)
  | other => other.mismatch "a string"

def toOptionalText : Conversion (Option String)
  | leaf _ .null => .ok none
  | other => other.toText.map some

/-- A numeral of 64 bits, which may have a plus in front. -/
def numeral? (s : String) : Option Nat := do
  let digits := match s.toList with
    | '+' :: rest => rest
    | cs => cs
  guard (digits.all Char.isDigit)
  (Text.numeral? 10 digits).filter (· < wordCount 64)

def wordNumber? (s : String) : Option Nat :=
  let word := foldKey s
  if ["true", "on", "yes"].contains word then some 1
  else if ["false", "off", "no"].contains word then some 0
  else numeral? s

/-- A natural number of 64 bits; a double is rounded and held between the bounds. -/
def toNumber (v : Layered) : Except SettingsFault Nat :=
  match v with
  | leaf _ (.int n) =>
    if 0 ≤ n ∧ n < wordCount 64 then .ok n.toNat else v.mismatch "an unsigned 64 bit or less integer"
  | leaf _ (.bool b) => .ok b.toNat
  | leaf _ (.float bits) => .ok (bits |> Binary64.toNatUpTo (wordCount 64 - 1))
  | leaf _ (.str s) => match wordNumber? s with
    | some n => .ok n
    | none => v.mismatch "an integer"
  | other => other.mismatch "an integer"

def toSeconds (v : Layered) : Except SettingsFault UInt64 := v.toNumber.map Nat.toUInt64

def toSmallWord (v : Layered) : Except SettingsFault UInt16 := do
  let n ← v.toNumber
  if n < wordCount 16 then .ok n.toUInt16
  else .error (.mismatch "" none ("64-bit unsigned integer `" ++ toString n ++ "`")
    "an unsigned 16 bit integer")

def levelNamed (name : String) : Except SettingsFault LogLevel :=
  match LogLevel.ofName? name with
  | some level => .ok level
  | none => .error (.noSuchLevel name)

/-- A level by its name, or by the only key of a table. -/
def toLevel : Conversion LogLevel
  | leaf _ (.str name) => levelNamed name
  | leaf _ (.obj [(name, _)]) => levelNamed name
  | table [(name, _)] => levelNamed name
  | _ => .error .notLevel

/-- The entries of a group, each with the path segment that leads to it. -/
structure Group where
  entries : List (String × String × Layered)

def toGroup (group : String) (names : List String) : Conversion Group
  | table entries => .ok ⟨entries.map fun (name, v) => (name, name, v)⟩
  | leaf source (.arr items) =>
    let segments := (List.range items.length).map fun i => "[" ++ toString i ++ "]"
    .ok ⟨names.zip (segments.zip (items.map (ofJson (source.getD ""))))⟩
  | other => .error (.notGroup other.describedOutsideGroup group)

def Group.get {α : Type} (g : Group) (name : String) (default : α) (convert : Conversion α) :
    Except SettingsFault α :=
  match g.entries.lookup name with
  | some (segment, v) => (convert v).mapError (·.under segment)
  | none => .ok default

def toKonnect : Conversion KonnectSettings := fun v => do
  let g ← v.toGroup "KonnectArgs" ["server_url", "token", "request_timeout_secs"]
  let default := KonnectSettings.default
  .ok {
    serverUrl := ← g.get "server_url" default.serverUrl toText
    token := ← g.get "token" default.token toText
    requestTimeout := ← g.get "request_timeout_secs" default.requestTimeout toSeconds }

def toOperator : Conversion OperatorSettings := fun v => do
  let g ← v.toGroup "OperatorArgs" ["sync_period_secs", "not_ready_requeue_secs",
    "error_backoff_initial_secs", "error_backoff_max_secs", "concurrency", "namespace"]
  let default := OperatorSettings.default
  .ok {
    syncPeriod := ← g.get "sync_period_secs" default.syncPeriod toSeconds
    notReadyRequeue := ← g.get "not_ready_requeue_secs" default.notReadyRequeue toSeconds
    errorBackoffInitial :=
      ← g.get "error_backoff_initial_secs" default.errorBackoffInitial toSeconds
    errorBackoffMax := ← g.get "error_backoff_max_secs" default.errorBackoffMax toSeconds
    concurrency := ← g.get "concurrency" default.concurrency toSmallWord
    watched := ← g.get "namespace" default.watched toOptionalText }

def toSettings : Conversion Settings := fun v => do
  let g ← v.toGroup "Settings" ["log_level", "konnect", "operator"]
  let default := Settings.default
  .ok {
    logLevel := ← g.get "log_level" default.logLevel toLevel
    konnect := ← g.get "konnect" default.konnect toKonnect
    operator := ← g.get "operator" default.operator toOperator }

end Layered

end GatewaySync
