import GatewaySync.Json.Decode
import GatewaySync.Settings.Basic
/-!
# Settings in JSON

Every setting has a default. Numbers are whole seconds, levels are named in any case.
-/
namespace GatewaySync

open Json (Decoder always)

def seconds : Decoder UInt64 := fun v => (Decoder.nat 64 v).map Nat.toUInt64

def smallWord : Decoder UInt16 := fun v => (Decoder.nat 16 v).map Nat.toUInt16

def ofSeconds (n : UInt64) : Json := .int n.toNat

namespace KonnectSettings

def decode : Decoder KonnectSettings := fun v => do
  let fs ← Json.fields ["server_url", "token", "request_timeout_secs"] v
  some {
    serverUrl := ← fs.defaulted "server_url" default.serverUrl Decoder.string
    token := ← fs.defaulted "token" default.token Decoder.string
    requestTimeout := ← fs.defaulted "request_timeout_secs" default.requestTimeout seconds }

def encode (s : KonnectSettings) : Json :=
  .object [always "server_url" (.str s.serverUrl), always "token" (.str s.token),
    always "request_timeout_secs" (ofSeconds s.requestTimeout)]

end KonnectSettings

namespace OperatorSettings

def fieldNames : List String :=
  ["sync_period_secs", "not_ready_requeue_secs", "error_backoff_initial_secs",
    "error_backoff_max_secs", "concurrency", "namespace"]

def decode : Decoder OperatorSettings := fun v => do
  let fs ← Json.fields fieldNames v
  some {
    syncPeriod := ← fs.defaulted "sync_period_secs" default.syncPeriod seconds
    notReadyRequeue := ← fs.defaulted "not_ready_requeue_secs" default.notReadyRequeue seconds
    errorBackoffInitial :=
      ← fs.defaulted "error_backoff_initial_secs" default.errorBackoffInitial seconds
    errorBackoffMax := ← fs.defaulted "error_backoff_max_secs" default.errorBackoffMax seconds
    concurrency := ← fs.defaulted "concurrency" default.concurrency smallWord
    watched := ← fs.optional "namespace" Decoder.string }

def encode (s : OperatorSettings) : Json :=
  .object [always "sync_period_secs" (ofSeconds s.syncPeriod),
    always "not_ready_requeue_secs" (ofSeconds s.notReadyRequeue),
    always "error_backoff_initial_secs" (ofSeconds s.errorBackoffInitial),
    always "error_backoff_max_secs" (ofSeconds s.errorBackoffMax),
    always "concurrency" (.int s.concurrency.toNat),
    always "namespace" ((s.watched.map Json.str).getD .null)]

end OperatorSettings

namespace Settings

def decodeLevel : Decoder LogLevel := fun v => (Decoder.alternative v).bind LogLevel.ofName?

def decode : Decoder Settings := fun v => do
  let fs ← Json.fields ["log_level", "konnect", "operator"] v
  some {
    logLevel := ← fs.defaulted "log_level" default.logLevel decodeLevel
    konnect := ← fs.defaulted "konnect" default.konnect KonnectSettings.decode
    operator := ← fs.defaulted "operator" default.operator OperatorSettings.decode }

def encode (s : Settings) : Json :=
  .object [always "log_level" (.str s.logLevel.name), always "konnect" s.konnect.encode,
    always "operator" s.operator.encode]

end Settings

end GatewaySync
