import Turnstile.Json.Decode
import Turnstile.Json.Value

/-!
# Service configuration

`Config` gathers the settings of every part of the service, each with the
value used when a configuration text leaves it out: the gate (credential
header, status-cache lifetime, version root of the paths, whether entitlement
is required), the meter (workers, queue capacity), the drain (interval,
bucket, lease name and lifetime, whether to drain at shutdown), the
blocklist (cache lifetime), log shipping (switch, file, bucket, interval),
the log level and an optional database file. Durations are whole seconds.

`Config.reader` reads a configuration text; every section may be given as an
object or as an array by position, and missing parts keep their defaults.
`Config.check` names the first rule a configuration breaks, in a fixed
order: workers, queue capacity, drain interval, lease lifetime, shipping
interval (only when shipping is on), header.
-/

namespace Turnstile

/-- Settings of the authorization gate. -/
structure GateSettings where
  header : String := "X-API-Key"
  statusTtl : Nat := 86400
  versionRoot : String := "/api/v2"
  requireEntitlement : Bool := false
  deriving DecidableEq, Repr, Inhabited

/-- Settings of the access meter. -/
structure MeterSettings where
  workers : Nat := 4
  queueCapacity : Nat := 1024
  deriving DecidableEq, Repr, Inhabited

/-- Settings of the archival drain. -/
structure DrainSettings where
  interval : Nat := 1800
  bucket : String := "user-logs"
  leaseName : String := "drain-lease:endpoint:/detail/news:"
  leaseTtl : Nat := 600
  drainOnShutdown : Bool := true
  deriving DecidableEq, Repr, Inhabited

/-- Settings of the address blocklist. -/
structure BlocklistSettings where
  cacheTtl : Nat := 3600
  deriving DecidableEq, Repr, Inhabited

/-- Settings of log shipping. -/
structure ShippingSettings where
  enabled : Bool := false
  file : String := "feed-api.log"
  bucket : String := "app-logs"
  interval : Nat := 20
  deriving DecidableEq, Repr, Inhabited

/-- The whole configuration of the service. -/
structure Config where
  gate : GateSettings := {}
  meter : MeterSettings := {}
  drain : DrainSettings := {}
  blocklist : BlocklistSettings := {}
  shipping : ShippingSettings := {}
  logLevel : String := "info"
  database : Option String := none
  deriving DecidableEq, Repr, Inhabited

/-- Shipping switched on for a file, everything else at its default. -/
def ShippingSettings.enabledFor (file : String) : ShippingSettings := { enabled := true, file }

/-- A broken rule of the configuration. -/
inductive ConfigFault where
  | noWorkers
  | noQueue
  | drainInterval
  | leaseTtl
  | shippingInterval
  | emptyHeader
  deriving DecidableEq, Repr

/-- The wording of a broken rule. -/
def ConfigFault.text : ConfigFault → String
  | .noWorkers => "meter.workers must be at least 1"
  | .noQueue => "meter.queue_capacity must be at least 1"
  | .drainInterval => "drain.interval must be positive"
  | .leaseTtl => "drain.lease_ttl must be positive"
  | .shippingInterval => "log_shipping.interval must be positive"
  | .emptyHeader => "gate.header must not be empty"

namespace Config

/-- The first rule the configuration breaks, if any. -/
def check (c : Config) : Option ConfigFault :=
  if c.meter.workers = 0 then some .noWorkers
  else if c.meter.queueCapacity = 0 then some .noQueue
  else if c.drain.interval = 0 then some .drainInterval
  else if c.drain.leaseTtl = 0 then some .leaseTtl
  else if c.shipping.enabled ∧ c.shipping.interval = 0 then some .shippingInterval
  else if c.gate.header = "" then some .emptyHeader
  else none

/-- The JSON view of the drain settings. -/
def drainView (d : DrainSettings) : Json :=
  .object [("interval", .nat d.interval), ("bucket", .string d.bucket),
    ("lease_name", .string d.leaseName), ("lease_ttl", .nat d.leaseTtl),
    ("drain_on_shutdown", .bool d.drainOnShutdown)]

/-- The JSON view of a configuration, section by section. -/
def view (c : Config) : Json :=
  .object [
    ("gate", .object [("header", .string c.gate.header), ("status_ttl", .nat c.gate.statusTtl),
      ("version_prefix", .string c.gate.versionRoot),
      ("require_entitlement", .bool c.gate.requireEntitlement)]),
    ("meter", .object [("workers", .nat c.meter.workers),
      ("queue_capacity", .nat c.meter.queueCapacity)]),
    ("drain", drainView c.drain),
    ("blocklist", .object [("cache_ttl", .nat c.blocklist.cacheTtl)]),
    ("log_shipping", .object [("enabled", .bool c.shipping.enabled),
      ("file", .string c.shipping.file), ("bucket", .string c.shipping.bucket),
      ("interval", .nat c.shipping.interval)]),
    ("log_level", .string c.logLevel),
    ("database", Json.opt .string c.database)]

end Config

namespace Json.Reader

/-- A record whose fields all have defaults: `slots` names each field with the reader that
stores it. From an array the fields are taken by position until the array ends. -/
def defaulted {σ : Type} (name : String) (init : σ) (slots : List (String × (σ → Reader σ))) :
    Reader σ :=
  record name
    (do
      let rec bySeq : Bool → List (String × (σ → Reader σ)) → σ → Reader σ
        | _, [], s => return s
        | first, (_, r) :: more, s => do
          match ← element first (r s) with
          | some s' => bySeq false more s'
          | none => return s
      bySeq true slots init)
    (do
      let (s, _) ← fields (fun k (st : σ × List String) => do
          match slots.find? (·.1 == k) with
          | some (_, r) =>
            if st.2.contains k then duplicate k
            else
              let s' ← value (r st.1)
              return (s', k :: st.2)
          | none => do value skipValue; return st) (init, [])
      return s)

/-- Whole seconds. -/
def seconds : Reader Nat := word64 "u64"

/-- A count of items. -/
def count : Reader Nat := word64 "usize"

/-- A file path. -/
def path : Reader String := string "path string"

end Json.Reader

open Json Reader

/-- Reads gate settings. -/
def GateSettings.reader : Reader GateSettings :=
  defaulted "GateConfig" {} [
    ("header", fun s => return { s with header := ← string }),
    ("status_ttl", fun s => return { s with statusTtl := ← seconds }),
    ("version_prefix", fun s => return { s with versionRoot := ← string }),
    ("require_entitlement", fun s => return { s with requireEntitlement := ← bool })]

/-- Reads meter settings. -/
def MeterSettings.reader : Reader MeterSettings :=
  defaulted "MeterConfig" {} [
    ("workers", fun s => return { s with workers := ← count }),
    ("queue_capacity", fun s => return { s with queueCapacity := ← count })]

/-- Reads drain settings. -/
def DrainSettings.reader : Reader DrainSettings :=
  defaulted "DrainConfig" {} [
    ("interval", fun s => return { s with interval := ← seconds }),
    ("bucket", fun s => return { s with bucket := ← string }),
    ("lease_name", fun s => return { s with leaseName := ← string }),
    ("lease_ttl", fun s => return { s with leaseTtl := ← seconds }),
    ("drain_on_shutdown", fun s => return { s with drainOnShutdown := ← bool })]

/-- Reads blocklist settings. -/
def BlocklistSettings.reader : Reader BlocklistSettings :=
  defaulted "BlocklistConfig" {} [
    ("cache_ttl", fun s => return { s with cacheTtl := ← seconds })]

/-- Reads log-shipping settings. -/
def ShippingSettings.reader : Reader ShippingSettings :=
  defaulted "LogShipConfig" {} [
    ("enabled", fun s => return { s with enabled := ← bool }),
    ("file", fun s => return { s with file := ← path }),
    ("bucket", fun s => return { s with bucket := ← string }),
    ("interval", fun s => return { s with interval := ← seconds })]

/-- Reads a whole configuration. -/
def Config.reader : Reader Config :=
  defaulted "AppConfig" {} [
    ("gate", fun s => return { s with gate := ← GateSettings.reader }),
    ("meter", fun s => return { s with meter := ← MeterSettings.reader }),
    ("drain", fun s => return { s with drain := ← DrainSettings.reader }),
    ("blocklist", fun s => return { s with blocklist := ← BlocklistSettings.reader }),
    ("log_shipping", fun s => return { s with shipping := ← ShippingSettings.reader }),
    ("log_level", fun s => return { s with logLevel := ← string }),
    ("database", fun s => return { s with database := ← option path })]

/-- A configuration text read and checked; a failure is the message of the broken rule or of
the unreadable text. -/
def Config.ofText (s : String) : Except String Config :=
  match Reader.whole Config.reader s with
  | .error e => .error e.message
  | .ok c =>
    match c.check with
    | some f => .error f.text
    | none => .ok c

end Turnstile
