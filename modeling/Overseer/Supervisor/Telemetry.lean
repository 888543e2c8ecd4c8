import Overseer.Config.Basic
import Overseer.Json.Value
import Overseer.Registry
import Overseer.Text.Quoted

/-!
# Telemetry

A telemetry document is built by appenders, each registered under a name. An appender may set and
remove any key of the document; what it appends may depend on the vital readings of the device.
-/
namespace Overseer

/-- The readings of the device that appenders may use. -/
structure Vitals where
  /-- Whole seconds since the start. -/
  uptime : UInt64 := 0
  /-- Whether the onboard LED is on. -/
  ledOn : Bool := false
deriving DecidableEq, Repr, Inhabited

/-- A named appender. -/
structure Telemetry where
  /-- The name of the entry. -/
  id : String
  /-- The document after the entry's readings were added, given the entry's own name. -/
  append : Vitals → String → Document → Document

namespace Telemetry

/-- The entry as it is shown to a developer. -/
def render (entry : Telemetry) : String :=
  "TelemetryEntry \x7b telemetry_id: " ++ Text.quote entry.id ++ ", .. \x7d"

instance : Registrable Telemetry where
  id := Telemetry.id
  registry := "Tele"
  kind := "telemetry"

/-- Run the appender of an entry. -/
def run (entry : Telemetry) (vitals : Vitals) (document : Document) : Document :=
  entry.append vitals entry.id document

end Telemetry

/-- The table of telemetry entries. -/
abbrev TelemetryTable := Registry Telemetry telemetryLimit

namespace TelemetryTable

/-- Run every appender, in the order of registration. -/
def appendAll (table : TelemetryTable) (vitals : Vitals) (document : Document) : Document :=
  table.entries.foldl (fun document entry => entry.run vitals document) document

/-- Run the appender of a name: whether there is one, and the document after it. -/
def appendOne (table : TelemetryTable) (vitals : Vitals) (id : String) (document : Document) :
    Bool × Document :=
  match Registry.find? table id with
  | some entry => (true, entry.run vitals document)
  | none => (false, document)

end TelemetryTable

end Overseer
