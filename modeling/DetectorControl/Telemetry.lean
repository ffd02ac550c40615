import DetectorControl.Bounds
import DetectorControl.Json.Record

/-!
# Telemetry

What the housekeeping sensors, the data acquisition and the high-voltage supply report, as they
stand in the payload of replies. Each record can be written and read back.
-/

namespace DetectorControl

/-- One channel of the slow ADC. -/
structure Measurement where
  /-- The count of the converter. -/
  raw : Nat
  /-- The input in V. -/
  voltage : Float
  /-- The input in the units given beside it. -/
  converted : Float
  units : String
  deriving BEq, Repr

namespace Measurement

def toJson (m : Measurement) : Json :=
  .object [("raw", .nat m.raw), ("voltage", .float m.voltage),
    ("converted_value", .float m.converted), ("units", .string m.units)]

def ofTree? (t : Json.Tree) : Option Measurement := do
  match ← t.record? ["raw", "voltage", "converted_value", "units"] with
  | [raw, voltage, converted, units] =>
    return {
      raw := ← (← raw).nat? Bounds.natural32
      voltage := ← (← voltage).float?
      converted := ← (← converted).float?
      units := ← (← units).string? }
  | _ => none

end Measurement

structure Quantity where
  value : Float
  units : String
  deriving BEq, Repr

namespace Quantity

def toJson (q : Quantity) : Json :=
  .object [("value", .float q.value), ("units", .string q.units)]

def ofTree? (t : Json.Tree) : Option Quantity := do
  match ← t.record? ["value", "units"] with
  | [value, units] => return ⟨← (← value).float?, ← (← units).string?⟩
  | _ => none

end Quantity

/-- A reading of the BME280 environmental sensor. -/
structure Environment where
  temperature : Quantity
  pressure : Quantity
  humidity : Quantity
  deriving BEq, Repr

namespace Environment

def toJson (e : Environment) : Json :=
  .object [("temperature", e.temperature.toJson), ("pressure", e.pressure.toJson),
    ("humidity", e.humidity.toJson)]

def ofTree? (t : Json.Tree) : Option Environment := do
  match ← t.record? ["temperature", "pressure", "humidity"] with
  | [temperature, pressure, humidity] =>
    return {
      temperature := ← Quantity.ofTree? (← temperature)
      pressure := ← Quantity.ofTree? (← pressure)
      humidity := ← Quantity.ofTree? (← humidity) }
  | _ => none

end Environment

/-- A switch, or an output that can be switched. -/
inductive OnOff where
  | on
  | off
  deriving DecidableEq, Repr

namespace OnOff

def name : OnOff → String
  | on => "on"
  | off => "off"

def ofName? : String → Option OnOff
  | "on" => some on
  | "off" => some off
  | _ => none

def ofBool (b : Bool) : OnOff := if b then on else off

def toJson (s : OnOff) : Json := .string s.name

def ofTree? (t : Json.Tree) : Option OnOff := t.choice?.bind ofName?

end OnOff

/-- What one housekeeping round has read. -/
structure Readout where
  /-- The channels of the slow ADC by their decimal number. -/
  slowAdc : Entries String Measurement
  /-- Nothing if the sensor could not be read. -/
  environment : Option Environment
  slideSwitch : OnOff
  deriving BEq, Repr

namespace Readout

def toJson (r : Readout) : Json :=
  .object (("slow_adc", .object (r.slowAdc.map fun c => (c.1, c.2.toJson)))
    :: (r.environment.map fun e => ("bme280", e.toJson)).toList
    ++ [("slide_switch", r.slideSwitch.toJson)])

def ofTree? (t : Json.Tree) : Option Readout := do
  match ← t.record? ["slow_adc", "bme280", "slide_switch"] with
  | [slowAdc, environment, slideSwitch] =>
    return {
      slowAdc := ← Json.Tree.orElse slowAdc [] (Json.Tree.members? Measurement.ofTree?)
      environment := ← Json.Tree.orElse environment none (Json.Tree.nullable? Environment.ofTree?)
      slideSwitch := ← OnOff.ofTree? (← slideSwitch) }
  | _ => none

/-- The converted value of a channel. -/
def value? (r : Readout) (channel : Nat) : Option Float :=
  (r.slowAdc.get? (toString channel)).map Measurement.converted

end Readout

/-- The payload of a housekeeping reply. -/
structure Snapshot where
  /-- Seconds since 1970. -/
  unixTime : Int
  time : String
  readout : Readout
  deriving BEq, Repr

namespace Snapshot

def toJson (s : Snapshot) : Json :=
  .object [("unixtime", .int s.unixTime), ("time", .string s.time), ("hk", s.readout.toJson)]

def ofTree? (t : Json.Tree) : Option Snapshot := do
  match ← t.record? ["unixtime", "time", "hk"] with
  | [unixTime, time, readout] =>
    return {
      unixTime := ← (← unixTime).int? Bounds.least64 Bounds.greatest64
      time := ← Json.Tree.orElse time "" Json.Tree.string?
      readout := ← Readout.ofTree? (← readout) }
  | _ => none

end Snapshot

/-- The run state of the data acquisition. In every state but `paused` it records events. -/
inductive RunState where
  | running
  | paused
  | other
  deriving DecidableEq, Repr

namespace RunState

def name : RunState → String
  | running => "Running"
  | paused => "Paused"
  | other => "Other"

def ofName : String → RunState
  | "Running" => running
  | "Paused" => paused
  | _ => other

def isPaused (s : RunState) : Bool := s == paused

def toJson (s : RunState) : Json := .string s.name

def ofTree? (t : Json.Tree) : Option RunState := t.choice?.map ofName

end RunState

/-- The payload of a status reply of the data acquisition. -/
structure RunStatus where
  state : RunState
  outputFile : String
  /-- Seconds since the output file was opened; negative if unknown. -/
  elapsed : Float
  events : Nat
  unixTime : Int
  deriving BEq, Repr

namespace RunStatus

def toJson (s : RunStatus) : Json :=
  .object [("daqStatus", s.state.toJson), ("outputFileName", .string s.outputFile),
    ("elapsedTimeOfCurrentOutputFile", .float s.elapsed), ("nEvents", .nat s.events),
    ("unixTime", .int s.unixTime)]

def ofTree? (t : Json.Tree) : Option RunStatus := do
  match ← t.record? ["daqStatus", "outputFileName", "elapsedTimeOfCurrentOutputFile", "nEvents",
    "unixTime"] with
  | [state, outputFile, elapsed, events, unixTime] =>
    return {
      state := ← RunState.ofTree? (← state)
      outputFile := ← Json.Tree.orElse outputFile "" Json.Tree.string?
      elapsed := ← Json.Tree.orElse elapsed (-1) Json.Tree.float?
      events := ← Json.Tree.orElse events 0 (Json.Tree.nat? Bounds.natural64)
      unixTime := ← Json.Tree.orElse unixTime 0 (Json.Tree.int? Bounds.least64 Bounds.greatest64) }
  | _ => none

end RunStatus

/-- One channel of the high-voltage supply: its output, and the DAC level that sets its voltage. -/
structure ChannelStatus where
  output : OnOff
  level : Float
  deriving BEq, Repr

namespace ChannelStatus

def toJson (s : ChannelStatus) : Json :=
  .object [("status", s.output.toJson), ("value_in_mV", .float s.level)]

def ofTree? (t : Json.Tree) : Option ChannelStatus := do
  match ← t.record? ["status", "value_in_mV"] with
  | [output, level] => return ⟨← OnOff.ofTree? (← output), ← (← level).float?⟩
  | _ => none

end ChannelStatus

end DetectorControl
