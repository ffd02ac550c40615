import DetectorControl.Bounds
import DetectorControl.Json.Record
import DetectorControl.Toml.Document

/-!
# Settings

The parts of a configuration that are used as they stand in the file: how much is logged, which
temperatures are safe, and how often autorun looks at them.
-/

namespace DetectorControl

inductive LogLevel where
  | trace
  | debug
  | info
  | warn
  | error
  deriving DecidableEq, Repr

namespace LogLevel

def all : List LogLevel := [trace, debug, info, warn, error]

def name : LogLevel → String
  | trace => "trace"
  | debug => "debug"
  | info => "info"
  | warn => "warn"
  | error => "error"

def ofName? (s : String) : Option LogLevel := all.find? (·.name == s)

/-- How the level stands in a log. -/
def label (l : LogLevel) : String := l.name.toUpper

def toJson (l : LogLevel) : Json := .string l.name

def ofTree? (t : Json.Tree) : Option LogLevel := t.choice?.bind ofName?

def ofToml? (v : Toml.Value) : Option LogLevel := v.choice?.bind ofName?

end LogLevel

/-- The sensor whose temperature decides. -/
inductive TemperatureSource where
  /-- Channels of the slow ADC, next to the converters. -/
  | board
  /-- The environmental sensor. -/
  | environment
  deriving DecidableEq, Repr

namespace TemperatureSource

def name : TemperatureSource → String
  | board => "temperature-pcb"
  | environment => "bme280"

def ofName? : String → Option TemperatureSource
  | "temperature-pcb" => some board
  | "bme280" => some environment
  | _ => none

def ofTree? (t : Json.Tree) : Option TemperatureSource := t.choice?.bind ofName?

def ofToml? (v : Toml.Value) : Option TemperatureSource := v.choice?.bind ofName?

end TemperatureSource

/-- The temperatures in degrees Celsius at which the detector may run. -/
structure TemperatureLimits where
  lower : Float := 0
  upper : Float := 60
  source : TemperatureSource := .board
  /-- The channels of the slow ADC that are looked at if they are the source. -/
  channels : List Nat := [0, 1]
  deriving BEq, Repr

namespace TemperatureLimits

/-- The limits themselves are inside. -/
def contains (l : TemperatureLimits) (t : Float) : Bool :=
  l.lower ≤ t && t ≤ l.upper

def names : List String := ["lower", "upper", "source", "channels"]

def toJson (l : TemperatureLimits) : Json :=
  .object [("lower", .float l.lower), ("upper", .float l.upper), ("source", .string l.source.name),
    ("channels", .array (l.channels.map .nat))]

def ofTree? (t : Json.Tree) : Option TemperatureLimits := do
  match ← t.closedRecord? names with
  | [lower, upper, source, channels] =>
    return {
      lower := ← Json.Tree.orElse lower 0 Json.Tree.float?
      upper := ← Json.Tree.orElse upper 60 Json.Tree.float?
      source := ← Json.Tree.orElse source .board TemperatureSource.ofTree?
      channels := ← Json.Tree.orElse channels [0, 1] (Json.Tree.list? (Json.Tree.nat? 255)) }
  | _ => none

def ofToml? (v : Toml.Value) : Option TemperatureLimits := do
  match ← v.record? true names with
  | (_, [lower, upper, source, channels]) =>
    return {
      lower := ← Toml.Value.orElse lower 0 Toml.Value.float?
      upper := ← Toml.Value.orElse upper 60 Toml.Value.float?
      source := ← Toml.Value.orElse source .board TemperatureSource.ofToml?
      channels := ← Toml.Value.orElse channels [0, 1] (Toml.Value.list? (Toml.Value.nat? 255)) }
  | _ => none

end TemperatureLimits

/-- Autorun's times in seconds. -/
structure AutorunSettings where
  /-- How long one output file is written before the next is begun. -/
  exposure : Nat := 1800
  /-- From one tick to the next. -/
  period : Nat := 15
  /-- The least time from one look at the sensors to the next. -/
  checkPeriod : Nat := 30
  deriving DecidableEq, Repr

namespace AutorunSettings

def ofToml? (v : Toml.Value) : Option AutorunSettings := do
  match ← v.record? true ["exposure_sec", "period_sec", "hk_check_period_sec"] with
  | (_, [exposure, period, checkPeriod]) =>
    let seconds := Toml.Value.nat? Bounds.natural64
    return {
      exposure := ← Toml.Value.orElse exposure 1800 seconds
      period := ← Toml.Value.orElse period 15 seconds
      checkPeriod := ← Toml.Value.orElse checkPeriod 30 seconds }
  | _ => none

end AutorunSettings

end DetectorControl
