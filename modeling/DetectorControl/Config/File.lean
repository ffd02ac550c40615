import DetectorControl.Entries
import DetectorControl.Config.Settings

/-!
# Configuration files

The sections of a configuration file as they are written, before anything is checked. Channels are
still the keys that were written.
-/

namespace DetectorControl

/-- `[hv]` -/
structure HighVoltageSection where
  /-- The DAC levels in mV that autorun sets. -/
  defaults : Option (Entries String Float)
  /-- Coefficients, from the constant on, of the polynomials that lead from a level to volts. -/
  conversion : Option (Entries String (List Float))
  deriving Repr

/-- `[limits]` -/
structure LimitsSection where
  temperature : Option TemperatureLimits := none
  /-- The highest voltages. -/
  highVoltage : Option (Entries String Float) := none
  deriving Repr

structure ConfigFile where
  detectorId : String
  repository : Option String := none
  logLevel : LogLevel := .info
  highVoltage : Option HighVoltageSection
  limits : LimitsSection := {}
  autorun : AutorunSettings := {}
  deriving Repr

namespace ConfigFile

/-- A table whose entries are all of one kind. -/
def entries? {α : Type} (read? : Toml.Value → Option α) (v : Toml.Value) :
    Option (Entries String α) :=
  (v.entries? read?).map Entries.ofList

def highVoltage? (v : Toml.Value) : Option HighVoltageSection := do
  match ← v.record? true ["default", "conversion"] with
  | (byName, [defaults, conversion]) =>
    return {
      defaults := ← Toml.Value.ifGiven byName defaults (entries? Toml.Value.float?)
      conversion := ← Toml.Value.ifGiven byName conversion
        (entries? (Toml.Value.list? Toml.Value.float?)) }
  | _ => none

def limits? (v : Toml.Value) : Option LimitsSection := do
  match ← v.record? true ["temperature", "hv"] with
  | (byName, [temperature, highVoltage]) =>
    return {
      temperature := ← Toml.Value.ifGiven byName temperature TemperatureLimits.ofToml?
      highVoltage := ← Toml.Value.ifGiven byName highVoltage (entries? Toml.Value.float?) }
  | _ => none

/-- The only section that may hold names of other programs. -/
def shared? (v : Toml.Value) : Option LogLevel := do
  match ← v.record? false ["log_level"] with
  | (_, [logLevel]) => Toml.Value.orElse logLevel .info LogLevel.ofToml?
  | _ => none

def ofTable? (t : Toml.Table) : Option ConfigFile := do
  match ← (Toml.Value.table .header t).record? true
    ["detector_id", "repository", "shared", "hv", "limits", "autorun"] with
  | (byName, [detectorId, repository, shared, highVoltage, limits, autorun]) =>
    return {
      detectorId := ← (← detectorId).string?
      repository := ← Toml.Value.ifGiven byName repository Toml.Value.string?
      logLevel := ← Toml.Value.orElse shared .info shared?
      highVoltage := ← Toml.Value.ifGiven byName highVoltage highVoltage?
      limits := ← Toml.Value.orElse limits {} limits?
      autorun := ← Toml.Value.orElse autorun {} AutorunSettings.ofToml? }
  | _ => none

/-- Reads the text of a file. -/
def ofText? (text : String) : Option ConfigFile :=
  (Toml.Document.parse? text).bind ofTable?

end ConfigFile

end DetectorControl
