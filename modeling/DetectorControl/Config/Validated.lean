import DetectorControl.Config.File
import DetectorControl.Decimal.Layout
import DetectorControl.Text.Blank

/-!
# Configurations

A configuration that has passed all checks, and the questions that the programs ask it. The checks
have a fixed order, and the first that fails is reported.
-/

namespace DetectorControl

/-- Why a configuration is invalid. -/
inductive ConfigFlaw where
  | emptyDetectorId
  | noHighVoltage
  | invalidChannel (sectionName key : String)
  | levelOutOfRange (channel : Nat) (level : Float)
  | temperatureRange (lower upper : Float)
  | zeroPeriod
  deriving Repr

def ConfigFlaw.message : ConfigFlaw → String
  | emptyDetectorId => "detector_id cannot be empty"
  | noHighVoltage => "no [hv] section"
  | invalidChannel sectionName key => sectionName ++ ": invalid channel '" ++ key ++ "'"
  | levelOutOfRange channel level =>
    "hv.default for channel " ++ toString channel ++ " (" ++ Decimal.text level ++
      " mV) outside DAC range"
  | temperatureRange lower upper =>
    "temperature lower limit " ++ Decimal.text lower ++ " exceeds upper limit " ++ Decimal.text upper
  | zeroPeriod => "autorun periods must be positive"

inductive ConfigError where
  | fileNotFound
  | parse (detail : String)
  | validation (detail : String)
  deriving DecidableEq, Repr

namespace ConfigError

def kind : ConfigError → String
  | fileNotFound => "FileNotFound"
  | parse _ => "ParseError"
  | validation _ => "ValidationError"

def message : ConfigError → String
  | fileNotFound => "Configuration file not found"
  | parse detail => "Failed to parse configuration: " ++ detail
  | validation detail => "Configuration validation failed: " ++ detail

end ConfigError

/-- The number of high-voltage channels. -/
def channelCount : Nat := 2

/-- The levels that the DAC can be set to, in mV. -/
def levelMin : Float := 0

def levelMax : Float := 3300

def levelInRange (level : Float) : Bool :=
  levelMin ≤ level && level ≤ levelMax

structure Config where
  detectorId : String
  /-- Where the detector's software is kept. -/
  repository : Option String
  logLevel : LogLevel
  defaults : Entries Nat Float
  conversion : Option (Entries Nat (List Float))
  limits : Option (Entries Nat Float)
  temperature : Option TemperatureLimits
  autorun : AutorunSettings
  deriving Repr

namespace Config

/-- The channel that a key denotes: a decimal number, with blanks around it, a plus sign and leading
zeros allowed. -/
def channelOf? (key : String) : Option Nat :=
  let cs := Text.trimList key.toList
  let cs := if cs.head? = some '+' then cs.tail else cs
  if cs.isEmpty || cs.any fun c => !c.isDigit then none
  else
    let n := Decimal.ofDigitsUpTo 10 channelCount (cs.map fun c => c.toNat - '0'.toNat)
    if n < channelCount then some n else none

/-- Entries by channel. Of keys for the same channel the one that comes last in the order of keys
counts. -/
def byChannel {α : Type} (sectionName : String) (entries : Entries String α) :
    Except ConfigFlaw (Entries Nat α) :=
  entries.foldlM (fun m e =>
    match channelOf? e.1 with
    | some ch => .ok (m.insert ch e.2)
    | none => .error (.invalidChannel sectionName e.1)) []

def byChannel? {α : Type} (sectionName : String) :
    Option (Entries String α) → Except ConfigFlaw (Option (Entries Nat α))
  | none => .ok none
  | some entries => (byChannel sectionName entries).map some

/-- Checks a file. `repository` stands for the one named there. -/
def check (repository : Option String) (f : ConfigFile) : Except ConfigFlaw Config := do
  let detectorId := Text.trim f.detectorId
  if detectorId.isEmpty then throw .emptyDetectorId
  match f.highVoltage with
  | none => throw .noHighVoltage
  | some hv =>
    let defaults ← byChannel "hv.default" (hv.defaults.getD [])
    match List.find? (fun e => !levelInRange e.2) defaults with
    | some (channel, level) => throw (.levelOutOfRange channel level)
    | none => pure ()
    let conversion ← byChannel? "hv.conversion" hv.conversion
    let limits ← byChannel? "limits.hv" f.limits.highVoltage
    match f.limits.temperature with
    | some t => if t.upper < t.lower then throw (.temperatureRange t.lower t.upper)
    | none => pure ()
    if f.autorun.period = 0 ∨ f.autorun.checkPeriod = 0 then throw .zeroPeriod
    return {
      detectorId
      repository := repository.or f.repository
      logLevel := f.logLevel
      defaults
      conversion
      limits
      temperature := f.limits.temperature
      autorun := f.autorun }

def ofFile (repository : Option String) (f : ConfigFile) : Except ConfigError Config :=
  (check repository f).mapError fun flaw => .validation flaw.message

/-- Reads and checks the text of a file. -/
def ofText (repository : Option String) (text : String) : Except ConfigError Config :=
  match ConfigFile.ofText? text with
  | none => .error (.parse "not a configuration")
  | some f => ofFile repository f

/-- The voltage allowed on a channel without an entry of its own. -/
def defaultLimit : Float := 700

/-- The DAC level that autorun sets. -/
def default? (c : Config) (channel : Nat) : Option Float :=
  c.defaults.get? channel

def limit (c : Config) (channel : Nat) : Float :=
  (c.limits.bind fun m => m.get? channel).getD defaultLimit

/-- Whether voltages are held against the limits: both limits and conversions are configured. -/
def limited (c : Config) : Bool :=
  c.limits.isSome && c.conversion.isSome

/-- The value of a polynomial, by Horner's rule from the highest coefficient on. -/
def polynomial (coefficients : List Float) (x : Float) : Float :=
  coefficients.foldr (fun c acc => acc * x + c) 0

/-- The voltage that a level sets, if the channel has a conversion. -/
def voltage? (c : Config) (channel : Nat) (level : Float) : Option Float :=
  (c.conversion.bind fun m => m.get? channel).map fun cs => polynomial cs level

/-- No temperature is inside if there are no limits. -/
def insideTemperature (c : Config) (t : Float) : Bool :=
  match c.temperature with
  | some l => l.contains t
  | none => false

end Config

end DetectorControl
