import DetectorControl.Autorun.Dialogue
import DetectorControl.Autorun.Permission
import DetectorControl.Bounds
import DetectorControl.Config.Validated

/-!
# The autorun supervisor

The supervisor starts, pauses and resumes the recording of data. At every tick it asks for the state
of the data acquisition, and now and then, before that, for a housekeeping reading:

* paused and permitted: switch on the high voltage, resume
* paused and not permitted: nothing
* recording and permitted: switch on the high voltage again if a channel is off, and begin a new
  output file if the current one is old enough
* recording and not permitted: pause, switch off the high voltage
* no usable answer: nothing
-/

namespace DetectorControl

/-- Why autorun cannot start. -/
inductive AutorunError where
  | missingTemperatureLimits
  | config (e : ConfigError)
  deriving DecidableEq, Repr

namespace AutorunError

def kind : AutorunError → String
  | missingTemperatureLimits => "MissingTemperatureLimits"
  | config e => e.kind

def message : AutorunError → String
  | missingTemperatureLimits =>
    "Temperature limits should be defined in the configuration ([limits.temperature])"
  | config e => e.message

end AutorunError

namespace Autorun

inductive State where
  /-- No state of the data acquisition is known yet. -/
  | uninitialized
  /-- Paused, and not permitted to run. -/
  | idle
  | active
  /-- Paused by the supervisor, and still not permitted to run. -/
  | suspended
  deriving DecidableEq, Repr

/-- What a tick did. -/
inductive Action where
  | unreachable
  | stayPaused
  | resumed
  | continued (recovered switched : Bool)
  | suspended
  deriving DecidableEq, Repr

/-- Times are counted in nanoseconds. -/
def ofSeconds (seconds : Nat) : Nat := seconds * 1000000000

/-- The longest time: as many seconds as 64 bits hold, and all nanoseconds but one of another. -/
def longestTime : Nat := ofSeconds Bounds.natural64 + 999999999

end Autorun

open Autorun

structure Supervisor where
  config : Config
  limits : TemperatureLimits
  /-- What the last housekeeping reading said. -/
  permitted : Bool := false
  /-- The time since then. It begins so long that the first tick reads. -/
  sinceCheck : Nat := longestTime
  state : Autorun.State := .uninitialized
  deriving Repr

namespace Supervisor

def new (config : Config) : Except AutorunError Supervisor :=
  match config.temperature with
  | some limits => .ok { config, limits }
  | none => .error .missingTemperatureLimits

/-! ## Permission -/

/-- The time since the last reading, at the tick that comes now. -/
def elapsed (s : Supervisor) : Nat :=
  min longestTime (s.sinceCheck + ofSeconds s.config.autorun.period)

/-- Whether the tick that comes now asks for a reading. -/
def checkDue (s : Supervisor) : Bool :=
  ofSeconds s.config.autorun.checkPeriod ≤ s.elapsed

def check (s : Supervisor) : Dialogue Supervisor := do
  if s.checkDue then
    let r ← Dialogue.send "hk" "read" .empty
    return { s with sinceCheck := 0, permitted := r.permits s.limits }
  else return { s with sinceCheck := s.elapsed }

/-! ## High voltage -/

def channels : List Nat := List.range channelCount

/-- The level that a channel is set to, if it is one of those that autorun switches on. -/
def level? (c : Config) (channel : Nat) : Option Float :=
  (c.default? channel).filter fun level => 0 < level

/-- Sets a channel to a level and switches it on. -/
def powerChannel (channel : Nat) (level : Float) : Dialogue Unit := do
  let number := ("ch", Json.nat channel)
  let _ ← Dialogue.send "hv" "set" (.ofPairs [number, ("value_in_mV", .float level)])
  let _ ← Dialogue.send "hv" "on" (.ofPairs [number])

/-- Switches on those channels that have a level. -/
def powerOn (c : Config) : List Nat → Dialogue Unit
  | [] => return ()
  | channel :: rest => do
    match level? c channel with
    | some level => powerChannel channel level
    | none => pure ()
    powerOn c rest

/-- Whether a report on the high voltage says that a channel is on. -/
def reportsOn (r : Reply) (channel : Nat) : Bool :=
  match (r.field? (toString channel)).bind fun v => ChannelStatus.ofTree? (.ofValue v) with
  | some s => s.output == .on
  | none => false

/-- Switches on the high voltage again if a channel is not reported to be on; the answer is whether
that was so. Nothing is done without a report. -/
def recover (c : Config) : Dialogue Bool := do
  let r ← Dialogue.send "hv" "status" .empty
  if !r.isOk then return false
  else if channels.all (reportsOn r) then return false
  else
    powerOn c channels
    return true

/-! ## Ticks -/

/-- Whether the current output file is old enough for a new one, or its age is unknown. -/
def fileDue (c : Config) (s : RunStatus) : Bool :=
  c.autorun.exposure.toUInt64.toFloat ≤ s.elapsed || s.elapsed < 0

/-- Begins a new output file if one is due; the answer is whether that was so. -/
def rotate (c : Config) (s : RunStatus) : Dialogue Bool := do
  if fileDue c s then
    let _ ← Dialogue.send "daq" "switch_output" .empty
    return true
  else return false

/-- The paused data acquisition may record. -/
def resume (s : Supervisor) : Dialogue (Action × Supervisor) := do
  powerOn s.config channels
  let _ ← Dialogue.send "daq" "resume" .empty
  return (.resumed, { s with state := .active })

/-- The data acquisition may go on recording. -/
def proceed (s : Supervisor) (status : RunStatus) : Dialogue (Action × Supervisor) := do
  let recovered ← recover s.config
  let switched ← rotate s.config status
  return (.continued recovered switched, { s with state := .active })

/-- The data acquisition may not go on recording. -/
def suspend (s : Supervisor) : Dialogue (Action × Supervisor) := do
  let _ ← Dialogue.send "daq" "pause" .empty
  let _ ← Dialogue.send "hv" "off_all" .empty
  return (.suspended, { s with state := .suspended })

/-- The paused data acquisition stays so. -/
def stayPaused (s : Supervisor) : Supervisor :=
  if s.state = .suspended then s else { s with state := .idle }

/-- Acts on a report of the data acquisition. -/
def act (s : Supervisor) (status : RunStatus) : Dialogue (Action × Supervisor) :=
  match status.state.isPaused, s.permitted with
  | true, true => s.resume
  | true, false => return (.stayPaused, s.stayPaused)
  | false, true => s.proceed status
  | false, false => s.suspend

def tick (s : Supervisor) : Dialogue (Action × Supervisor) := do
  let s ← s.check
  let r ← Dialogue.send "daq" "status" .empty
  match r.decode RunStatus.ofTree? with
  | .ok status => s.act status
  | .error _ => return (.unreachable, s)

/-- Ticks for as long as the world lets it run, but at most `n` times. -/
def run {W : Type u} (port : Port W) (running : W → Bool) : (n : Nat) → Supervisor → W →
    Supervisor × W
  | 0, s, w => (s, w)
  | n + 1, s, w =>
    if running w then
      match s.tick.run port w with
      | ((_, s), _, w) => run port running n s w
    else (s, w)

end Supervisor

end DetectorControl
