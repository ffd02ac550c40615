import DetectorControl.Controller.Module
import DetectorControl.Hardware.Drivers

/-!
# Housekeeping

The subsystem `hk`, which reads all sensors at once. Without the slow ADC there is no reading. An
environmental sensor that fails is tried a few times and then left out, and a slide switch that
cannot be read counts as off.
-/

namespace DetectorControl

inductive HousekeepingVerb where
  | read
  deriving DecidableEq, Repr

instance : Verb HousekeepingVerb where
  all := [.read]
  name
    | .read => "read"

namespace Housekeeping

variable {W : Type}

/-- How often the environmental sensor is tried. -/
def environmentTrials : Nat := 5

def readEnvironment (s : Sensors W) : (trials : Nat) → StateM W (Option Environment)
  | 0 => return none
  | trials + 1 => do
    match ← s.readEnvironment with
    | .ok e => return some e
    | .error _ => readEnvironment s trials

def readSwitch (s : Sensors W) : StateM W OnOff := do
  match ← s.readSwitch with
  | .ok on => return .ofBool on
  | .error _ => return .off

def read (s : Sensors W) (now : StateM W Instant) : StateM W Reply := do
  match ← s.readAdc with
  | .error e => return .error ("SlowADC read failed (" ++ e.message ++ ")")
  | .ok channels =>
    let environment ← readEnvironment s environmentTrials
    let slideSwitch ← readSwitch s
    let slowAdc := Entries.ofList (channels.map fun c => (toString c.1, c.2))
    let now ← now
    return Reply.done.withField "unixtime" (.int now.unixTime) |>.withField "time" (.string now.time)
      |>.withField "hk" (Readout.toJson ⟨slowAdc, environment, slideSwitch⟩).sorted

def handle (s : Sensors W) (now : StateM W Instant) (verb : HousekeepingVerb) (_ : Options)
    (state : Unit) : StateM W (Reply × Unit) :=
  match verb with
  | .read => do return (← read s now, state)

end Housekeeping

end DetectorControl
