import DetectorControl.Telemetry

/-!
# Hardware

What the controller asks of its hardware. Each driver is given by what its operations answer and by
what they do to a world `W`, so that the same controller runs on a simulated board, on a board whose
operations fail in any pattern, and on one that keeps a record of all that was done to it.
-/

namespace DetectorControl

inductive HardwareError where
  /-- A transfer on a bus failed. -/
  | communication (detail : String)
  | notAvailable (device : String)
  | invalidChannel (channel : Nat)
  deriving DecidableEq, Repr

namespace HardwareError

def kind : HardwareError → String
  | communication _ => "CommunicationError"
  | notAvailable _ => "NotAvailable"
  | invalidChannel _ => "InvalidChannel"

def message : HardwareError → String
  | communication detail => "Hardware communication error: " ++ detail
  | notAvailable device => "Device not available: " ++ device
  | invalidChannel channel => "Invalid channel: " ++ toString channel

end HardwareError

/-- The high-voltage supply. -/
structure SupplyDriver (W : Type) where
  /-- Sets the DAC level, in mV, that determines a channel's voltage. -/
  setLevel : (channel : Nat) → (level : Float) → StateM W (Except HardwareError Unit)
  /-- Switches a channel's output. -/
  setOutput : (channel : Nat) → (on : Bool) → StateM W (Except HardwareError Unit)

/-- The housekeeping sensors. -/
structure Sensors (W : Type) where
  /-- Reads all channels of the slow ADC. -/
  readAdc : StateM W (Except HardwareError (Entries Nat Measurement))
  readEnvironment : StateM W (Except HardwareError Environment)
  /-- Whether the slide switch is on. -/
  readSwitch : StateM W (Except HardwareError Bool)

/-- What became of a value that was to be presented. -/
inductive Presented where
  | done
  | failed
  /-- The presenting task itself broke off. -/
  | crashed
  deriving DecidableEq, Repr

/-- The lines that an external watchdog looks at. -/
structure HeartbeatLines (W : Type) where
  present : (value : Nat) → StateM W Presented

/-- A moment, as the replies show it. -/
structure Instant where
  /-- Seconds since 1970. -/
  unixTime : Int
  /-- Date and time in the form of housekeeping readings. -/
  time : String
  /-- Date and time with the offset from UTC. -/
  stamp : String
  deriving Repr

/-- Runs on a part of a world. -/
def zoom {W P α : Type} (get : W → P) (put : P → W → W) (x : StateM P α) : StateM W α :=
  fun w =>
    let (a, p) := x (get w)
    (a, put p w)

namespace SupplyDriver

variable {W P : Type}

def zoom (get : W → P) (put : P → W → W) (d : SupplyDriver P) : SupplyDriver W where
  setLevel channel level := DetectorControl.zoom get put (d.setLevel channel level)
  setOutput channel on := DetectorControl.zoom get put (d.setOutput channel on)

/-- The driver whose outputs cannot be switched while `broken` holds. -/
def withBrokenOutputs (broken : W → Bool) (d : SupplyDriver W) : SupplyDriver W where
  setLevel := d.setLevel
  setOutput channel on w :=
    if broken w then (.error (.notAvailable "GPIO"), w) else d.setOutput channel on w

end SupplyDriver

def Sensors.zoom {W P : Type} (get : W → P) (put : P → W → W) (s : Sensors P) : Sensors W where
  readAdc := DetectorControl.zoom get put s.readAdc
  readEnvironment := DetectorControl.zoom get put s.readEnvironment
  readSwitch := DetectorControl.zoom get put s.readSwitch

def HeartbeatLines.zoom {W P : Type} (get : W → P) (put : P → W → W) (l : HeartbeatLines P) :
    HeartbeatLines W where
  present value := DetectorControl.zoom get put (l.present value)

end DetectorControl
