import DetectorControl.Hardware.Drivers
import DetectorControl.Config.Validated

/-!
# The simulated board

A board in software, with the sensors' readings and faults as its state. It drives two high-voltage
channels and two heartbeat lines, and carries an eight-channel slow ADC (two temperature sensors,
three monitors of supply currents, three spare inputs), an environmental sensor and a slide switch.
-/

namespace DetectorControl

structure Board where
  /-- The DAC levels in mV. -/
  levels : Vector Float 2 := #v[0, 0]
  outputs : Vector Bool 2 := #v[false, false]
  heartbeat : Nat := 0
  heartbeatWrites : Nat := 0
  /-- In degrees Celsius, on channels 0 and 1 of the slow ADC. -/
  temperatures : Vector Float 2 := #v[25, 27.5]
  /-- In mA, on channels 2 to 4. -/
  currents : Vector Float 3 := #v[180, 95, 210]
  /-- Nothing while the environmental sensor is not connected. -/
  environment : Option Environment :=
    some ⟨⟨22.5, "degC"⟩, ⟨1013.2, "mb"⟩, ⟨45, "%"⟩⟩
  /-- How many of the next readings of it fail. -/
  environmentFailures : Nat := 0
  environmentReads : Nat := 0
  /-- Nothing while the switch cannot be read. -/
  slideSwitch : Option Bool := some true
  /-- The slow ADC does not answer. -/
  adcFault : Bool := false
  /-- The DAC does not answer. -/
  spiFault : Bool := false
  deriving Repr

namespace Board

/-- The board as it is when it is opened. -/
def fresh : Board := {}

/-- The value within bounds; what is not a number stays so. -/
def clamp (low high x : Float) : Float :=
  let x := if x < low then low else x
  if high < x then high else x

/-! ## High voltage -/

def setLevel (channel : Nat) (level : Float) : StateM Board (Except HardwareError Unit) := fun b =>
  if h : channel < 2 then
    if b.spiFault then (.error (.communication "SPI transfer failed"), b)
    else (.ok (), { b with levels := b.levels.set channel (clamp levelMin levelMax level) })
  else (.error (.invalidChannel channel), b)

def setOutput (channel : Nat) (on : Bool) : StateM Board (Except HardwareError Unit) := fun b =>
  if h : channel < 2 then (.ok (), { b with outputs := b.outputs.set channel on })
  else (.error (.invalidChannel channel), b)

def supply : SupplyDriver Board := ⟨setLevel, setOutput⟩

/-! ## Sensors -/

/-- Another temperature at one of the sensors; there are only two. -/
def setTemperature (sensor : Nat) (t : Float) (b : Board) : Board :=
  if h : sensor < 2 then { b with temperatures := b.temperatures.set sensor t } else b

/-- The reference voltage of the converter. -/
def reference : Float := 3.3

/-- The nearest integer to a number that is not negative, a half upward; 0 for what is no number. -/
def roundHalfUp (x : Float) : Nat :=
  match Decimal.Reading.ofFloat x with
  | .finite b => if b.negative then 0 else (2 * b.num + b.den) / (2 * b.den)
  | _ => 0

/-- A channel of the converter at the given input; the count is of 12 bits. -/
def convert (voltage converted : Float) (units : String) : Measurement :=
  let voltage := clamp 0 reference voltage
  { raw := roundHalfUp (voltage / reference * 4095), voltage, converted, units }

/-- A temperature sensor: 424 mV at zero degrees and 6.25 mV more for each degree. -/
def temperatureChannel (t : Float) : Measurement :=
  convert (0.424 + 0.00625 * t) t "degC"

/-- A current monitor of so many mA to the volt. -/
def currentChannel (scale i : Float) : Measurement :=
  convert (i / scale) i "mA"

def spareChannel : Measurement := convert 0 0 ""

/-- The channels of the slow ADC. -/
def channels (b : Board) : Entries Nat Measurement :=
  [(0, temperatureChannel b.temperatures[0]), (1, temperatureChannel b.temperatures[1]),
    (2, currentChannel 1000 b.currents[0]), (3, currentChannel 500 b.currents[1]),
    (4, currentChannel 1000 b.currents[2]), (5, spareChannel), (6, spareChannel), (7, spareChannel)]

def readAdc : StateM Board (Except HardwareError (Entries Nat Measurement)) := fun b =>
  if b.adcFault then (.error (.communication "MCP3208 not responding"), b) else (.ok b.channels, b)

def readEnvironment : StateM Board (Except HardwareError Environment) := fun b =>
  let b := { b with environmentReads := b.environmentReads + 1 }
  match b.environmentFailures with
  | n + 1 => (.error (.communication "BME280 I2C read failed"), { b with environmentFailures := n })
  | 0 =>
    match b.environment with
    | some e => (.ok e, b)
    | none => (.error (.notAvailable "BME280"), b)

def readSwitch : StateM Board (Except HardwareError Bool) := fun b =>
  match b.slideSwitch with
  | some on => (.ok on, b)
  | none => (.error (.communication "GPIO read failed"), b)

def sensors : Sensors Board := ⟨readAdc, readEnvironment, readSwitch⟩

/-! ## Heartbeat -/

def present (value : Nat) : StateM Board Presented := fun b =>
  (.done, { b with heartbeat := value, heartbeatWrites := b.heartbeatWrites + 1 })

def lines : HeartbeatLines Board := ⟨present⟩

/-- The names of the boards that the controller can run on. -/
def names : List String := ["simulation"]

end Board

end DetectorControl
