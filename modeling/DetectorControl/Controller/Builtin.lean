import DetectorControl.Controller.Dispatcher
import DetectorControl.Subsystems.DataAcquisition
import DetectorControl.Subsystems.Detector
import DetectorControl.Subsystems.Display
import DetectorControl.Subsystems.HeartbeatControl
import DetectorControl.Subsystems.HighVoltage
import DetectorControl.Subsystems.Housekeeping

/-!
# The controller's own modules

The six subsystems on one set of equipment, registered in a fixed order.
-/

namespace DetectorControl

/-- What the subsystems run on. -/
structure Equipment (W : Type) where
  config : Config
  host : Host
  now : StateM W Instant
  supply : SupplyDriver W
  sensors : Sensors W
  heartbeat : W → Heartbeat
  putHeartbeat : Heartbeat → W → W
  display : PeerSocket W
  displayEndpoint : String
  acquisition : PeerSocket W
  acquisitionEndpoint : String

/-- The states of the subsystems that have one. -/
structure Subsystems where
  supply : Supply
  display : PeerLink
  acquisition : PeerLink
  deriving Repr

namespace Equipment

variable {W : Type}

/-- The subsystems and their names. -/
def modules (e : Equipment W) (s : Subsystems) : List (String × Module W) :=
  [("det", .ofHandler (Detector.handle e.host e.config e.now) ()),
    ("hv", .ofHandler (Supply.handle e.supply e.config) s.supply),
    ("disp", .ofHandler (Display.handle e.display) s.display),
    ("hk", .ofHandler (Housekeeping.handle e.sensors e.now) ()),
    ("daq", .ofHandler (Acquisition.handle e.acquisition) s.acquisition),
    ("heartbeat", .ofHandler (HeartbeatControl.handle e.heartbeat e.putHeartbeat) ())]

/-- The registry of the subsystems, registered in this order: their names all differ and are free. -/
def registry (e : Equipment W) (s : Subsystems) : Registry W :=
  Registry.empty.registerAll (e.modules s)

/-- The subsystems as the controller begins: the supply is switched off, and no link is open. -/
def start (e : Equipment W) : StateM W Subsystems := do
  return {
    supply := ← Supply.init e.supply
    display := .new e.displayEndpoint
    acquisition := .new e.acquisitionEndpoint }

/-- A new controller. -/
def controller (e : Equipment W) (w : W) : Dispatcher W × W :=
  match e.start w with
  | (s, w) => ({ registry := e.registry s }, w)

end Equipment

end DetectorControl
