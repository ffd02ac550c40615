import DetectorControl.Controller.Builtin
import DetectorControl.Hardware.Board
import DetectorControl.Peer.Program

/-!
# The rig

A whole detector in software: a simulated board, the heartbeat, and the two peer programs. It is the
world that a controller without hardware runs on.
-/

namespace DetectorControl

structure Rig where
  board : Board := .fresh
  /-- The outputs of the supply cannot be switched. -/
  outputFault : Bool := false
  heartbeat : Heartbeat := {}
  display : PeerProgram := {}
  acquisition : PeerProgram := {}
  now : Instant
  deriving Repr

namespace Rig

def putBoard (board : Board) (w : Rig) : Rig := { w with board }

def putHeartbeat (heartbeat : Heartbeat) (w : Rig) : Rig := { w with heartbeat }

def putDisplay (display : PeerProgram) (w : Rig) : Rig := { w with display }

def putAcquisition (acquisition : PeerProgram) (w : Rig) : Rig := { w with acquisition }

def supply : SupplyDriver Rig :=
  (Board.supply.zoom board putBoard).withBrokenOutputs outputFault

def sensors : Sensors Rig := Board.sensors.zoom board putBoard

def lines : HeartbeatLines Rig := Board.lines.zoom board putBoard

/-- The interval of the heartbeat has passed. -/
def beat (w : Rig) : Rig :=
  let (heartbeat, w) := w.heartbeat.advance lines w
  { w with heartbeat }

/-- Where the peer programs are. -/
structure Endpoints where
  display : String
  acquisition : String
  deriving Repr

/-- The endpoints on the same computer. -/
def localEndpoints : Endpoints := ⟨"tcp://127.0.0.1:10010", "tcp://127.0.0.1:10020"⟩

def equipment (config : Config) (host : Host) (endpoints : Endpoints) : Equipment Rig where
  config
  host
  now := fun w => (w.now, w)
  supply
  sensors
  heartbeat := heartbeat
  putHeartbeat
  display := PeerProgram.socket.zoom display putDisplay
  displayEndpoint := endpoints.display
  acquisition := PeerProgram.socket.zoom acquisition putAcquisition
  acquisitionEndpoint := endpoints.acquisition

/-- A controller on the rig, whose heartbeat is presented for the first time before the subsystems
are made. -/
def controller (config : Config) (host : Host) (endpoints : Endpoints) (w : Rig) :
    Dispatcher Rig × Rig :=
  let (heartbeat, w) := Heartbeat.init lines w
  (equipment config host endpoints).controller { w with heartbeat }

end Rig

end DetectorControl
