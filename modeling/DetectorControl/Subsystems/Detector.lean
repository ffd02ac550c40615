import DetectorControl.Config.Discovery
import DetectorControl.Controller.Module
import DetectorControl.Hardware.Drivers
import DetectorControl.Repository.Head

/-!
# Detector

The subsystem `det`: what the detector is called, where it is found on the network, and which
version of its software it runs.
-/

namespace DetectorControl

inductive DetectorVerb where
  | id | ip | hash | ping
  deriving DecidableEq, Repr

instance : Verb DetectorVerb where
  all := [.id, .ip, .hash, .ping]
  name
    | .id => "id"
    | .ip => "ip"
    | .hash => "hash"
    | .ping => "ping"

/-- What the detector knows about the computer that it runs on. -/
structure Host where
  /-- The IPv4 address of a network interface. -/
  address : (interface : String) → Option String
  files : FileTree

namespace Detector

variable {W : Type}

/-- The interfaces that are asked for an address, in this order. -/
def interfaces : List String := ["wlan0", "eth0"]

def ip (host : Host) : Reply :=
  match interfaces.findSome? host.address with
  | some ip => Reply.done.withField "ip" (.string ip)
  | none => .error "IP address not assigned"

def hash (host : Host) (config : Config) : Reply :=
  match config.repository with
  | none => .error "GROWTH git repository not configured"
  | some repository =>
    if !host.files.isPresent repository then
      .error ("GROWTH git repository '" ++ repository ++ "' not found")
    else
      match Repository.head host.files repository with
      | .ok hash => Reply.done.withField "hash" (.string hash)
      | .error e => .error ("Could not resolve HEAD of '" ++ repository ++ "' (" ++ e.message ++ ")")

def handle (host : Host) (config : Config) (now : StateM W Instant) (verb : DetectorVerb) (_ : Options)
    (state : Unit) : StateM W (Reply × Unit) :=
  match verb with
  | .id => return (Reply.done.withField "detector_id" (.string config.detectorId), state)
  | .ip => return (ip host, state)
  | .hash => return (hash host config, state)
  | .ping => do return (Reply.done.withField "time" (.string (← now).stamp), state)

end Detector

end DetectorControl
