import DetectorControl.Controller.Rig
import DetectorControl.Ipv4
import DetectorControl.Programs.Console
import DetectorControl.Server.Loopback

/-!
# The controller as a program

From the command line to a server that listens: the configuration is loaded, the board is opened,
and the address is bound, and the first of these that fails ends the program.
-/

namespace DetectorControl.Daemon

structure Arguments where
  config : Option String
  bind : String
  port : Nat
  board : String
  endpoints : Rig.Endpoints
  deriving Repr

def programName : String := "growth_controller"

def usage : String := "Usage: growth_controller [--config FILE] [--bind ADDRESS] [--port PORT]"

def specs : List CommandLine.OptionSpec :=
  [⟨"config", some 'c', .path⟩, ⟨"bind", none, .text⟩, ⟨"port", some 'p', .number 65535 true⟩,
    ⟨"driver", some 'd', .text⟩, ⟨"daq-endpoint", none, .text⟩, ⟨"display-endpoint", none, .text⟩,
    ⟨"verbose", some 'v', .flag⟩, ⟨"json", none, .flag⟩]

def Arguments.ofGiven (g : CommandLine.Given) : Arguments where
  config := g.value? "config"
  bind := (g.value? "bind").getD "0.0.0.0"
  port := ((g.value? "port").bind (CommandLine.number? 65535 true)).getD defaultPort
  board := (g.value? "driver").getD "simulation"
  endpoints := {
    acquisition := (g.value? "daq-endpoint").getD Rig.localEndpoints.acquisition
    display := (g.value? "display-endpoint").getD Rig.localEndpoints.display }

def parse (args : List String) : Except CommandLine.Halt Arguments :=
  (CommandLine.parse specs 0 args).map Arguments.ofGiven

/-! ## Addresses -/

/-- The host and the port of an endpoint, which the last colon parts. -/
def splitEndpoint? (endpoint : String) : Option (String × Nat) :=
  match Text.splitLast? ':' endpoint.toList with
  | none => none
  | some (host, port) =>
    (CommandLine.number? 65535 false (String.ofList port)).map (String.ofList host, ·)

/-- Whether an endpoint is that of a server on this computer and the given port. -/
def leadsTo (port : Nat) (endpoint : String) : Bool :=
  match splitEndpoint? endpoint with
  | some (host, p) => Ipv4.isLocal host && p == port
  | none => false

def bind (a : Arguments) : Except StartupError Unit :=
  if Ipv4.isLocal a.bind then .ok ()
  else .error (.bind (a.bind ++ ":" ++ toString a.port) "Cannot assign requested address")

/-! ## Starting and running -/

/-- A server on the rig, with its heartbeat started. -/
def serverOn (config : Config) (host : Host) (endpoints : Rig.Endpoints) (w : Rig) : Server Rig :=
  match Rig.controller config host endpoints w with
  | (dispatcher, w) => { dispatcher, world := { w with heartbeat := w.heartbeat.start } }

/-- The configuration and the board that a controller starts with. -/
def prepare (s : Surroundings) (a : Arguments) : Except StartupError (Config × Board) := do
  let config ← (Config.load s a.config).mapError .config
  let board ← Board.open? a.board
  bind a
  return (config, board)

/-- Starts a controller in a world, whose board is that of the command line. -/
def start (s : Surroundings) (host : Host) (w : Rig) (a : Arguments) :
    Except StartupError (Server Rig) :=
  match prepare s a with
  | .ok (config, board) => .ok (serverOn config host a.endpoints { w with board })
  | .error e => .error e

/-- From the command line to a server and the endpoints at which it listens, or to the end of the
program. -/
def launch (s : Surroundings) (host : Host) (w : Rig) (args : List String) :
    Except Exit ((String → Bool) × Server Rig) :=
  match parse args with
  | .error halt => .error (.ofHalt programName usage halt)
  | .ok a =>
    match start s host w a with
    | .error _ => .error .failure
    | .ok server => .ok (leadsTo a.port, server)

/-- The end of the heartbeat, when the server has ended. -/
def finish (s : Server Rig) : Rig :=
  { s.world with heartbeat := s.world.heartbeat.stop }

end DetectorControl.Daemon
