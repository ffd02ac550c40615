import DetectorControl.Autorun.Supervisor
import DetectorControl.Client.Remote
import DetectorControl.Config.Discovery
import DetectorControl.Programs.Console

/-!
# Autorun as a program

The supervisor with a remote detector as its partner.
-/

namespace DetectorControl.Autorun

structure Arguments where
  config : Option String
  endpoint : String
  deriving Repr

def programName : String := "growth_autorun"

def usage : String := "Usage: growth_autorun [--config FILE] [--endpoint HOST:PORT]"

def specs : List CommandLine.OptionSpec :=
  [⟨"config", some 'c', .path⟩, ⟨"endpoint", some 'e', .text⟩, ⟨"verbose", some 'v', .flag⟩,
    ⟨"json", none, .flag⟩]

def Arguments.ofGiven (g : CommandLine.Given) : Arguments where
  config := g.value? "config"
  endpoint := (g.value? "endpoint").getD (localEndpoint defaultPort)

def parse (args : List String) : Except CommandLine.Halt Arguments :=
  (CommandLine.parse specs 0 args).map Arguments.ofGiven

def start (s : Surroundings) (a : Arguments) : Except AutorunError (Supervisor × RemoteDetector) := do
  let config ← (Config.load s a.config).mapError .config
  return (← Supervisor.new config, { endpoint := a.endpoint })

/-- From the command line to the supervisor and its partner, or to the end of the program. -/
def launch (s : Surroundings) (args : List String) : Except Exit (Supervisor × RemoteDetector) :=
  match parse args with
  | .error halt => .error (.ofHalt programName usage halt)
  | .ok a => (start s a).mapError fun _ => .failure

/-- A remote detector and the world that its network is in, as a partner for dialogues. -/
def remotePort {W : Type u} (net : Network W) : Port (RemoteDetector × W) :=
  fun c w =>
    match w.1.send net c w.2 with
    | (r, d, w) => (r, (d, w))

end DetectorControl.Autorun
