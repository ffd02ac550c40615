import DetectorControl.Bounds
import DetectorControl.Client.Requester
import DetectorControl.Programs.Fault

/-!
# The console

One command is sent to a controller, and the reply is printed.
-/

namespace DetectorControl

/-- Where a controller on the same computer is found. -/
def defaultPort : Nat := 10000

def localEndpoint (port : Nat) : String := "127.0.0.1:" ++ toString port

namespace Console

structure Arguments where
  command : String
  /-- The options as JSON text. -/
  option : Option String
  endpoint : String
  /-- How long the console waits, in milliseconds. -/
  timeout : Nat
  deriving Repr

def programName : String := "growth_console"

def usage : String :=
  "Usage: growth_console [--option JSON] [--endpoint HOST:PORT] [--timeout-ms MS] <COMMAND>"

def specs : List CommandLine.OptionSpec :=
  [⟨"option", some 'o', .text⟩, ⟨"endpoint", some 'e', .text⟩,
    ⟨"timeout-ms", none, .number Bounds.natural64 false⟩]

def defaultTimeout : Nat := 1000

def Arguments.ofGiven? (g : CommandLine.Given) : Option Arguments :=
  g.operands.head?.map fun command => {
    command
    option := g.value? "option"
    endpoint := (g.value? "endpoint").getD (localEndpoint defaultPort)
    timeout := ((g.value? "timeout-ms").bind
      (CommandLine.number? Bounds.natural64 false)).getD defaultTimeout }

def parse (args : List String) : Except CommandLine.Halt Arguments :=
  match CommandLine.parse specs 1 args with
  | .error halt => .error halt
  | .ok g =>
    match Arguments.ofGiven? g with
    | some a => .ok a
    | none => .error .usage

/-- The request to send, if the options are a JSON object. -/
def request? (a : Arguments) : Option Request :=
  match a.option with
  | none => some { command := a.command }
  | some text =>
    ((Json.Tree.parse? (Bytes.ofString text)).bind (Options.ofTree? Json.depthLimit)).map
      fun options => { command := a.command, options := some options }

/-- What is printed for a reply, and how the console ends after it. -/
def exitOf (f : ReplyFrame) : Exit :=
  { code := if f.status = .ok then 0 else 1, stdout := f.toJson.pretty ++ "\n" }

/-- A request, where it goes, and how long the reply is waited for. -/
structure Errand where
  endpoint : String
  request : Request
  timeout : Nat
  deriving Repr

/-- What the arguments ask for, or how the console ends without a connection. There is none without
time to wait for the reply. -/
def launch (args : List String) : Except Exit Errand :=
  match parse args with
  | .error halt => .error (.ofHalt programName usage halt)
  | .ok a =>
    match request? a with
    | some q => if a.timeout = 0 then .error .failure else .ok ⟨a.endpoint, q, a.timeout⟩
    | none => .error .failure

/-- Runs the console with the given arguments. -/
def run {W : Type u} (net : Network W) (args : List String) (w : W) : Exit × W :=
  match launch args with
  | .error e => (e, w)
  | .ok errand =>
    match Requester.request net { endpoint := errand.endpoint } errand.request w with
    | (.error _, _, w) => (.failure, w)
    | (.ok f, r, w) => (exitOf f, (r.disconnect net w).2)

end Console

end DetectorControl
