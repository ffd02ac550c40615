import DetectorControl.Hardware.Drivers
import DetectorControl.Peer.Address

/-!
# Simulated peer programs

A peer program that answers by a script and remembers what it was asked. Each request is answered by
the next item of a queue, or else by what is laid down for its command, or else by a plain success;
an answer may also fail to come.
-/

namespace DetectorControl

/-- The body of an answer, or none that ever comes. -/
abbrev ScriptedAnswer := Option Bytes

structure PeerProgram where
  /-- Whether the program is there at all. -/
  listening : Bool := false
  queue : List ScriptedAnswer := []
  byCommand : Entries String ScriptedAnswer := []
  /-- The requests so far, the last one first. -/
  asked : List Bytes := []
  /-- The answer to the request that was sent last. -/
  pending : ScriptedAnswer := none
  deriving Repr

namespace PeerProgram

/-- The requests so far. -/
def requests (p : PeerProgram) : List Bytes := p.asked.reverse

/-- Adds to the queue, and replaces what is laid down for commands. -/
def extend (p : PeerProgram) (queue : List ScriptedAnswer) (byCommand : Entries String ScriptedAnswer) :
    PeerProgram :=
  { p with
    queue := p.queue ++ queue
    byCommand := byCommand.foldl (fun m e => m.insert e.1 e.2) p.byCommand }

def success : Bytes := Bytes.ofString (ReplyFrame.text { status := .ok })

/-- The answer to the next request, and the program after it. -/
def answer (p : PeerProgram) (body : Bytes) : ScriptedAnswer × PeerProgram :=
  let p := { p with asked := body :: p.asked }
  match p.queue with
  | a :: queue => (a, { p with queue })
  | [] =>
    let command := (Request.ofText? body).map (·.command)
    (((command.bind fun c => p.byCommand.get? c)).getD (some success), p)

def connect (endpoint : String) : StateM PeerProgram (Except String Unit) :=
  return PeerLink.checkAddress endpoint

/-- A request to nobody waits on its way. -/
def send (body : Bytes) : StateM PeerProgram (Except String Unit) := fun p =>
  if p.listening then
    let (a, p) := p.answer body
    (.ok (), { p with pending := a })
  else (.ok (), p)

def receive : StateM PeerProgram (Except String Bytes) := fun p =>
  match p.pending with
  | some body => (.ok body, { p with pending := none })
  | none => (.error "Resource temporarily unavailable", p)

def close : StateM PeerProgram Unit := fun p => ((), { p with pending := none })

def socket : PeerSocket PeerProgram := ⟨connect, send, receive, close⟩

end PeerProgram

def PeerSocket.zoom {W P : Type} (get : W → P) (put : P → W → W) (s : PeerSocket P) : PeerSocket W where
  connect endpoint := DetectorControl.zoom get put (s.connect endpoint)
  send body := DetectorControl.zoom get put (s.send body)
  receive := DetectorControl.zoom get put s.receive
  close := DetectorControl.zoom get put s.close

end DetectorControl
