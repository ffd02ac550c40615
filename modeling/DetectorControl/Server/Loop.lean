import DetectorControl.Controller.Dispatcher
import DetectorControl.Wire.Frame

/-!
# The server

Each connection has a reader, which turns the bytes that arrive into jobs of one common queue. A
single loop takes the jobs out of the queue in order, has them dispatched and writes the replies.
Readers, loop and clients take turns in any order; a step of each is a function on the state.
-/

namespace DetectorControl

inductive Work where
  /-- The body of a frame. -/
  | request (body : Bytes)
  /-- A frame was announced that is too large. -/
  | reject (bytes : Nat)
  deriving DecidableEq, Repr

/-- Work, and the number of the connection from which it came. -/
structure Job where
  client : Nat
  work : Work
  deriving DecidableEq, Repr

/-- The server's side of a connection. -/
structure ClientStream where
  /-- What arrives and is not read yet. -/
  incoming : Wire.Source
  outgoing : Wire.Sink := {}
  /-- Whether the reader is at work. -/
  reading : Bool := true
  isOpen : Bool := true
  deriving Repr

structure Server (W : Type) where
  dispatcher : Dispatcher W
  world : W
  clients : List ClientStream := []
  /-- The jobs to do, the oldest first. -/
  queue : List Job := []
  running : Bool := true

namespace Server

variable {W : Type}

def modifyClient (n : Nat) (f : ClientStream → ClientStream) (s : Server W) : Server W :=
  { s with clients := s.clients.modify n f }

/-- Takes on a connection, whose number is that of the connections before it. -/
def accept (c : ClientStream) (s : Server W) : Server W :=
  if s.running then { s with clients := s.clients ++ [c] } else s

/-! ## Readers -/

/-- What a reader makes of what it has read: a job, or nothing once the stream has ended or failed.
Only after the body of a frame does it go on. -/
def workOf : Except ProtocolError Bytes → Option Work × Bool
  | .ok body => (some (.request body), true)
  | .error (.frameTooLarge bytes) => (some (.reject bytes), false)
  | .error _ => (none, false)

/-- The reader of a connection reads one frame. -/
def read (n : Nat) (s : Server W) : Server W :=
  match s.clients[n]? with
  | none => s
  | some c =>
    if c.reading then
      match Wire.readFrame c.incoming with
      | (arrived, incoming) =>
        match workOf arrived with
        | (work, reading) =>
          { s with
            clients := s.clients.set n { c with incoming, reading }
            queue := s.queue ++ work.toList.map (Job.mk n) }
    else s

/-! ## The loop -/

/-- Writes a frame to a client. A frame that cannot be written, or not in full, is let go. -/
def answer (n : Nat) (f : ReplyFrame) (s : Server W) : Server W :=
  s.modifyClient n fun c =>
    if c.isOpen then { c with outgoing := (c.outgoing.writeFrame (Bytes.ofString f.text)).2 } else c

def shutDown (n : Nat) (s : Server W) : Server W :=
  s.modifyClient n fun c => { c with isOpen := false }

def rejection (bytes : Nat) : ReplyFrame :=
  (Reply.error ("Frame too large (" ++ toString bytes ++ " bytes)")).frame Target.controllerName

def perform (j : Job) (s : Server W) : Server W :=
  match j.work with
  | .request body =>
    match s.dispatcher.handle body s.world with
    | (f, dispatcher, world) => { s with dispatcher, world }.answer j.client f
  | .reject bytes => (s.answer j.client (rejection bytes)).shutDown j.client

/-- The loop does the oldest job. It ends when the controller is told to stop. -/
def dispatch (s : Server W) : Server W :=
  match s.running, s.queue with
  | true, j :: queue =>
    let s := { s with queue }.perform j
    { s with running := !s.dispatcher.stopping }
  | _, _ => s

/-- The server is told from outside to end. -/
def interrupt (s : Server W) : Server W := { s with running := false }

/-! ## Clients -/

/-- A client takes in what was sent to it, and there is room for so many more bytes on the way to it;
without a number there is no limit. -/
def makeRoom (n : Nat) (room : Option Nat) (s : Server W) : Server W :=
  s.modifyClient n fun c => { c with outgoing := { c.outgoing with room } }

/-! ## Schedules -/

inductive Step where
  | accept (c : ClientStream)
  | read (client : Nat)
  | dispatch
  | interrupt
  | makeRoom (client : Nat) (room : Option Nat)
  deriving Repr

def step (s : Server W) : Step → Server W
  | .accept c => s.accept c
  | .read n => s.read n
  | .dispatch => s.dispatch
  | .interrupt => s.interrupt
  | .makeRoom n room => s.makeRoom n room

def run (s : Server W) (steps : List Step) : Server W :=
  steps.foldl step s

/-- Whether a reader is at work. -/
def isReading (n : Nat) (s : Server W) : Bool :=
  match s.clients[n]? with
  | some c => c.reading
  | none => false

/-- A reader reads at most `k` frames. -/
def readMany (n : Nat) : (k : Nat) → Server W → Server W
  | 0, s => s
  | k + 1, s => if s.isReading n then readMany n k (s.read n) else s

/-- The loop does at most `k` jobs. -/
def dispatchMany : (k : Nat) → Server W → Server W
  | 0, s => s
  | k + 1, s => if s.running && !s.queue.isEmpty then dispatchMany k s.dispatch else s

/-- All jobs that are in the queue are done, unless the server ends before. -/
def dispatchAll (s : Server W) : Server W :=
  dispatchMany s.queue.length s

/-- The bytes that are on their way to the server, and one for each fault. -/
def extent (source : Wire.Source) : Nat :=
  source.foldl (fun n a => n + match a with
    | .bytes chunk => chunk.length
    | .fault _ => 1) 0

/-- A client connects, sends all that it has to send and closes its side, and the server deals with
it before anything else. -/
def serve (source : Wire.Source) (s : Server W) : Server W :=
  if s.running then
    let n := s.clients.length
    (readMany n (extent source + 1) (s.accept { incoming := source })).dispatchAll
  else s

/-- The bytes that were written to a client. -/
def written (n : Nat) (s : Server W) : Bytes :=
  match s.clients[n]? with
  | some c => c.outgoing.taken.reverse
  | none => []

end Server

end DetectorControl
