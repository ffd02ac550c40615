import DetectorControl.Client.Requester
import DetectorControl.Server.Loop

/-!
# A server and its clients in one world

A network whose only server is a given one. Whatever a client sends is dealt with at once, so the
replies are there as soon as the client looks for them.
-/

namespace DetectorControl.Server

variable {W : Type}

/-- A client that stays, and from which nothing has arrived yet. -/
def visitor : ClientStream := { incoming := [] }

def connectTo (listens : String → Bool) (endpoint : String) (s : Server W) : Option Nat × Server W :=
  if s.running && listens endpoint then (some s.clients.length, s.accept visitor) else (none, s)

/-- Whether bytes can go to and fro. -/
def isLinked (n : Nat) (s : Server W) : Bool :=
  match s.clients[n]? with
  | some c => s.running && c.isOpen
  | none => false

/-- The reader of a connection reads at most `k` frames, but only what has arrived in full. -/
def readArrived (n : Nat) : (k : Nat) → Server W → Server W
  | 0, s => s
  | k + 1, s =>
    match s.clients[n]? with
    | some c => if c.reading && Wire.yieldsFrame c.incoming then readArrived n k (s.read n) else s
    | none => s

/-- Bytes arrive on a connection; more may follow. -/
def arrive (n : Nat) (bytes : Bytes) (s : Server W) : Server W :=
  let s := s.modifyClient n fun c => { c with incoming := [.bytes (Wire.bytesOf c.incoming ++ bytes)] }
  (readArrived n (bytes.length + 1) s).dispatchAll

def sendTo (n : Nat) (bytes : Bytes) (s : Server W) : Except IoFault Unit × Server W :=
  if s.isLinked n then (.ok (), s.arrive n bytes) else (.error .hungUp, s)

/-- What was written and not yet fetched; behind that, an open connection stays silent. -/
def incomingFrom (n : Nat) (s : Server W) : Wire.Source :=
  .bytes (s.written n) :: if s.isLinked n then [.fault .wouldBlock] else []

/-- Leaves those bytes that a client has not read. -/
def leaveTo (n : Nat) (rest : Wire.Source) (s : Server W) : Server W :=
  s.modifyClient n fun c => { c with outgoing := { c.outgoing with taken := (Wire.bytesOf rest).reverse } }

def closeTo (n : Nat) (s : Server W) : Server W :=
  s.modifyClient n fun c => { c with isOpen := false, reading := false }

/-- The network of those endpoints at which the server listens. -/
def network (listens : String → Bool) : Network (Server W) :=
  ⟨connectTo listens, sendTo, incomingFrom, leaveTo, closeTo⟩

end DetectorControl.Server
