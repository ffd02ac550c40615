import DetectorControl.Wire.Frame

/-!
# Requesters

A requester sends requests to one endpoint and waits for the replies. It connects when it has to,
gives its connection up after any fault, and sends no request twice.
-/

namespace DetectorControl

/-- What streams do in a world. A connection is known by its number. -/
structure Network (W : Type u) where
  /-- A new connection to an endpoint, if there is one to be had. -/
  connect : (endpoint : String) → W → Option Nat × W
  /-- Sends bytes. Of those of a failed sending any number may have gone out. -/
  send : (connection : Nat) → Bytes → W → Except IoFault Unit × W
  /-- All that a connection is going to yield if nothing more is sent. -/
  incoming : (connection : Nat) → W → Wire.Source
  /-- Leaves a connection with what was not read of that. -/
  leave : (connection : Nat) → Wire.Source → W → W
  close : (connection : Nat) → W → W

/-- The network in which nobody listens. -/
def Network.dead {W : Type u} : Network W where
  connect _ w := (none, w)
  send _ _ w := (.error .hungUp, w)
  incoming _ _ := []
  leave _ _ w := w
  close _ w := w

structure Requester where
  endpoint : String
  /-- The connection that is held. -/
  connection : Option Nat := none
  deriving Repr

namespace Requester

variable {W : Type u}

def isConnected (r : Requester) : Bool := r.connection.isSome

/-- Connects unless a connection is held; the answer is the number of the connection. -/
def connect (net : Network W) (r : Requester) (w : W) : Except ProtocolError Nat × Requester × W :=
  match r.connection with
  | some n => (.ok n, r, w)
  | none =>
    match net.connect r.endpoint w with
    | (some n, w) => (.ok n, { r with connection := some n }, w)
    | (none, w) => (.error (.notConnected r.endpoint), r, w)

def disconnect (net : Network W) (r : Requester) (w : W) : Requester × W :=
  match r.connection with
  | some n => ({ r with connection := none }, net.close n w)
  | none => (r, w)

/-- Sends the frame of a request and reads a frame on a connection. -/
def exchange (net : Network W) (n : Nat) (q : Request) (w : W) : Except ProtocolError ReplyFrame × W :=
  let body := Bytes.ofString q.text
  if Wire.bodyLimit < body.length then (.error (.frameTooLarge body.length), w)
  else
    match net.send n (Wire.frame body) w with
    | (.error f, w) => (.error (.ofFault f), w)
    | (.ok (), w) =>
      match Wire.readMessage ReplyFrame.read (net.incoming n w) with
      | (answer, rest) => (answer, net.leave n rest w)

def request (net : Network W) (r : Requester) (q : Request) (w : W) :
    Except ProtocolError ReplyFrame × Requester × W :=
  match r.connect net w with
  | (.error e, r, w) => (.error e, r, w)
  | (.ok n, r, w) =>
    match exchange net n q w with
    | (.ok f, w) => (.ok f, r, w)
    | (.error e, w) =>
      match r.disconnect net w with
      | (r, w) => (.error e, r, w)

/-- Sends a request; a fault becomes an error reply. -/
def call (net : Network W) (r : Requester) (q : Request) (w : W) : Reply × Requester × W :=
  match r.request net q w with
  | (.ok f, r, w) => (f.reply, r, w)
  | (.error e, r, w) =>
    (.error ("communication with " ++ r.endpoint ++ " failed (" ++ e.message ++ ")"), r, w)

end Requester

end DetectorControl
