import DetectorControl.Reply

/-!
# Links to peer programs

The data acquisition and the display server each answer one JSON object with another. The link to
such a program holds a request socket, which has to receive before it can send again; after any
fault the socket is closed, and the next call opens a new one. No call is tried twice.
-/

namespace DetectorControl

inductive PeerError where
  | connect (endpoint cause : String)
  | send (cause : String)
  | receive (cause : String)
  /-- The answer is no reply. -/
  | json (fault : Json.Fault)
  deriving DecidableEq, Repr

namespace PeerError

def kind : PeerError → String
  | connect .. => "Connect"
  | send _ => "Send"
  | receive _ => "Receive"
  | json _ => "Json"

def message : PeerError → String
  | connect endpoint cause => "could not connect to " ++ endpoint ++ " (" ++ cause ++ ")"
  | send cause => "ZeroMQ send failed (" ++ cause ++ ")"
  | receive cause => "ZeroMQ receive failed (" ++ cause ++ ")"
  | json fault => (ProtocolError.json fault).message

end PeerError

/-- What sockets do in a world: errors are the causes that they name. -/
structure PeerSocket (W : Type) where
  /-- Opens a socket and connects it. -/
  connect : (endpoint : String) → StateM W (Except String Unit)
  send : (body : Bytes) → StateM W (Except String Unit)
  receive : StateM W (Except String Bytes)
  close : StateM W Unit

structure PeerLink where
  endpoint : String
  /-- Whether a socket is held. -/
  connected : Bool := false
  deriving Repr

namespace PeerLink

variable {W : Type}

/-- Whether a text names a transport. -/
def hasScheme : List Char → Bool
  | ':' :: '/' :: '/' :: _ => true
  | _ :: cs => hasScheme cs
  | [] => false

/-- A host and a port alone mean TCP. -/
def address (endpoint : String) : String :=
  if hasScheme endpoint.toList then endpoint else "tcp://" ++ endpoint

def new (endpoint : String) : PeerLink := { endpoint := address endpoint }

/-- Opens a socket unless one is held. -/
def connect (sock : PeerSocket W) (l : PeerLink) : StateM W (Except PeerError Unit × PeerLink) := do
  if l.connected then return (.ok (), l)
  else
    match ← sock.connect l.endpoint with
    | .ok () => return (.ok (), { l with connected := true })
    | .error cause => return (.error (.connect l.endpoint cause), l)

/-- Sends a request on an open socket and receives the answer. -/
def exchange (sock : PeerSocket W) (r : Request) : StateM W (Except PeerError ReplyFrame) := do
  match ← sock.send (Bytes.ofString r.text) with
  | .error cause => return .error (.send cause)
  | .ok () =>
    match ← sock.receive with
    | .error cause => return .error (.receive cause)
    | .ok body =>
      match ReplyFrame.read body with
      | .ok f => return .ok f
      | .error fault => return .error (.json fault)

def request (sock : PeerSocket W) (r : Request) (l : PeerLink) :
    StateM W (Except PeerError ReplyFrame × PeerLink) := do
  match ← connect sock l with
  | (.error e, l) => return (.error e, l)
  | (.ok (), l) =>
    match ← exchange sock r with
    | .ok f => return (.ok f, l)
    | .error e =>
      sock.close
      return (.error e, { l with connected := false })

/-- Sends a request; a fault becomes an error reply. -/
def call (sock : PeerSocket W) (r : Request) (l : PeerLink) : StateM W (Reply × PeerLink) := do
  match ← request sock r l with
  | (.ok f, l) => return (f.reply, l)
  | (.error e, l) =>
    return (.error ("communication with " ++ l.endpoint ++ " failed (" ++ e.message ++ ")"), l)

end PeerLink

end DetectorControl
