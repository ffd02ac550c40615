import DetectorControl.Client.Requester

/-!
# Stub servers

A server that plays given parts: it accepts a number of connections, and on each of them does one
thing after another in answer to the requests that arrive.
-/

namespace DetectorControl

inductive StubAction where
  /-- Sends bytes, whether they make up a frame or not. -/
  | send (bytes : Bytes)
  | close
  | silent
  deriving Repr

/-- An accepted connection. -/
structure StubConnection where
  /-- What is done next. With nothing left a request is taken and the connection closed. -/
  actions : List StubAction
  /-- What was sent and is not read yet. -/
  unread : Bytes := []
  isOpen : Bool := true
  deriving Repr

/-- A connection after the next request has arrived. -/
def StubConnection.serve (c : StubConnection) : StubConnection :=
  match c.actions with
  | [] | .close :: _ => { c with isOpen := false }
  | .send bytes :: actions => { c with actions, unread := c.unread ++ bytes }
  | .silent :: actions => { c with actions }

structure Stub where
  address : String
  /-- The connections that are still to come. After the last one nobody listens. -/
  awaited : List (List StubAction) := []
  connections : List StubConnection := []
  /-- The requests so far, each with the number of its connection, the last one first. -/
  asked : List (Nat × Bytes) := []
  deriving Repr

namespace Stub

def requests (s : Stub) : List (Nat × Bytes) := s.asked.reverse

def connect (endpoint : String) (s : Stub) : Option Nat × Stub :=
  match s.awaited with
  | actions :: awaited =>
    if endpoint == s.address then
      (some s.connections.length,
        { s with awaited, connections := s.connections ++ [{ actions }] })
    else (none, s)
  | [] => (none, s)

def send (n : Nat) (bytes : Bytes) (s : Stub) : Except IoFault Unit × Stub :=
  match s.connections[n]? with
  | none => (.error .hungUp, s)
  | some c =>
    if !c.isOpen then (.error .hungUp, s)
    else
      match Wire.readFrame [.bytes bytes] with
      | (.ok body, _) =>
        (.ok (), { s with
          connections := s.connections.set n (c.serve)
          asked := (n, body) :: s.asked })
      | (.error _, _) => (.ok (), s)

/-- On an open connection the next bytes are waited for in vain. -/
def incoming (n : Nat) (s : Stub) : Wire.Source :=
  match s.connections[n]? with
  | none => []
  | some c => .bytes c.unread :: if c.isOpen then [.fault .wouldBlock] else []

def leave (n : Nat) (rest : Wire.Source) (s : Stub) : Stub :=
  { s with connections := s.connections.modify n fun c => { c with unread := Wire.bytesOf rest } }

def close (n : Nat) (s : Stub) : Stub :=
  { s with connections := s.connections.modify n fun c => { c with isOpen := false } }

def network : Network Stub := ⟨connect, send, incoming, leave, close⟩

end Stub

end DetectorControl
