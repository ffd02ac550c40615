import DetectorControl.Json.Fault

/-!
# Faults of the wire

What can go wrong between two programs that exchange messages, and how it is worded.
-/

namespace DetectorControl

/-- Why a read or write on a stream failed. -/
inductive IoFault where
  | wouldBlock
  | timedOut
  | unexpectedEof
  | interrupted
  | connectionReset
  | brokenPipe
  /-- The stream takes no more bytes. -/
  | writeZero
  /-- The other side has closed the stream. -/
  | hungUp
  deriving DecidableEq, Repr

namespace IoFault

def kind : IoFault → String
  | wouldBlock => "WouldBlock"
  | timedOut => "TimedOut"
  | unexpectedEof => "UnexpectedEof"
  | interrupted => "Interrupted"
  | connectionReset => "ConnectionReset"
  | brokenPipe | hungUp => "BrokenPipe"
  | writeZero => "WriteZero"

/-- The faults that a kind alone tells apart. -/
def ofKind? (kind : String) : Option IoFault :=
  [wouldBlock, timedOut, unexpectedEof, interrupted, connectionReset, brokenPipe].find?
    (·.kind == kind)

def message : IoFault → String
  | .wouldBlock => "operation would block"
  | .timedOut => "timed out"
  | .unexpectedEof => "unexpected end of file"
  | .interrupted => "operation interrupted"
  | .connectionReset => "connection reset"
  | .brokenPipe => "broken pipe"
  | .writeZero => "failed to write whole buffer"
  | .hungUp => "Broken pipe (os error 32)"

end IoFault

inductive ProtocolError where
  | io (fault : IoFault)
  | timeout
  | closed
  /-- A message of more bytes than a frame may hold. -/
  | frameTooLarge (bytes : Nat)
  /-- A body that is not the JSON text of what was expected. -/
  | json (fault : Json.Fault)
  | emptyCommand
  | notConnected (endpoint : String)
  | errorReply (message : String)
  deriving DecidableEq, Repr

namespace ProtocolError

def kind : ProtocolError → String
  | io _ => "Io"
  | timeout => "Timeout"
  | closed => "Closed"
  | frameTooLarge _ => "FrameTooLarge"
  | json _ => "Json"
  | emptyCommand => "EmptyCommand"
  | notConnected _ => "NotConnected"
  | errorReply _ => "ErrorReply"

def message : ProtocolError → String
  | io fault => "I/O error: " ++ fault.message
  | timeout => "timed out waiting for peer"
  | closed => "connection closed by peer"
  | frameTooLarge bytes => "frame too large: " ++ toString bytes ++ " bytes"
  | json fault => "invalid JSON: " ++ fault.message
  | emptyCommand => "empty command"
  | notConnected endpoint => "could not connect to " ++ endpoint
  | errorReply message => "error reply: " ++ message

/-- A stream that yields nothing in time is a timeout, its early end a closed connection. -/
def ofFault : IoFault → ProtocolError
  | .wouldBlock | .timedOut => timeout
  | .unexpectedEof => closed
  | fault => io fault

end ProtocolError

end DetectorControl
