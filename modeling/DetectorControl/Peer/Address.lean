import DetectorControl.Ipv4
import DetectorControl.Peer.Link

/-!
# Addresses of peer programs

Which addresses a socket can be told to connect to. Whether anybody listens there does not matter.
-/

namespace DetectorControl.PeerLink

/-- The transport in front of the first `://`, and what stands behind it. -/
def splitScheme (scheme : List Char) : List Char → Option (List Char × List Char)
  | ':' :: '/' :: '/' :: rest => some (scheme.reverse, rest)
  | c :: cs => splitScheme (c :: scheme) cs
  | [] => none

def invalidArgument : String := "Invalid argument"

/-- A character that a host or port may contain behind its first one. -/
def isHostChar (c : Char) : Bool :=
  c.isAlphanum || ['.', '-', ':', '%', ';', '[', ']', '_', '*'].contains c

/-- A host, and a port behind the last colon. -/
def isHostPort (cs : List Char) : Bool :=
  let first := match cs with
    | c :: _ => c.isAlphanum || c == '[' || c == ':'
    | [] => false
  first && (cs.drop 1).all isHostChar &&
    match Text.splitLast? ':' cs with
    | some (_, c :: _) => c.isDigit
    | _ => false

/-! ## Web sockets

Unlike those of plain TCP, their hosts are looked up before a connection is tried. -/

/-- The integer at the front of a text: blanks, a sign and digits, as far as 64 bits hold it; without
digits it is 0. -/
def leadingInt (cs : List Char) : Int :=
  let (negative, cs) := Decimal.takeSign (cs.dropWhile Char.isWhitespace)
  let n : Int := Decimal.ofDigitsUpTo 10 Bounds.natural64 (Decimal.takeDigits cs).1
  if negative then max (-n) Bounds.least64 else min n Bounds.greatest64

/-- A port is a number that is not 0 in 16 bits, or a 0 that is plainly one. -/
def isPort (cs : List Char) : Bool :=
  cs == ['0'] || leadingInt cs % 0x10000 != 0

/-- The interface that every computer has. -/
def loopbackInterface : List Char := ['l', 'o']

/-- An interface, by its name or by a number that is not 0 in 32 bits. -/
def isZone (cs : List Char) : Bool :=
  match cs with
  | [] => false
  | c :: _ => if c.isAlpha then cs == loopbackInterface else leadingInt cs % 0x100000000 != 0

def unbracket (cs : List Char) : List Char :=
  if 2 ≤ cs.length && cs.head? == some '[' && cs.getLast? == some ']' then (cs.drop 1).dropLast
  else cs

/-- A host, perhaps in brackets, and perhaps with the interface behind a percent sign. -/
def isWebHost (cs : List Char) : Bool :=
  let cs := unbracket cs
  match Text.splitLast? '%' cs with
  | some (host, zone) => isZone zone && (Ipv4.ofHost? (String.ofList host)).isSome
  | none => (Ipv4.ofHost? (String.ofList cs)).isSome

/-- A host and a port, and perhaps a path, which the last slash begins. -/
def isWebAddress (cs : List Char) : Bool :=
  let place := match Text.splitLast? '/' cs with
    | some (place, _) => place
    | none => cs
  match Text.splitLast? ':' place with
  | some (host, port) => isPort port && isWebHost (host.takeWhile (· != '/'))
  | none => false

/-- The longest path of a local socket in bytes. -/
def localPathLimit : Nat := 107

/-- Whether a socket can connect to an address, and if not, why. -/
def checkAddress (address : String) : Except String Unit :=
  match splitScheme [] address.toList with
  | none => .error invalidArgument
  | some (scheme, rest) =>
    if scheme.isEmpty || rest.isEmpty then .error invalidArgument
    else
      match String.ofList scheme with
      | "inproc" => .ok ()
      | "ipc" =>
        if localPathLimit < (String.ofList rest).utf8ByteSize then .error "File name too long"
        else if rest == ['@'] then .error invalidArgument
        else .ok ()
      | "tcp" => if isHostPort rest then .ok () else .error invalidArgument
      | "ws" => if isWebAddress rest then .ok () else .error invalidArgument
      | "udp" => .error "The protocol is not compatible with the socket type"
      | _ => .error "Protocol not supported"

end DetectorControl.PeerLink
