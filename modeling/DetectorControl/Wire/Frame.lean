import DetectorControl.Bounds
import DetectorControl.Reply

/-!
# Frames

On the controller's port a message travels as a frame: the length of its JSON text in four bytes,
the highest first, and then the text. Streams are given by what they do: a source by the chunks and
faults that it yields, a sink by how many bytes it takes.
-/

namespace DetectorControl.Wire

/-- No frame carries more than 1 MiB. -/
def bodyLimit : Nat := 1024 * 1024

/-- The four bytes of a length. -/
def header (length : Nat) : Bytes :=
  [UInt8.ofNat (length / 0x1000000), UInt8.ofNat (length / 0x10000), UInt8.ofNat (length / 0x100),
    UInt8.ofNat length]

/-- The length in a header. -/
def lengthOf (header : Bytes) : Nat :=
  header.foldl (fun n b => n * 256 + b.toNat) 0

theorem lengthOf_header {n : Nat} (h : n ≤ Bounds.natural32) : lengthOf (header n) = n := by
  simp only [Bounds.natural32] at h
  simp only [lengthOf, header, List.foldl_cons, List.foldl_nil, UInt8.toNat_ofNat']
  omega

/-- A frame around a body. -/
def frame (body : Bytes) : Bytes :=
  header body.length ++ body

/-! ## Reading -/

/-- What one read yields. -/
inductive Arrival where
  | bytes (chunk : Bytes)
  | fault (f : IoFault)
  deriving Repr

/-- What a stream still yields, in order; then it ends. -/
abbrev Source := List Arrival

/-- The bytes that a stream still yields. -/
def bytesOf (s : Source) : Bytes :=
  s.flatMap fun
    | .bytes chunk => chunk
    | .fault _ => []

/-- Reads `left` more bytes behind those of `done`, the last of which is first. An interrupted read
is tried again; the bytes read before a fault or before the end are lost. -/
def fill (left : Nat) (done : Bytes) : Source → Except IoFault Bytes × Source
  | [] => if left = 0 then (.ok done.reverse, []) else (.error .unexpectedEof, [])
  | .fault f :: rest =>
    if left = 0 then (.ok done.reverse, .fault f :: rest)
    else if f = .interrupted then fill left done rest
    else (.error f, rest)
  | .bytes chunk :: rest =>
    if left = 0 then (.ok done.reverse, .bytes chunk :: rest)
    else
      let taken := chunk.take left
      let kept := chunk.drop left
      if kept.isEmpty then fill (left - taken.length) (taken.reverse ++ done) rest
      else (.ok (done.reverse ++ taken), .bytes kept :: rest)

/-- Reads exactly `n` bytes. -/
def readExact (n : Nat) (s : Source) : Except IoFault Bytes × Source :=
  fill n [] s

/-- Reads the body of the next frame. Of a frame that is too large only the header is read. -/
def readFrame (s : Source) : Except ProtocolError Bytes × Source :=
  match readExact 4 s with
  | (.error f, s) => (.error (.ofFault f), s)
  | (.ok head, s) =>
    if bodyLimit < lengthOf head then (.error (.frameTooLarge (lengthOf head)), s)
    else
      match readExact (lengthOf head) s with
      | (.error f, s) => (.error (.ofFault f), s)
      | (.ok body, s) => (.ok body, s)

/-- Whether a stream that has not ended already yields all of a frame, or a header that is refused. -/
def yieldsFrame (s : Source) : Bool :=
  match readFrame s with
  | (.error .closed, _) => false
  | _ => true

/-- The bodies of the first `n` frames of a stream, as far as it has that many, and what is left. -/
def readFrames : (n : Nat) → Source → List Bytes × Source
  | 0, s => ([], s)
  | n + 1, s =>
    match readFrame s with
    | (.error _, _) => ([], s)
    | (.ok body, rest) =>
      match readFrames n rest with
      | (bodies, rest) => (body :: bodies, rest)

/-- Reads a frame and what its body stands for. -/
def readMessage {α : Type} (read : Bytes → Except Json.Fault α) (s : Source) :
    Except ProtocolError α × Source :=
  match readFrame s with
  | (.error e, s) => (.error e, s)
  | (.ok body, s) =>
    match read body with
    | .ok a => (.ok a, s)
    | .error fault => (.error (.json fault), s)

/-! ## Writing -/

/-- A stream that takes bytes. -/
structure Sink where
  /-- How many bytes it still takes; without an entry there is no limit. -/
  room : Option Nat := none
  /-- How many it takes at a time. -/
  step : Option Nat := none
  /-- What a full stream answers; without an entry it takes no bytes and says so. -/
  full : Option IoFault := none
  /-- What flushing answers. -/
  flush : Option IoFault := none
  /-- What it has taken, the last byte first. -/
  taken : Bytes := []
  flushed : Bool := false
  deriving Repr

namespace Sink

/-- At most `limit` bytes of a text, if there is a limit. -/
def cut (limit : Option Nat) (bs : Bytes) : Bytes :=
  match limit with
  | none => bs
  | some n => bs.take n

/-- Offers bytes; the answer is how many were taken. -/
def write (s : Sink) (bs : Bytes) : Except IoFault Nat × Sink :=
  match s.room, s.full with
  | some 0, some f => (.error f, s)
  | _, _ =>
    let part := cut s.room (cut s.step bs)
    (.ok part.length,
      { s with room := s.room.map (· - part.length), taken := part.reverse ++ s.taken })

/-- Offers bytes until all are taken. -/
def writeAll (s : Sink) (bs : Bytes) : Except IoFault Unit × Sink :=
  match bs with
  | [] => (.ok (), s)
  | b :: rest =>
    match s.write (b :: rest) with
    | (.error f, s) => (.error f, s)
    | (.ok 0, s) => (.error .writeZero, s)
    | (.ok (n + 1), s) => s.writeAll (rest.drop n)
  termination_by bs.length
  decreasing_by simp only [List.length_cons, List.length_drop]; omega

def finish (s : Sink) : Except IoFault Unit × Sink :=
  match s.flush with
  | some f => (.error f, s)
  | none => (.ok (), { s with flushed := true })

/-- Writes one frame. A body that is too large leaves the stream untouched. -/
def writeFrame (s : Sink) (body : Bytes) : Except ProtocolError Unit × Sink :=
  if bodyLimit < body.length then (.error (.frameTooLarge body.length), s)
  else
    match s.writeAll (header body.length) with
    | (.error f, s) => (.error (.ofFault f), s)
    | (.ok (), s) =>
      match s.writeAll body with
      | (.error f, s) => (.error (.ofFault f), s)
      | (.ok (), s) =>
        match s.finish with
        | (.error f, s) => (.error (.ofFault f), s)
        | (.ok (), s) => (.ok (), s)

end Sink

end DetectorControl.Wire
