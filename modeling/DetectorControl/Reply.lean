import DetectorControl.Command

/-!
# Replies

What a subsystem answers, and the frame in which the answer goes over the wire: the status, a
message, the answering subsystem, and the payload side by side with them.
-/

namespace DetectorControl

inductive Reply where
  | ok (message : Option String) (fields : Fields)
  | error (message : String)
  deriving BEq, Repr

namespace Reply

/-- Success, with nothing to say. -/
def done : Reply := .ok none []

def isOk : Reply → Bool
  | .ok .. => true
  | .error _ => false

def message? : Reply → Option String
  | .ok message _ => message
  | .error message => some message

/-- Sets the message, that of an error too. -/
def withMessage (r : Reply) (text : String) : Reply :=
  match r with
  | .ok _ fields => .ok (some text) fields
  | .error _ => .error text

/-- Adds to the payload; an error carries none. -/
def withField (r : Reply) (key : String) (value : Json) : Reply :=
  match r with
  | .ok message fields => .ok message (Entries.insert key value fields)
  | .error message => .error message

def field? (r : Reply) (key : String) : Option Json :=
  match r with
  | .ok _ fields => Entries.get? fields key
  | .error _ => none

/-- Reads the payload of a success. -/
def decode {α : Type} (read? : Json.Tree → Option α) : Reply → Except ProtocolError α
  | .ok _ fields =>
    match read? (.ofValue (.object fields)) with
    | some a => .ok a
    | none => .error (.json .unfit)
  | .error message => .error (.errorReply message)

end Reply

/-- The `status` of a reply. Every status but `ok` is an error. -/
inductive Status where
  | ok
  | error
  deriving DecidableEq, Repr

namespace Status

def name : Status → String
  | ok => "ok"
  | error => "error"

def ofName (name : String) : Status :=
  if name = "ok" then ok else error

end Status

/-- A reply as it stands on the wire. -/
structure ReplyFrame where
  status : Status
  message : Option String := none
  subsystem : Option String := none
  fields : Fields := []
  deriving BEq, Repr

namespace ReplyFrame

/-- The names that stand in front of the payload. -/
def header : List String := ["status", "message", "subsystem"]

def toJson (f : ReplyFrame) : Json :=
  .object (("status", .string f.status.name)
    :: (f.message.map fun m => ("message", .string m)).toList
    ++ (f.subsystem.map fun s => ("subsystem", .string s)).toList
    ++ f.fields)

/-- The JSON text. -/
def text (f : ReplyFrame) : String := f.toJson.compact

/-- The payload of an object: all members but those of the header, of members with the same key
the last. -/
def payload? (depth : Nat) (members : List (Option String × Json.Tree)) : Option Fields :=
  Json.Tree.fields? depth [] (members.filter fun m => !header.any fun h => m.1 == some h)

/-- Only an object is a frame. -/
def ofTree? : Json.Tree → Option ReplyFrame
  | .object members => do
    match ← Json.Tree.record? header (.object members) with
    | [status, message, subsystem] =>
      let status ← Json.Tree.orElse status .error fun t => t.choice?.map Status.ofName
      let message ← Json.Tree.orElse message none (Json.Tree.nullable? Json.Tree.string?)
      let subsystem ← Json.Tree.orElse subsystem none (Json.Tree.nullable? Json.Tree.string?)
      return ⟨status, message, subsystem, ← payload? (Json.depthLimit - 1) members⟩
    | _ => none
  | _ => none

def ofText? (text : Bytes) : Option ReplyFrame :=
  (Json.Tree.parse? text).bind ofTree?

/-- What a text has to be in order to hold a frame. -/
def expectation : Json.Expectation :=
  ⟨some "struct ReplyFrame", [("status", .choice), ("message", .text), ("subsystem", .text)]⟩

/-- The frame in a text, or where the text goes wrong. -/
def read (text : Bytes) : Except Json.Fault ReplyFrame :=
  match ofText? text with
  | some f => .ok f
  | none => .error ((Json.Fault.find? Json.depthLimit expectation text).getD .unfit)

/-- The reply in a frame. An error without a message has an empty one. -/
def reply (f : ReplyFrame) : Reply :=
  match f.status with
  | .ok => .ok f.message f.fields
  | .error => .error (f.message.getD "")

end ReplyFrame

/-- The frame of a reply, stamped with the answering subsystem. -/
def Reply.frame (r : Reply) (subsystem : String) : ReplyFrame :=
  match r with
  | .ok message fields => ⟨.ok, message, some subsystem, fields⟩
  | .error message => ⟨.error, some message, some subsystem, []⟩

end DetectorControl
