import DetectorControl.Client.Requester
import DetectorControl.Proofs.Wire.Streams

/-!
# Calls that can fail at any byte

The traffic between one client and a program that takes the frames off its connections one by one and answers
each of them. A call may find nobody who listens, its frame may go out in part, and the answer may come in part,
late or never (`Fate`); a connection that the client has left may still be served. Every byte that goes out is
marked with the call that sent it, so that it is seen whose bytes the program takes for a frame.
-/

namespace DetectorControl

/-- A program that answers the bodies of frames. The length of an answer can be written in front of it. -/
structure Responder (S : Type) where
  answer : Bytes → S → Bytes × S
  fits : ∀ body s, (answer body s).1.length ≤ Bounds.natural32

/-- The answers to bodies that come one after the other. -/
def Responder.answers {S : Type} (p : Responder S) : List Bytes → S → List Bytes × S
  | [], s => ([], s)
  | body :: rest, s =>
    let later := p.answers rest (p.answer body s).2
    ((p.answer body s).1 :: later.1, later.2)

theorem Responder.answers_concat {S : Type} (p : Responder S) (bodies : List Bytes) (body : Bytes) (s : S) :
    p.answers (bodies ++ [body]) s =
      ((p.answers bodies s).1 ++ [(p.answer body (p.answers bodies s).2).1],
        (p.answer body (p.answers bodies s).2).2) := by
  induction bodies generalizing s with
  | nil => rfl
  | cons first rest ih =>
    rw [List.cons_append, answers, ih]
    rfl

/-- How bytes come in that are on their way: in any chunks, with any faults between them, and perhaps not all. -/
structure Delivery where
  deal : Bytes → Wire.Source
  part : ∀ bs, Wire.bytesOf (deal bs) <+: bs

/-- All at once. -/
def Delivery.whole : Delivery := ⟨fun bs => [.bytes bs], fun bs => by simp [Wire.bytesOf]⟩

/-- What happens to a call. -/
structure Fate where
  /-- The connections off which the program takes a frame before the call, in this order. -/
  before : List Nat := []
  /-- Whether a connection is to be had if one is needed. -/
  reachable : Bool := true
  /-- If the sending fails, how many bytes have gone out, and how it fails. -/
  broken : Option (Nat × IoFault) := none
  /-- The connections off which the program takes a frame while the client waits. -/
  served : List Nat := []
  delivery : Delivery := .whole

/-- What goes out of the bytes of a call that are sent. -/
def Fate.outgoing (fate : Fate) (bs : Bytes) : Bytes :=
  match fate.broken with
  | none => bs
  | some (k, _) => bs.take k

theorem Fate.outgoing_prefix (fate : Fate) (bs : Bytes) : fate.outgoing bs <+: bs := by
  unfold outgoing
  split
  · exact List.prefix_rfl
  · exact List.take_prefix ..

/-- One connection. -/
structure Lane where
  /-- What has arrived at the program, each byte with the number of the call that sent it. -/
  arrived : List (Nat × UInt8) := []
  /-- What the program has written and the client has not read. -/
  unread : Bytes := []

/-- A body that was taken for a request, and the answer to it. -/
structure Execution where
  /-- The calls that sent the bytes of the frame, one for each byte. -/
  origin : List Nat
  body : Bytes
  answer : Bytes
  deriving DecidableEq

/-- All bytes of the frame were sent by one call. -/
def Execution.By (e : Execution) (call : Nat) : Prop := e.origin = List.replicate (Wire.frame e.body).length call

structure Traffic (S : Type) where
  program : S
  lanes : Nat → Lane := fun _ => {}
  /-- How many connections there have been. -/
  opened : Nat := 0
  /-- The number of the call that is under way, or comes next. -/
  call : Nat := 0
  fate : Fate := {}
  /-- What has gone out, and with which call. -/
  sent : List (Nat × Bytes) := []
  /-- What was carried out, in this order. -/
  log : List Execution := []

namespace Traffic
variable {S : Type}

def putLane (n : Nat) (lane : Lane) (w : Traffic S) : Traffic S :=
  { w with lanes := fun m => if m = n then lane else w.lanes m }

/-- A frame with the given body is taken off a connection and answered. -/
def execute (p : Responder S) (n : Nat) (body : Bytes) (w : Traffic S) : Traffic S :=
  let lane := w.lanes n
  let size := (Wire.frame body).length
  let answer := (p.answer body w.program).1
  { w.putLane n ⟨lane.arrived.drop size, lane.unread ++ Wire.frame answer⟩ with
    program := (p.answer body w.program).2
    log := w.log ++ [⟨(lane.arrived.take size).map (·.1), body, answer⟩] }

/-- The program takes a frame off a connection, if there is a whole one. -/
def serve (p : Responder S) (w : Traffic S) (n : Nat) : Traffic S :=
  match Wire.front ((w.lanes n).arrived.map (·.2)) with
  | .frame body _ => w.execute p n body
  | _ => w

def serveAll (p : Responder S) (ns : List Nat) (w : Traffic S) : Traffic S := ns.foldl (serve p) w

/-- Bytes go out on a connection. -/
def deliver (n : Nat) (bs : Bytes) (w : Traffic S) : Traffic S :=
  { w.putLane n { w.lanes n with arrived := (w.lanes n).arrived ++ bs.map (w.call, ·) } with
    sent := w.sent ++ [(w.call, bs)] }

def connect (w : Traffic S) : Option Nat × Traffic S :=
  if w.fate.reachable then (some w.opened, { w with opened := w.opened + 1 }) else (none, w)

/-- If a sending does not fail, the program has time for the connections that are served. -/
def send (p : Responder S) (n : Nat) (bs : Bytes) (w : Traffic S) : Except IoFault Unit × Traffic S :=
  let w₁ := w.deliver n (w.fate.outgoing bs)
  match w.fate.broken with
  | none => (.ok (), w₁.serveAll p w.fate.served)
  | some (_, f) => (.error f, w₁)

def incoming (n : Nat) (w : Traffic S) : Wire.Source := w.fate.delivery.deal (w.lanes n).unread

/-- What was read is no longer on its way. -/
def leave (n : Nat) (rest : Wire.Source) (w : Traffic S) : Traffic S :=
  let read := (Wire.bytesOf (w.incoming n)).length - (Wire.bytesOf rest).length
  w.putLane n { w.lanes n with unread := (w.lanes n).unread.drop read }

/-- The connections to the program. One that is closed is not held by anybody, but it may still be served. -/
def network (p : Responder S) : Network (Traffic S) where
  connect _ := connect
  send := send p
  incoming := incoming
  leave := leave
  close _ w := w

/-- A call begins. -/
def begin (p : Responder S) (fate : Fate) (w : Traffic S) : Traffic S := serveAll p fate.before { w with fate }

/-- A call is over. -/
def next (w : Traffic S) : Traffic S := { w with call := w.call + 1 }

end Traffic

/-- One call after the other. Of each there is known what came of it, and whether a connection is held then. -/
def Requester.calls {S : Type} (p : Responder S) (r : Requester) (w : Traffic S) :
    List (Request × Fate) → List (Except ProtocolError ReplyFrame × Bool) × Requester × Traffic S
  | [] => ([], r, w)
  | (q, fate) :: rest =>
    match r.request (Traffic.network p) q (w.begin p fate) with
    | (result, r, w) =>
      match r.calls p w.next rest with
      | (results, after) => ((result, r.isConnected) :: results, after)

namespace Traffic
variable {S : Type} {p : Responder S} {w : Traffic S} {m n : Nat} {lane : Lane}

@[simp] theorem lanes_putLane_self : (w.putLane n lane).lanes n = lane := if_pos rfl

theorem lanes_putLane_of_ne (h : m ≠ n) : (w.putLane n lane).lanes m = w.lanes m := if_neg h

/-- The program does nothing, or takes what stands at the front of the connection. -/
theorem serve_cases (p : Responder S) (w : Traffic S) (n : Nat) :
    w.serve p n = w ∨ ∃ body rest, Wire.front ((w.lanes n).arrived.map (·.2)) = .frame body rest ∧
      w.serve p n = w.execute p n body := by
  unfold serve
  split
  · rename_i body rest hfront
    exact .inr ⟨body, rest, hfront, rfl⟩
  · exact .inl rfl

theorem serve_of_empty (h : (w.lanes n).arrived = []) : w.serve p n = w := by
  unfold serve
  rw [h]
  rfl

theorem lanes_serve_of_ne (h : m ≠ n) : (w.serve p n).lanes m = w.lanes m := by
  obtain hsame | ⟨body, rest, -, hexecute⟩ := serve_cases p w n
  · rw [hsame]
  · rw [hexecute]
    exact lanes_putLane_of_ne h

/-- What each frame keeps, all of them keep. -/
theorem serveAll_preserves {I : Traffic S → Prop} (hserve : ∀ w n, I w → I (w.serve p n)) (ns : List Nat)
    (h : I w) : I (w.serveAll p ns) := by
  unfold serveAll
  induction ns generalizing w with
  | nil => exact h
  | cons n ns ih => exact ih (hserve w n h)

/-- The frame that is all that stands on a connection is taken off it and answered. -/
def carryOut (p : Responder S) (n call : Nat) (body : Bytes) (w : Traffic S) : Traffic S :=
  { w.putLane n ⟨[], (w.lanes n).unread ++ Wire.frame (p.answer body w.program).1⟩ with
    program := (p.answer body w.program).2
    log := w.log ++ [⟨List.replicate (Wire.frame body).length call, body, (p.answer body w.program).1⟩] }

theorem execute_eq_carryOut {call : Nat} {body : Bytes}
    (h : (w.lanes n).arrived = (Wire.frame body).map (call, ·)) : w.execute p n body = w.carryOut p n call body := by
  have hlength : (w.lanes n).arrived.length = (Wire.frame body).length := by rw [h, List.length_map]
  have horigin : (w.lanes n).arrived.map (·.1) = List.replicate (Wire.frame body).length call := by
    rw [h, List.map_map]
    exact List.map_const'
  unfold execute carryOut
  dsimp only
  rw [← hlength, List.drop_length, List.take_length, horigin, hlength]

/-- The connection is empty then, and the others are as they were. -/
theorem mem_arrived_carryOut {call : Nat} {body : Bytes} {x : Nat × UInt8}
    (h : x ∈ ((w.carryOut p n call body).lanes m).arrived) : m ≠ n ∧ x ∈ (w.lanes m).arrived := by
  by_cases hm : m = n
  · subst hm
    have hempty : ((w.carryOut p m call body).lanes m).arrived = [] := congrArg Lane.arrived lanes_putLane_self
    rw [hempty] at h
    cases h
  · have hsame : (w.carryOut p n call body).lanes m = w.lanes m := lanes_putLane_of_ne hm
    rw [hsame] at h
    exact ⟨hm, h⟩

/-- The course of the traffic within a call. -/
structure Later (w w' : Traffic S) : Prop where
  call : w'.call = w.call
  fate : w'.fate = w.fate
  opened : w'.opened = w.opened
  sent : w'.sent = w.sent
  log : w.log <+: w'.log

namespace Later
variable {w' w'' : Traffic S}

theorem refl (w : Traffic S) : w.Later w := ⟨rfl, rfl, rfl, rfl, List.prefix_rfl⟩

theorem trans (h : w.Later w') (h' : w'.Later w'') : w.Later w'' :=
  ⟨h'.call.trans h.call, h'.fate.trans h.fate, h'.opened.trans h.opened, h'.sent.trans h.sent, h.log.trans h'.log⟩

end Later

theorem later_serve (p : Responder S) (w : Traffic S) (n : Nat) : w.Later (w.serve p n) := by
  obtain hsame | ⟨body, rest, -, hexecute⟩ := serve_cases p w n
  · rw [hsame]
    exact .refl w
  · rw [hexecute]
    exact ⟨rfl, rfl, rfl, rfl, List.prefix_append ..⟩

theorem later_serveAll (p : Responder S) (w : Traffic S) (ns : List Nat) : w.Later (w.serveAll p ns) :=
  serveAll_preserves (fun w' n h => h.trans (later_serve p w' n)) ns (.refl w)

end Traffic

end DetectorControl
