import DetectorControl.Peer.Link

/-!
# What a link does with its sockets

The log of what is done with the sockets of a link, which the link itself does not keep (`PeerSocket.watched`).
What a use of a link can do is said once (`Opens`, `Exchanges`, `Requests`). A request goes out only on a socket
that was just opened, or behind an answer that is a reply, and a socket is held as long as it is open (`Orderly`).
-/

namespace DetectorControl
variable {W : Type}

/-- What is done with a socket, and what comes of it. -/
inductive SocketEvent where
  | connect (endpoint : String) (outcome : Except String Unit)
  | send (body : Bytes) (outcome : Except String Unit)
  | receive (outcome : Except String Bytes)
  | close

/-- Sockets that do what those of another kind do, and note it. -/
def PeerSocket.watched (sock : PeerSocket W) : PeerSocket (W × List SocketEvent) where
  connect endpoint x :=
    let done := sock.connect endpoint x.1
    (done.1, done.2, x.2 ++ [.connect endpoint done.1])
  send body x :=
    let done := sock.send body x.1
    (done.1, done.2, x.2 ++ [.send body done.1])
  receive x :=
    let done := sock.receive x.1
    (done.1, done.2, x.2 ++ [.receive done.1])
  close x := ((), (sock.close x.1).2, x.2 ++ [.close])

namespace SocketEvent
variable {log : List SocketEvent} {e : SocketEvent}

def isSend : SocketEvent → Bool
  | .send .. => true
  | _ => false

/-- Whether there is an open socket after an event. -/
def leavesOpen (isOpen : Bool) : SocketEvent → Bool
  | .connect _ (.ok ()) => true
  | .close => false
  | _ => isOpen

def isOpen (log : List SocketEvent) : Bool := log.foldl leavesOpen false

theorem isOpen_concat (log : List SocketEvent) (e : SocketEvent) :
    isOpen (log ++ [e]) = leavesOpen (isOpen log) e :=
  List.foldl_append ..

/-- It is the turn of the link to send: the socket was just opened, or what was sent on it last was followed by
an answer that is a reply. -/
inductive InTurn : List SocketEvent → Prop
  | opened (front : List SocketEvent) (endpoint : String) : InTurn (front ++ [.connect endpoint (.ok ())])
  | answered (front : List SocketEvent) (body answer : Bytes) {f : ReplyFrame} (hread : ReplyFrame.read answer = .ok f) :
    InTurn (front ++ [.send body (.ok ()), .receive (.ok answer)])

/-- Whatever was sent was sent in turn. -/
def SentInTurn (log : List SocketEvent) : Prop :=
  ∀ front body outcome rest, log = front ++ .send body outcome :: rest → InTurn front

theorem SentInTurn.concat (h : SentInTurn log) (he : ∀ body outcome, e = .send body outcome → InTurn log) :
    SentInTurn (log ++ [e]) := by
  intro front body outcome rest heq
  rcases List.eq_nil_or_concat rest with rfl | ⟨rest', last, rfl⟩
  · obtain ⟨rfl, hlast⟩ := List.append_inj' heq rfl
    exact he body outcome (List.head_eq_of_cons_eq hlast)
  · rw [List.concat_eq_append, ← List.cons_append, ← List.append_assoc] at heq
    exact h front body outcome rest' (List.append_inj' heq rfl).1

/-- The log of a link that holds a socket, or none. -/
structure Orderly (held : Bool) (log : List SocketEvent) : Prop where
  sends : SentInTurn log
  isOpen : isOpen log = held
  ready : held = true → InTurn log

theorem orderly_nil : Orderly false [] where
  sends front body outcome rest heq := by cases front <;> cases heq
  isOpen := rfl
  ready := nofun

end SocketEvent

namespace PeerLink
open SocketEvent
variable {sock : PeerSocket W} {l l' : PeerLink} {r : Request} {w w' : W} {log events : List SocketEvent}

/-! ## What a use of a link can do -/

/-- How a link comes to a socket. -/
inductive Opens (sock : PeerSocket W) (l : PeerLink) (w : W) :
    Except PeerError Unit → PeerLink → W → List SocketEvent → Prop
  | held (hheld : l.connected = true) : Opens sock l w (.ok ()) l w []
  | opened {w' : W} (hnone : l.connected = false) (hconnect : sock.connect l.endpoint w = (.ok (), w')) :
    Opens sock l w (.ok ()) { l with connected := true } w' [.connect l.endpoint (.ok ())]
  | refused {cause : String} {w' : W} (hnone : l.connected = false)
    (hconnect : sock.connect l.endpoint w = (.error cause, w')) :
    Opens sock l w (.error (.connect l.endpoint cause)) l w' [.connect l.endpoint (.error cause)]

theorem connect_opens (sock : PeerSocket W) (l : PeerLink) (w : W) :
    ∃ outcome l' w' events, Opens sock l w outcome l' w' events ∧ l.connect sock w = ((outcome, l'), w') ∧
      ∀ log, l.connect sock.watched (w, log) = ((outcome, l'), (w', log ++ events)) := by
  cases hheld : l.connected with
  | true =>
    refine ⟨.ok (), l, w, [], .held hheld, ?_, fun log => ?_⟩ <;> unfold connect <;> rw [if_pos hheld]
    · rfl
    · rw [List.append_nil]
      rfl
  | false =>
    have hnone : ¬ l.connected = true := by rw [hheld]; decide
    cases hconnect : sock.connect l.endpoint w with
    | mk outcome w' =>
      cases outcome with
      | ok =>
        refine ⟨_, _, _, _, .opened hheld hconnect, ?_, fun log => ?_⟩ <;> unfold connect <;>
          simp only [if_neg hnone, bind, StateT.bind, PeerSocket.watched, hconnect] <;> rfl
      | error cause =>
        refine ⟨_, _, _, _, .refused hheld hconnect, ?_, fun log => ?_⟩ <;> unfold connect <;>
          simp only [if_neg hnone, bind, StateT.bind, PeerSocket.watched, hconnect] <;> rfl

/-- How a request goes on an open socket. -/
inductive Exchanges (sock : PeerSocket W) (r : Request) (w : W) :
    Except PeerError ReplyFrame → W → List SocketEvent → Prop
  | unsent {cause : String} {w' : W} (hsend : sock.send (Bytes.ofString r.text) w = (.error cause, w')) :
    Exchanges sock r w (.error (.send cause)) w' [.send (Bytes.ofString r.text) (.error cause)]
  | unanswered {cause : String} {w₁ w' : W} (hsend : sock.send (Bytes.ofString r.text) w = (.ok (), w₁))
    (hreceive : sock.receive w₁ = (.error cause, w')) :
    Exchanges sock r w (.error (.receive cause)) w'
      [.send (Bytes.ofString r.text) (.ok ()), .receive (.error cause)]
  | unreadable {answer : Bytes} {fault : Json.Fault} {w₁ w' : W}
    (hsend : sock.send (Bytes.ofString r.text) w = (.ok (), w₁)) (hreceive : sock.receive w₁ = (.ok answer, w'))
    (hread : ReplyFrame.read answer = .error fault) :
    Exchanges sock r w (.error (.json fault)) w'
      [.send (Bytes.ofString r.text) (.ok ()), .receive (.ok answer)]
  | answered {answer : Bytes} {f : ReplyFrame} {w₁ w' : W}
    (hsend : sock.send (Bytes.ofString r.text) w = (.ok (), w₁)) (hreceive : sock.receive w₁ = (.ok answer, w'))
    (hread : ReplyFrame.read answer = .ok f) :
    Exchanges sock r w (.ok f) w' [.send (Bytes.ofString r.text) (.ok ()), .receive (.ok answer)]

theorem exchange_exchanges (sock : PeerSocket W) (r : Request) (w : W) :
    ∃ outcome w' events, Exchanges sock r w outcome w' events ∧ exchange sock r w = (outcome, w') ∧
      ∀ log, exchange sock.watched r (w, log) = (outcome, (w', log ++ events)) := by
  cases hsend : sock.send (Bytes.ofString r.text) w with
  | mk sent w₁ =>
    cases sent with
    | error cause =>
      refine ⟨_, _, _, .unsent hsend, ?_, fun log => ?_⟩ <;> unfold exchange <;>
        simp only [bind, StateT.bind, PeerSocket.watched, hsend] <;> rfl
    | ok =>
      cases hreceive : sock.receive w₁ with
      | mk came w' =>
        cases came with
        | error cause =>
          refine ⟨_, _, _, .unanswered hsend hreceive, ?_, fun log => ?_⟩ <;> unfold exchange <;>
            simp only [bind, StateT.bind, PeerSocket.watched, hsend, hreceive, List.append_assoc] <;> rfl
        | ok answer =>
          cases hread : ReplyFrame.read answer with
          | error fault =>
            refine ⟨_, _, _, .unreadable hsend hreceive hread, ?_, fun log => ?_⟩ <;> unfold exchange <;>
              simp only [bind, StateT.bind, PeerSocket.watched, hsend, hreceive, hread, List.append_assoc] <;> rfl
          | ok f =>
            refine ⟨_, _, _, .answered hsend hreceive hread, ?_, fun log => ?_⟩ <;> unfold exchange <;>
              simp only [bind, StateT.bind, PeerSocket.watched, hsend, hreceive, hread, List.append_assoc] <;> rfl

/-- How a request goes on a link. After any fault of the exchange the socket is closed. -/
inductive Requests (sock : PeerSocket W) (l : PeerLink) (r : Request) (w : W) :
    Except PeerError ReplyFrame → PeerLink → W → List SocketEvent → Prop
  | unopened {e : PeerError} {l' : PeerLink} {w' : W} {events : List SocketEvent}
    (hopens : Opens sock l w (.error e) l' w' events) : Requests sock l r w (.error e) l' w' events
  | failed {e : PeerError} {l' : PeerLink} {w₁ w' : W} {events events' : List SocketEvent}
    (hopens : Opens sock l w (.ok ()) l' w₁ events) (hexchanges : Exchanges sock r w₁ (.error e) w' events') :
    Requests sock l r w (.error e) { l' with connected := false } (sock.close w').2 (events ++ events' ++ [.close])
  | answered {f : ReplyFrame} {l' : PeerLink} {w₁ w' : W} {events events' : List SocketEvent}
    (hopens : Opens sock l w (.ok ()) l' w₁ events) (hexchanges : Exchanges sock r w₁ (.ok f) w' events') :
    Requests sock l r w (.ok f) l' w' (events ++ events')

theorem request_requests (sock : PeerSocket W) (l : PeerLink) (r : Request) (w : W) :
    ∃ outcome l' w' events, Requests sock l r w outcome l' w' events ∧ l.request sock r w = ((outcome, l'), w') ∧
      ∀ log, l.request sock.watched r (w, log) = ((outcome, l'), (w', log ++ events)) := by
  obtain ⟨opened, l₁, w₁, events₁, hopens, hconnect, hwatched⟩ := connect_opens sock l w
  cases opened with
  | error e =>
    refine ⟨_, _, _, _, .unopened hopens, ?_, fun log => ?_⟩ <;> unfold request <;>
      simp only [bind, StateT.bind, hconnect, hwatched] <;> rfl
  | ok =>
    obtain ⟨outcome, w₂, events₂, hexchanges, hexchange, hwatched'⟩ := exchange_exchanges sock r w₁
    cases outcome with
    | error e =>
      refine ⟨_, _, _, _, .failed hopens hexchanges, ?_, fun log => ?_⟩ <;> unfold request <;>
        simp only [bind, StateT.bind, hconnect, hwatched, hexchange, hwatched', ← List.append_assoc] <;> rfl
    | ok f =>
      refine ⟨_, _, _, _, .answered hopens hexchanges, ?_, fun log => ?_⟩ <;> unfold request <;>
        simp only [bind, StateT.bind, hconnect, hwatched, hexchange, hwatched', ← List.append_assoc] <;> rfl

/-- The reply that a call gives. -/
def said (endpoint : String) : Except PeerError ReplyFrame → Reply
  | .ok f => f.reply
  | .error e => .error ("communication with " ++ endpoint ++ " failed (" ++ e.message ++ ")")

theorem call_of_request {outcome : Except PeerError ReplyFrame} (h : l.request sock r w = ((outcome, l'), w')) :
    l.call sock r w = ((said l'.endpoint outcome, l'), w') := by
  unfold call
  cases outcome <;> simp only [bind, StateT.bind, h] <;> rfl

end PeerLink

end DetectorControl
