import DetectorControl.Proofs.Peer.Traffic

/-!
# Taking turns

A link sends only when it is its turn, whatever becomes of what it does with its sockets: every use leaves the log
in order (`requests_orderly`), and the link without a socket if it fails. Of a socket that takes turns
(`TakesTurns`) a request then gets no answer but its own, and no fault but its own (`OwnFault`).
-/

namespace DetectorControl
variable {W : Type}

namespace PeerLink
open SocketEvent
variable {sock : PeerSocket W} {l l' : PeerLink} {r : Request} {w w' : W} {log events : List SocketEvent}

/-! ## Logs -/

theorem opens_orderly {outcome : Except PeerError Unit} (h : Opens sock l w outcome l' w' events)
    (hlog : Orderly l.connected log) :
    Orderly outcome.isOk (log ++ events) ∧ l' = { l with connected := outcome.isOk } ∧
      events.countP isSend = 0 := by
  obtain ⟨endpoint, connected⟩ := l
  cases h with
  | held hheld =>
    obtain rfl : connected = true := hheld
    rw [List.append_nil]
    exact ⟨hlog, rfl, rfl⟩
  | opened hnone =>
    refine ⟨⟨hlog.sends.concat nofun, ?_, fun _ => .opened log _⟩, rfl, rfl⟩
    rw [isOpen_concat]
    rfl
  | refused hnone =>
    obtain rfl : connected = false := hnone
    refine ⟨⟨hlog.sends.concat nofun, ?_, nofun⟩, rfl, rfl⟩
    rw [isOpen_concat, hlog.isOpen]
    rfl

theorem exchanges_orderly {outcome : Except PeerError ReplyFrame} (h : Exchanges sock r w outcome w' events)
    (hlog : Orderly true log) :
    SentInTurn (log ++ events) ∧ isOpen (log ++ events) = true ∧ (outcome.isOk = true → InTurn (log ++ events)) ∧
      events.countP isSend = 1 := by
  have hready := hlog.ready rfl
  -- all that a request does begins with its being sent, and does not close the socket
  have hsent (outcome : Except String Unit) :
      SentInTurn (log ++ [.send (Bytes.ofString r.text) outcome]) ∧
        isOpen (log ++ [.send (Bytes.ofString r.text) outcome]) = true := by
    refine ⟨hlog.sends.concat fun _ _ _ => hready, ?_⟩
    rw [isOpen_concat, hlog.isOpen]
    rfl
  have hreceived (came : Except String Bytes) :
      SentInTurn (log ++ [.send (Bytes.ofString r.text) (.ok ()), .receive came]) ∧
        isOpen (log ++ [.send (Bytes.ofString r.text) (.ok ()), .receive came]) = true := by
    rw [List.append_cons]
    refine ⟨(hsent _).1.concat nofun, ?_⟩
    rw [isOpen_concat, (hsent _).2]
    rfl
  cases h with
  | unsent => exact ⟨(hsent _).1, (hsent _).2, nofun, rfl⟩
  | unanswered | unreadable => exact ⟨(hreceived _).1, (hreceived _).2, nofun, rfl⟩
  | answered _ _ hread => exact ⟨(hreceived _).1, (hreceived _).2, fun _ => .answered log _ _ hread, rfl⟩

theorem requests_orderly {outcome : Except PeerError ReplyFrame} (h : Requests sock l r w outcome l' w' events)
    (hlog : Orderly l.connected log) :
    Orderly outcome.isOk (log ++ events) ∧ l' = { l with connected := outcome.isOk } ∧
      events.countP isSend ≤ 1 := by
  cases h with
  | unopened hopens =>
    obtain ⟨horderly, hlink, hsends⟩ := opens_orderly hopens hlog
    exact ⟨horderly, hlink, by omega⟩
  | failed hopens hexchanges =>
    obtain ⟨horderly, hlink, hnone⟩ := opens_orderly hopens hlog
    obtain ⟨hsent, hopen, -, hone⟩ := exchanges_orderly hexchanges horderly
    rw [← List.append_assoc, ← List.append_assoc]
    refine ⟨⟨hsent.concat nofun, ?_, nofun⟩, by rw [hlink]; rfl, ?_⟩
    · rw [isOpen_concat]
      rfl
    · have hclose : [SocketEvent.close].countP isSend = 0 := rfl
      rw [List.countP_append, List.countP_append]
      omega
  | answered hopens hexchanges =>
    obtain ⟨horderly, hlink, hnone⟩ := opens_orderly hopens hlog
    obtain ⟨hsent, hopen, hready, hone⟩ := exchanges_orderly hexchanges horderly
    rw [← List.append_assoc]
    refine ⟨⟨hsent, hopen, hready⟩, hlink, ?_⟩
    rw [List.countP_append]
    omega

/-! ## Uses of a link -/

/-- A link and its world after uses of it, one after the other. In between the world may change. -/
inductive Reached (sock : PeerSocket W) (endpoint : String) (Starts : W → Prop) (Passes : W → W → Prop) :
    PeerLink → W → Prop
  | start {w : W} (h : Starts w) : Reached sock endpoint Starts Passes (new endpoint) w
  | pass {l : PeerLink} {w w' : W} (h : Reached sock endpoint Starts Passes l w) (hpasses : Passes w w') :
    Reached sock endpoint Starts Passes l w'
  | connect {l : PeerLink} {w : W} (h : Reached sock endpoint Starts Passes l w) :
    Reached sock endpoint Starts Passes (l.connect sock w).1.2 (l.connect sock w).2
  | call {l : PeerLink} {w : W} (r : Request) (h : Reached sock endpoint Starts Passes l w) :
    Reached sock endpoint Starts Passes (l.call sock r w).1.2 (l.call sock r w).2

/-- What a use of a link leaves behind: a socket if it succeeds, else a link as at the start. -/
structure Leaves (endpoint : String) (succeeds : Bool) (l : PeerLink) (log : List SocketEvent) : Prop where
  link : l = { new endpoint with connected := succeeds }
  log : Orderly succeeds log

theorem Reached.leaves {endpoint : String} {x : W × List SocketEvent}
    (h : Reached sock.watched endpoint (·.2 = []) (fun x x' => x'.2 = x.2) l x) :
    ∃ held, Leaves endpoint held l x.2 := by
  induction h with
  | start h => exact ⟨false, rfl, h ▸ orderly_nil⟩
  | pass _ hpasses ih =>
    obtain ⟨held, hlink, hlog⟩ := ih
    exact ⟨held, hlink, hpasses ▸ hlog⟩
  | @connect l x _ ih =>
    obtain ⟨held, rfl, hlog⟩ := ih
    obtain ⟨outcome, l', w', events, hopens, -, hwatched⟩ := connect_opens sock { new endpoint with connected := held } x.1
    obtain ⟨horderly, hlink, -⟩ := opens_orderly hopens hlog
    rw [show x = (x.1, x.2) from rfl, hwatched]
    exact ⟨outcome.isOk, hlink, horderly⟩
  | @call l x r _ ih =>
    obtain ⟨held, rfl, hlog⟩ := ih
    obtain ⟨outcome, l', w', events, hrequests, -, hwatched⟩ :=
      request_requests sock { new endpoint with connected := held } r x.1
    obtain ⟨horderly, hlink, -⟩ := requests_orderly hrequests hlog
    rw [show x = (x.1, x.2) from rfl, call_of_request (hwatched x.2)]
    exact ⟨outcome.isOk, hlink, horderly⟩

end PeerLink

/-! ## Sockets that take turns -/

namespace PeerSocket

/-- What a socket is to do next: to send, or to receive the answer to the request of a number. -/
inductive Turn where
  | closed
  | toSend
  | toReceive (n : Nat)
  deriving DecidableEq, Repr

/-- What there is to know of the sockets in a world. -/
structure Ledger (W : Type) where
  turn : W → Turn
  /-- The requests that were sent, which are numbered in their order. -/
  sent : W → List Bytes
  /-- The answers that have come, in time or late, each with the number of its request. -/
  answers : W → List (Nat × Bytes)
  /-- The cause that is named when a socket is used out of turn. -/
  refusal : String

/-- Time passes: answers may come, but nothing is done with the sockets. -/
def Ledger.Passes (t : Ledger W) (w w' : W) : Prop := t.turn w' = t.turn w ∧ t.sent w' = t.sent w

/-- A socket sends and receives by turns, refuses what is out of turn, and nothing else as being so, and lets in
no answer but the one to its own last request. -/
structure TakesTurns (sock : PeerSocket W) (t : Ledger W) : Prop where
  opened {endpoint : String} {w w' : W} (h : sock.connect endpoint w = (.ok (), w')) : t.turn w' = .toSend
  refused_send (body : Bytes) (w : W) : (sock.send body w).1 = .error t.refusal ↔ t.turn w ≠ .toSend
  went {body : Bytes} {w w' : W} (h : sock.send body w = (.ok (), w')) :
    t.turn w' = .toReceive (t.sent w).length ∧ t.sent w' = t.sent w ++ [body]
  refused_receive (w : W) : (sock.receive w).1 = .error t.refusal ↔ ∀ n, t.turn w ≠ .toReceive n
  came {n : Nat} {answer : Bytes} {w w' : W} (hturn : t.turn w = .toReceive n)
    (h : sock.receive w = (.ok answer, w')) : t.turn w' = .toSend ∧ (n, answer) ∈ t.answers w'
  sent_connect {endpoint : String} {outcome : Except String Unit} {w w' : W}
    (h : sock.connect endpoint w = (outcome, w')) : t.sent w' = t.sent w
  unsent {body : Bytes} {cause : String} {w w' : W} (h : sock.send body w = (.error cause, w')) : t.sent w' = t.sent w
  sent_receive {outcome : Except String Bytes} {w w' : W} (h : sock.receive w = (outcome, w')) : t.sent w' = t.sent w
  sent_close (w : W) : t.sent (sock.close w).2 = t.sent w

end PeerSocket

namespace PeerLink
open PeerSocket
variable {sock : PeerSocket W} {t : Ledger W} {l l' : PeerLink} {r : Request} {w w' : W} {events : List SocketEvent}

/-- A frame is what the peer answers to the request itself. -/
def OwnAnswer (t : Ledger W) (r : Request) (w w' : W) (f : ReplyFrame) : Prop :=
  t.sent w' = t.sent w ++ [Bytes.ofString r.text] ∧
    ∃ answer, ((t.sent w).length, answer) ∈ t.answers w' ∧ ReplyFrame.read answer = .ok f

/-- What can be at fault with a request: that no socket can be opened, that the request cannot be sent though it is
its turn, that no answer comes though it is waited for, or that the peer answers it with what is no reply. -/
inductive OwnFault (sock : PeerSocket W) (t : Ledger W) (l : PeerLink) (r : Request) (w : W) : PeerError → Prop
  | unopened {cause : String} {w' : W} (hnone : l.connected = false)
    (hconnect : sock.connect l.endpoint w = (.error cause, w')) : OwnFault sock t l r w (.connect l.endpoint cause)
  | unsent {cause : String} {w₁ w' : W} (hturn : t.turn w₁ = .toSend)
    (hsend : sock.send (Bytes.ofString r.text) w₁ = (.error cause, w')) (hcause : cause ≠ t.refusal) :
    OwnFault sock t l r w (.send cause)
  | unanswered {cause : String} {w₁ w' : W} (hsent : t.sent w₁ = t.sent w ++ [Bytes.ofString r.text])
    (hturn : t.turn w₁ = .toReceive (t.sent w).length) (hreceive : sock.receive w₁ = (.error cause, w'))
    (hcause : cause ≠ t.refusal) : OwnFault sock t l r w (.receive cause)
  | unreadable {answer : Bytes} {fault : Json.Fault} {w' : W}
    (hsent : t.sent w' = t.sent w ++ [Bytes.ofString r.text])
    (hanswer : ((t.sent w).length, answer) ∈ t.answers w') (hread : ReplyFrame.read answer = .error fault) :
    OwnFault sock t l r w (.json fault)

section
variable (hsock : sock.TakesTurns t)
include hsock

theorem sent_opens {outcome : Except PeerError Unit} (h : Opens sock l w outcome l' w' events) :
    t.sent w' = t.sent w := by
  cases h with
  | held => rfl
  | opened _ hconnect | refused _ hconnect => exact hsock.sent_connect hconnect

theorem opens_turn (hready : l.connected = true → t.turn w = .toSend)
    (h : Opens sock l w (.ok ()) l' w' events) : t.turn w' = .toSend ∧ t.sent w' = t.sent w := by
  refine ⟨?_, sent_opens hsock h⟩
  cases h with
  | held hheld => exact hready hheld
  | opened _ hconnect => exact hsock.opened hconnect

/-- Behind a request that was sent its own answer is waited for. -/
theorem received_own {body answer : Bytes} {w₁ : W} (hsend : sock.send body w = (.ok (), w₁))
    (hreceive : sock.receive w₁ = (.ok answer, w')) :
    t.turn w' = .toSend ∧ t.sent w' = t.sent w ++ [body] ∧ ((t.sent w).length, answer) ∈ t.answers w' := by
  obtain ⟨hturn, hsent⟩ := hsock.went hsend
  obtain ⟨hnext, hanswer⟩ := hsock.came hturn hreceive
  exact ⟨hnext, (hsock.sent_receive hreceive).trans hsent, hanswer⟩

/-- A request is refused by a socket only out of turn. -/
theorem send_cause {body : Bytes} {cause : String} (hturn : t.turn w = .toSend)
    (hsend : sock.send body w = (.error cause, w')) : cause ≠ t.refusal := by
  rintro rfl
  exact (hsock.refused_send body w).1 (congrArg Prod.fst hsend) hturn

theorem receive_cause {n : Nat} {cause : String} (hturn : t.turn w = .toReceive n)
    (hreceive : sock.receive w = (.error cause, w')) : cause ≠ t.refusal := by
  rintro rfl
  exact (hsock.refused_receive w).1 (congrArg Prod.fst hreceive) n hturn

/-- A link that holds a socket may send on it. -/
theorem Reached.ready {endpoint : String} {Starts : W → Prop}
    (h : Reached sock endpoint Starts t.Passes l w) :
    l.connected = true → t.turn w = .toSend := by
  induction h with
  | start => exact nofun
  | pass _ hpasses ih => exact fun hheld => hpasses.1.trans (ih hheld)
  | @connect l w _ ih =>
    obtain ⟨outcome, l', w', events, hopens, hconnect, -⟩ := connect_opens sock l w
    rw [hconnect]
    cases outcome with
    | ok => exact fun _ => (opens_turn hsock ih hopens).1
    | error e =>
      cases hopens with
      | refused hnone => exact fun hheld => absurd (hnone.symm.trans hheld) (by decide)
  | @call l w r _ ih =>
    obtain ⟨outcome, l', w', events, hrequests, hrequest, -⟩ := request_requests sock l r w
    rw [call_of_request hrequest]
    cases hrequests with
    | unopened hopens =>
      cases hopens with
      | refused hnone => exact fun hheld => absurd (hnone.symm.trans hheld) (by decide)
    | failed => exact nofun
    | answered hopens hexchanges =>
      cases hexchanges with
      | answered hsend hreceive => exact fun _ => (received_own hsock hsend hreceive).1

theorem requests_own (hready : l.connected = true → t.turn w = .toSend) {outcome : Except PeerError ReplyFrame}
    (h : Requests sock l r w outcome l' w' events) :
    (∀ f, outcome = .ok f → OwnAnswer t r w w' f) ∧ ∀ e, outcome = .error e → OwnFault sock t l r w e := by
  cases h with
  | unopened hopens =>
    refine ⟨nofun, fun e he => ?_⟩
    cases he
    cases hopens with
    | refused hnone hconnect => exact .unopened hnone hconnect
  | failed hopens hexchanges =>
    obtain ⟨hturn, hsent⟩ := opens_turn hsock hready hopens
    refine ⟨nofun, fun e he => ?_⟩
    cases he
    cases hexchanges with
    | unsent hsend => exact .unsent hturn hsend (send_cause hsock hturn hsend)
    | unanswered hsend hreceive =>
      obtain ⟨hwaits, hwent⟩ := hsock.went hsend
      have hcause := receive_cause hsock hwaits hreceive
      rw [hsent] at hwaits hwent
      exact .unanswered hwent hwaits hreceive hcause
    | unreadable hsend hreceive hread =>
      obtain ⟨-, hwent, hanswer⟩ := received_own hsock hsend hreceive
      rw [hsent] at hwent hanswer
      exact .unreadable hwent hanswer hread
  | answered hopens hexchanges =>
    obtain ⟨-, hsent⟩ := opens_turn hsock hready hopens
    refine ⟨fun f hf => ?_, nofun⟩
    cases hf
    cases hexchanges with
    | answered hsend hreceive hread =>
      obtain ⟨-, hwent, hanswer⟩ := received_own hsock hsend hreceive
      rw [hsent] at hwent hanswer
      exact ⟨hwent, _, hanswer, hread⟩

/-- A request adds itself to what was sent, or nothing. -/
theorem sent_exchanges {outcome : Except PeerError ReplyFrame} (h : Exchanges sock r w outcome w' events) :
    t.sent w' = t.sent w ∨ t.sent w' = t.sent w ++ [Bytes.ofString r.text] := by
  cases h with
  | unsent hsend => exact .inl (hsock.unsent hsend)
  | unanswered hsend hreceive => exact .inr ((hsock.sent_receive hreceive).trans (hsock.went hsend).2)
  | unreadable hsend hreceive | answered hsend hreceive => exact .inr (received_own hsock hsend hreceive).2.1

theorem sent_requests {outcome : Except PeerError ReplyFrame} (h : Requests sock l r w outcome l' w' events) :
    t.sent w' = t.sent w ∨ t.sent w' = t.sent w ++ [Bytes.ofString r.text] := by
  cases h with
  | unopened hopens => exact .inl (sent_opens hsock hopens)
  | failed hopens hexchanges =>
    rw [hsock.sent_close, ← sent_opens hsock hopens]
    exact sent_exchanges hsock hexchanges
  | answered hopens hexchanges =>
    rw [← sent_opens hsock hopens]
    exact sent_exchanges hsock hexchanges

end

/-- Whatever becomes of opening, sending, receiving and reading, a link sends in turn, at most once in a call, and
holds a socket just if its last use succeeded. So where sockets take turns no call suffers from the fault of an
earlier one, and a call that succeeds has the answer of the peer to its own request, however late other answers
come. -/
theorem takes_turns :
    (∀ (W : Type) (sock : PeerSocket W) (endpoint : String) (l : PeerLink) (x : W × List SocketEvent),
      Reached sock.watched endpoint (·.2 = []) (fun x x' => x'.2 = x.2) l x →
      (∃ outcome l' w' events, l.connect sock x.1 = ((outcome, l'), w') ∧
        l.connect sock.watched x = ((outcome, l'), (w', x.2 ++ events)) ∧ events.countP SocketEvent.isSend = 0 ∧
        Leaves endpoint outcome.isOk l' (x.2 ++ events)) ∧
      ∀ r, ∃ outcome l' w' events, l.request sock r x.1 = ((outcome, l'), w') ∧
        l.call sock r x.1 = ((said l'.endpoint outcome, l'), w') ∧
        l.call sock.watched r x = ((said l'.endpoint outcome, l'), (w', x.2 ++ events)) ∧
        events.countP SocketEvent.isSend ≤ 1 ∧ Leaves endpoint outcome.isOk l' (x.2 ++ events)) ∧
    ∀ (W : Type) (sock : PeerSocket W) (t : Ledger W), sock.TakesTurns t →
      ∀ (endpoint : String) (Starts : W → Prop) (l : PeerLink) (w : W),
      Reached sock endpoint Starts t.Passes l w →
      ∀ r, ∃ outcome l' w', l.request sock r w = ((outcome, l'), w') ∧
        l.call sock r w = ((said l'.endpoint outcome, l'), w') ∧
        (t.sent w' = t.sent w ∨ t.sent w' = t.sent w ++ [Bytes.ofString r.text]) ∧
        (∀ f, outcome = .ok f → OwnAnswer t r w w' f) ∧ ∀ e, outcome = .error e → OwnFault sock t l r w e := by
  refine ⟨fun W sock endpoint l x h => ⟨?_, fun r => ?_⟩, fun W sock t hsock endpoint Starts l w h r => ?_⟩
  · obtain ⟨held, rfl, hlog⟩ := h.leaves
    obtain ⟨outcome, l', w', events, hopens, hconnect, hwatched⟩ :=
      connect_opens sock { new endpoint with connected := held } x.1
    obtain ⟨horderly, hlink, hsends⟩ := opens_orderly hopens hlog
    exact ⟨outcome, l', w', events, hconnect, hwatched x.2, hsends, hlink, horderly⟩
  · obtain ⟨held, rfl, hlog⟩ := h.leaves
    obtain ⟨outcome, l', w', events, hrequests, hrequest, hwatched⟩ :=
      request_requests sock { new endpoint with connected := held } r x.1
    obtain ⟨horderly, hlink, hsends⟩ := requests_orderly hrequests hlog
    exact ⟨outcome, l', w', events, hrequest, call_of_request hrequest, call_of_request (hwatched x.2), hsends,
      hlink, horderly⟩
  · obtain ⟨outcome, l', w', events, hrequests, hrequest, -⟩ := request_requests sock l r w
    exact ⟨outcome, l', w', hrequest, call_of_request hrequest, sent_requests hsock hrequests,
      requests_own hsock (h.ready hsock) hrequests⟩

end PeerLink

/-! ## A peer that is slow -/

/-- A peer that answers a ping at once, and all else later if ever. -/
structure SlowPeer where
  turn : PeerSocket.Turn := .closed
  sent : List Bytes := []
  answers : List (Nat × Bytes) := []

namespace SlowPeer

def endpoint : String := "127.0.0.1:10020"

def ping : Request := { command := "ping" }

def status : Request := { command := "getStatus" }

def success : Bytes := Bytes.ofString (ReplyFrame.text { status := .ok })

def outOfTurn : String := "Operation cannot be accomplished in current state"

def send (body : Bytes) : StateM SlowPeer (Except String Unit) := fun w =>
  if w.turn = .toSend then
    (.ok (), { turn := .toReceive w.sent.length, sent := w.sent ++ [body],
               answers := if body = Bytes.ofString ping.text then (w.sent.length, success) :: w.answers else w.answers })
  else (.error outOfTurn, w)

def receive : StateM SlowPeer (Except String Bytes) := fun w =>
  match w.turn with
  | .toReceive n =>
    match w.answers.find? (·.1 == n) with
    | some answer => (.ok answer.2, { w with turn := .toSend })
    | none => (.error "Resource temporarily unavailable", w)
  | _ => (.error outOfTurn, w)

def socket : PeerSocket SlowPeer where
  connect _ w := (.ok (), { w with turn := .toSend })
  send := send
  receive := receive
  close w := ((), { w with turn := .closed })

def turns : PeerSocket.Ledger SlowPeer := ⟨turn, sent, answers, outOfTurn⟩

theorem receive_eq (n : Nat) (sent : List Bytes) (answers : List (Nat × Bytes)) :
    socket.receive ⟨.toReceive n, sent, answers⟩ =
      match answers.find? (·.1 == n) with
      | some answer => (.ok answer.2, ⟨.toSend, sent, answers⟩)
      | none => (.error "Resource temporarily unavailable", ⟨.toReceive n, sent, answers⟩) := rfl

theorem socket_takesTurns : socket.TakesTurns turns where
  opened h := by
    cases h
    rfl
  refused_send body w := by
    show (send body w).1 = .error outOfTurn ↔ w.turn ≠ .toSend
    unfold send
    by_cases hturn : w.turn = .toSend
    · rw [if_pos hturn]
      exact iff_of_false nofun (not_not_intro hturn)
    · rw [if_neg hturn]
      exact iff_of_true rfl hturn
  went {body w w'} h := by
    have h : send body w = (.ok (), w') := h
    unfold send at h
    by_cases hturn : w.turn = .toSend
    · rw [if_pos hturn] at h
      cases h
      exact ⟨rfl, rfl⟩
    · rw [if_neg hturn] at h
      cases h
  refused_receive w := by
    obtain ⟨turn, sent, answers⟩ := w
    cases turn with
    | toReceive n =>
      rw [receive_eq]
      refine iff_of_false (fun h => ?_) fun hturn => hturn n rfl
      split at h
      · cases h
      · exact absurd (Except.error.inj h) (by decide)
    | closed | toSend => exact iff_of_true rfl nofun
  came {n answer w w'} hturn h := by
    obtain ⟨turn, sent, answers⟩ := w
    obtain rfl : turn = .toReceive n := hturn
    rw [receive_eq] at h
    split at h
    · rename_i answered hfind
      cases h
      have hnumber : answered.1 = n := by simpa using List.find?_some hfind
      exact ⟨rfl, hnumber ▸ List.mem_of_find?_eq_some hfind⟩
    · cases h
  sent_connect h := by
    cases h
    rfl
  unsent {body cause w w'} h := by
    have h : send body w = (.error cause, w') := h
    unfold send at h
    by_cases hturn : w.turn = .toSend
    · rw [if_pos hturn] at h
      cases h
    · rw [if_neg hturn] at h
      cases h
      rfl
  sent_receive {outcome w w'} h := by
    obtain ⟨turn, sent, answers⟩ := w
    cases turn with
    | toReceive n =>
      rw [receive_eq] at h
      split at h <;> cases h <;> rfl
    | closed | toSend =>
      cases h
      rfl
  sent_close _ := rfl

def refusal : Bytes := Bytes.ofString (ReplyFrame.text { status := .error })

/-- The peer once it has refused a first request, for which nobody waits any more. -/
def late : SlowPeer :=
  { (PeerLink.call socket status (.new endpoint) {}).2 with answers := [(0, refusal)] }

theorem takes_turns_late :
    (∃ outcome l' w' events, PeerLink.call socket.watched status (.new endpoint) ({}, []) =
        ((PeerLink.said l'.endpoint outcome, l'), (w', events)) ∧
      PeerLink.Leaves endpoint outcome.isOk l' events) ∧
    ∃ l' w', PeerLink.request socket ping (.new endpoint) late = ((.ok { status := .ok }, l'), w') ∧
      PeerLink.OwnAnswer turns ping late w' { status := .ok } := by
  constructor
  · obtain ⟨-, hcall⟩ := PeerLink.takes_turns.1 SlowPeer socket endpoint _ ({}, []) (.start rfl)
    obtain ⟨outcome, l', w', events, -, -, hwatched, -, hleaves⟩ := hcall status
    exact ⟨outcome, l', w', events, hwatched, hleaves⟩
  · have hstart : PeerLink.Reached socket endpoint (· = {}) turns.Passes (.new endpoint) {} := .start rfl
    have hreached : PeerLink.Reached socket endpoint (· = {}) turns.Passes (.new endpoint) late :=
      (hstart.call status).pass ⟨rfl, rfl⟩
    obtain ⟨outcome, l', w', hrequest, -, -, hanswer, -⟩ :=
      PeerLink.takes_turns.2 SlowPeer socket turns socket_takesTurns endpoint (· = {}) _ late hreached ping
    have houtcome : (PeerLink.request socket ping (.new endpoint) late).1.1 = .ok { status := .ok } := rfl
    rw [hrequest] at houtcome
    obtain rfl : outcome = .ok { status := .ok } := houtcome
    exact ⟨l', w', hrequest, hanswer _ rfl⟩

end SlowPeer

end DetectorControl
