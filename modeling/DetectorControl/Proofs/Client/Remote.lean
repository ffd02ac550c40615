import DetectorControl.Client.Remote
import DetectorControl.Proofs.Controller.Port
import DetectorControl.Proofs.Controller.Routing
import DetectorControl.Proofs.Server.Loopback

/-!
# Calls from afar

What is read of a request is the command that was sent, and what is read of a reply is what the controller
answered (`decode_request`, `Reply.reply_of_read`), if the numbers in them are read as they were written.
So a module that is called over the wire does and answers what the controller of the same process would
(`send_eq_answer`).
-/

namespace DetectorControl

/-! ## Values that are read as they were written -/

namespace Json

/-- Where the text of a value is read, with so many levels left, the same value is read. -/
def Reread (depth : Nat) (v : Json) : Prop :=
  (Tree.parse? (Bytes.ofString v.compact)).bind (Tree.value? depth) = some v

section
variable {depth : Nat} {v : Json}

theorem reread_iff : Reread depth v ↔ (tree v).value? depth = some v := by
  unfold Reread
  rw [parse?_compact, Option.bind_some]

/-- All that can come of a value of the right shape is that its numbers are read as others. -/
theorem reread_iff_again : Reread depth v ↔ Shaped depth v ∧ v.again = v := by
  rw [reread_iff]
  constructor
  · intro h
    have hshaped := Tree.shaped_of_value? h (Tree.proper_of_parse? (parse?_compact v))
    exact ⟨hshaped, Option.some.inj ((value?_tree hshaped).symm.trans h)⟩
  · rintro ⟨hshaped, hagain⟩
    rw [value?_tree hshaped, hagain]

end

end Json

open Json

/-! ## Requests and replies -/

section
variable {target verb : String} {o : Options}

theorem Request.read_of_reread (command : String) (h : Reread (depthLimit - 1) o.toJson) :
    Request.read (Bytes.ofString (Request.mk command (some o)).text) = .ok ⟨command, some o⟩ := by
  obtain ⟨hshaped, hagain⟩ := reread_iff_again.1 h
  have hsame : o.again = o := congrArg Options.mk (Json.object.inj hagain)
  rw [Request.read_shaped command hshaped, hsame]

theorem decode_request (hdot : '.' ∉ target.toList) (hfirst : ∀ c ∈ target.toList.head?, Text.isBlank c = false)
    (hlast : ∀ c ∈ verb.toList.getLast?, Text.isBlank c = false) (ho : Reread (depthLimit - 1) o.toJson) :
    Dispatcher.decode (Bytes.ofString (Command.request ⟨.ofName target, verb, o⟩).text) =
      .ok ⟨.ofName target, verb, o⟩ := by
  have hrequest : Command.request ⟨.ofName target, verb, o⟩ = ⟨target ++ "." ++ verb, some o⟩ := by
    rw [Command.request, Target.name_ofName]
  rw [hrequest]
  unfold Dispatcher.decode
  simp only [Request.read_of_reread _ ho]
  exact Command.parse_of_splitDot (Command.splitDot_trim hdot hfirst hlast)

end

/-- The payload of a reply, if there is one, is read as it was written, and apart from the header. -/
def Reply.Plain (r : Reply) : Prop :=
  ∀ message fields, r = .ok message fields →
    Reread depthLimit (.object fields) ∧ ∀ f ∈ fields, f.1 ∉ ReplyFrame.header

theorem Reply.reply_of_read {r : Reply} (h : r.Plain) (name : String) :
    ∃ f, ReplyFrame.read (Bytes.ofString (r.frame name).text) = .ok f ∧ f.reply = r := by
  have hshaped : ∀ message fields, r = .ok message fields →
      (ReplyFrame.mk .ok message none fields).Shaped := by
    intro message fields hr
    obtain ⟨hreread, hfree⟩ := h message fields hr
    cases (reread_iff_again.1 hreread).1 with
    | object hsorted hfields => exact ⟨hsorted, hfields, hfree⟩
  obtain ⟨f, hread, hreply⟩ := Reply.read_frame name hshaped
  refine ⟨f, hread, hreply.trans ?_⟩
  cases r with
  | ok message fields =>
    have hagain := (reread_iff_again.1 (h message fields rfl).1).2
    exact congrArg (Reply.ok message) (Json.object.inj hagain)
  | error message => rfl

/-! ## Calls -/

namespace Server
variable {W : Type} {listens : String → Bool} {s : Server W}

/-- A server waits for a requester: it has nothing to do, and nothing is under way on the connection that the
requester holds; or it holds none, and the server listens where it is going to connect. -/
structure Awaits (listens : String → Bool) (r : Requester) (s : Server W) : Prop where
  running : s.running = true
  idle : s.queue = []
  linked : (r.connection = none ∧ listens r.endpoint = true) ∨
    ∃ n c, r.connection = some n ∧ s.clients[n]? = some c ∧ c.AtRest

theorem atRest_visitor : visitor.AtRest := ⟨rfl, rfl, rfl, ⟨rfl, nofun, rfl⟩, rfl⟩

theorem connect_of_awaits {r : Requester} (h : s.Awaits listens r) :
    ∃ n c clients, r.connect (network listens) s = (.ok n, { r with connection := some n }, { s with clients }) ∧
      clients[n]? = some c ∧ c.AtRest := by
  obtain ⟨endpoint, connection⟩ := r
  rcases h.linked with ⟨hnone, hlistens⟩ | ⟨n, c, hsome, hc, hrest⟩
  · cases hnone
    have hlistens : listens endpoint = true := hlistens
    refine ⟨s.clients.length, visitor, s.clients ++ [visitor], ?_, List.getElem?_concat_length, atRest_visitor⟩
    simp only [Requester.connect, network, connectTo, accept, h.running, hlistens, Bool.and_self, if_true]
  · cases hsome
    exact ⟨n, c, s.clients, rfl, hc, hrest⟩

/-- A request over a connection: the controller handles its body, and the frame that is read is the reply. -/
theorem exchange_of_atRest (listens : String → Bool) (hrunning : s.running = true) (hidle : s.queue = [])
    {n : Nat} {c : ClientStream} (hc : s.clients[n]? = some c) (hrest : c.AtRest)
    {q : Request} {f : ReplyFrame} {d : Dispatcher W} {w : W}
    (hhandle : s.dispatcher.handle (Bytes.ofString q.text) s.world = (f, d, w))
    (hbody : (Bytes.ofString q.text).length ≤ Wire.bodyLimit)
    (hreply : (Bytes.ofString f.text).length ≤ Wire.bodyLimit) {g : ReplyFrame}
    (hread : ReplyFrame.read (Bytes.ofString f.text) = .ok g) :
    ∃ c', c'.AtRest ∧ Requester.exchange (network listens) n q s =
      (.ok g, { dispatcher := d, world := w, clients := s.clients.set n c', queue := [], running := !d.stopping }) := by
  have hsent := sendTo_frame hrunning hidle hc hrest hbody (by rw [hhandle]; exact hreply)
  rw [hhandle] at hsent
  obtain ⟨c₁, hsend, hopen, hreading, hheard, haccepts, htaken⟩ := hsent
  have hc₁ : (s.clients.set n c₁)[n]? = some c₁ := getElem?_set_of_some hc c₁
  generalize hs₁ : Server.mk d w (s.clients.set n c₁) [] (!d.stopping) = s₁ at hsend
  -- the reply is read, and behind it there is nothing
  have hwritten : s₁.written n = Wire.frame (Bytes.ofString f.text) := by
    unfold written
    rw [← hs₁]
    simp only [hc₁, htaken]
  obtain ⟨later, hlater, hincoming⟩ : ∃ later, Wire.bytesOf later = [] ∧
      incomingFrom n s₁ = [.bytes (Wire.frame (Bytes.ofString f.text))] ++ later := by
    unfold incomingFrom
    rw [hwritten]
    by_cases hlinked : s₁.isLinked n = true
    · exact ⟨[.fault .wouldBlock], rfl, by rw [if_pos hlinked]; rfl⟩
    · exact ⟨[], rfl, by rw [if_neg hlinked]; rfl⟩
  have hchunked : Wire.Chunked [.bytes (Wire.frame (Bytes.ofString f.text))] :=
    .cons_bytes (List.cons_ne_nil _ _) .nil
  have hfront : Wire.front (Wire.bytesOf [.bytes (Wire.frame (Bytes.ofString f.text))]) =
      .frame (Bytes.ofString f.text) [] := Wire.front_frame hreply
  obtain ⟨rest, -, hrest', hframe⟩ := Wire.readFrame_of_frame hchunked hfront later
  have hmessage : Wire.readMessage ReplyFrame.read (incomingFrom n s₁) = (.ok g, rest ++ later) := by
    unfold Wire.readMessage
    rw [hincoming, hframe]
    simp only [hread]
  have hempty : Wire.bytesOf (rest ++ later) = [] := by
    unfold Wire.bytesOf at hrest' hlater ⊢
    rw [List.flatMap_append, hrest', hlater]
    rfl
  refine ⟨{ c₁ with outgoing := { c₁.outgoing with taken := [] } },
    ⟨hopen, hreading, hheard, ⟨haccepts.room, haccepts.step, haccepts.flush⟩, rfl⟩, ?_⟩
  have hleave : leaveTo n (rest ++ later) s₁ =
      { s₁ with clients := s.clients.set n { c₁ with outgoing := { c₁.outgoing with taken := [] } } } := by
    unfold leaveTo modifyClient
    rw [← hs₁, hempty]
    simp only [modify_eq_set hc₁, List.set_set]
    rfl
  unfold Requester.exchange
  simp only [network, if_neg (Nat.not_lt.2 hbody), hsend, hmessage, hleave]
  rw [← hs₁]

end Server

namespace RemoteModule
variable {W : Type} {listens : String → Bool} {m : RemoteModule} {s : Server W} {verb : String} {o : Options}

/-- A module that is called over the wire: what the call does to the controller, and what it answers, are
those of the same command to the controller itself. The connection can be used again, unless the controller
was told to stop. -/
theorem send_eq_answer (hawaits : s.Awaits listens m.requester) (hdot : '.' ∉ m.name.toList)
    (hfirst : ∀ c ∈ m.name.toList.head?, Text.isBlank c = false)
    (hlast : ∀ c ∈ verb.toList.getLast?, Text.isBlank c = false) (ho : Reread (depthLimit - 1) o.toJson)
    (hrequest : (Bytes.ofString (Command.request ⟨.ofName m.name, verb, o⟩).text).length ≤ Wire.bodyLimit)
    {r : Reply} {d : Dispatcher W} {w : W}
    (hanswer : s.dispatcher.answer ⟨.ofName m.name, verb, o⟩ s.world = (r, d, w)) (hplain : r.Plain)
    (hreply : (Bytes.ofString (r.frame m.name).text).length ≤ Wire.bodyLimit) :
    ∃ m' s', m.send (Server.network listens) verb o s = (r, m', s') ∧ s'.dispatcher = d ∧ s'.world = w ∧
      m'.name = m.name ∧ (d.stopping = false → s'.Awaits listens m'.requester) := by
  obtain ⟨name, requester⟩ := m
  obtain ⟨n, c, clients, hconnect, hc, hrest⟩ := Server.connect_of_awaits hawaits
  have hhandle : s.dispatcher.handle (Bytes.ofString (Command.request ⟨.ofName name, verb, o⟩).text) s.world =
      (r.frame name, d, w) := by
    rw [Dispatcher.handle_of_ok (decode_request hdot hfirst hlast ho), hanswer, Target.name_ofName]
  obtain ⟨f, hread, rfl⟩ := Reply.reply_of_read hplain name
  have hrunning : ({ s with clients } : Server W).running = true := hawaits.running
  obtain ⟨c', hrest', hexchange⟩ :=
    Server.exchange_of_atRest listens hrunning hawaits.idle hc hrest hhandle hrequest hreply hread
  have hcall : requester.call (Server.network listens) (Command.request ⟨.ofName name, verb, o⟩) s =
      (f.reply, { requester with connection := some n },
        { dispatcher := d, world := w, clients := clients.set n c', queue := [], running := !d.stopping }) := by
    unfold Requester.call Requester.request
    simp only [hconnect, hexchange]
  refine ⟨⟨name, { requester with connection := some n }⟩,
    { dispatcher := d, world := w, clients := clients.set n c', queue := [], running := !d.stopping },
    ?_, rfl, rfl, rfl, ?_⟩
  · unfold send
    simp only [hcall]
  · intro hstop
    exact ⟨by simp only [hstop, Bool.not_false], rfl,
      .inr ⟨n, c', rfl, Server.getElem?_set_of_some hc c', hrest'⟩⟩

/-- The bell of a tower, rung from afar. -/
def farBell : RemoteModule := .new "bell" "tower:10000"

def twice : Options := ⟨[("times", .int 2)]⟩

theorem send_farBell :
    (Server.new { registry := Dispatcher.tower } 0).Awaits (fun _ => true) farBell.requester ∧
      Reread (depthLimit - 1) twice.toJson ∧ Reply.done.Plain ∧
      ∃ m' s', farBell.send (Server.network fun _ => true) "ring" twice (Server.new { registry := Dispatcher.tower } 0) =
          (.done, m', s') ∧
        s'.dispatcher = (Dispatcher.answer { registry := Dispatcher.tower } ⟨.ofName "bell", "ring", twice⟩ 0).2.1 ∧
        s'.world = 1 ∧ m'.name = "bell" ∧
        (s'.dispatcher.stopping = false → s'.Awaits (fun _ => true) m'.requester) := by
  have hawaits : (Server.new { registry := Dispatcher.tower } 0).Awaits (fun _ => true) farBell.requester :=
    ⟨rfl, rfl, .inl ⟨rfl, rfl⟩⟩
  have htwice : Reread (depthLimit - 1) twice.toJson := reread_iff.2 rfl
  have hdone : Reply.done.Plain := by
    rintro message fields ⟨⟩
    exact ⟨reread_iff.2 rfl, nofun⟩
  have hfirst : ∀ c ∈ "bell".toList.head?, Text.isBlank c = false := by
    rintro c ⟨⟩
    rfl
  have hlast : ∀ c ∈ "ring".toList.getLast?, Text.isBlank c = false := by
    rintro c ⟨⟩
    rfl
  obtain ⟨m', s', hsend, hdispatcher, hworld, hname, hagain⟩ :=
    send_eq_answer (m := farBell) hawaits (by decide) hfirst hlast htwice (by decide +kernel) rfl hdone
      (by decide +kernel)
  refine ⟨hawaits, htwice, hdone, m', s', hsend, hdispatcher, hworld, hname, ?_⟩
  rw [hdispatcher]
  exact hagain

end RemoteModule

end DetectorControl
