import DetectorControl.Proofs.Client.Provenance

/-!
# Whose reply a call returns

A connection that is held between calls is empty both ways (`Held`), because it is given up with every call that
fails. What is read on it after a request was sent can then only be the answer to that request (`Awaits`). So
each reply is the one to its own call, and nothing is carried out twice (`Requester.own_replies_of_calls`).
-/

namespace DetectorControl

namespace Wire

theorem readMessage_eq_ok {α : Type} {read : Bytes → Except Json.Fault α} {s s' : Source} {a : α}
    (h : readMessage read s = (.ok a, s')) : ∃ body, readFrame s = (.ok body, s') ∧ read body = .ok a := by
  unfold readMessage at h
  split at h
  · cases h
  · rename_i body s₁ hframe
    split at h
    · rename_i a' hread
      cases h
      exact ⟨body, hframe, hread⟩
    · cases h

end Wire

namespace Traffic
variable {S : Type} {p : Responder S} {start : S} {asked : List (Request × Fate)} {w w' : Traffic S} {m n : Nat}

/-- A request has gone out on a connection and stands there alone, or was carried out and its answer stands there
alone. -/
inductive Awaits (call : Nat) (body : Bytes) (n : Nat) (w : Traffic S) : Prop
  | waiting (h : w.lanes n = ⟨(Wire.frame body).map (call, ·), []⟩)
  | answered {e : Execution} (he : e ∈ w.log) (hby : e.By call) (hbody : e.body = body)
    (hfits : e.answer.length ≤ Bounds.natural32) (h : w.lanes n = ⟨[], Wire.frame e.answer⟩)

theorem Awaits.serve {call : Nat} {body : Bytes} (hlimit : body.length ≤ Wire.bodyLimit) (h : w.Awaits call body n)
    (m : Nat) : (w.serve p m).Awaits call body n := by
  by_cases hm : n = m
  · subst hm
    cases h with
    | waiting h =>
      have harrived : (w.lanes n).arrived = (Wire.frame body).map (call, ·) := congrArg Lane.arrived h
      have hfront : Wire.front ((w.lanes n).arrived.map (·.2)) = .frame body [] := by
        have hbytes : (w.lanes n).arrived.map (·.2) = Wire.frame body ++ [] := by
          rw [harrived, List.map_map, List.append_nil]
          exact List.map_id _
        rw [hbytes]
        exact Wire.front_frame hlimit
      have hserve : w.serve p n = w.carryOut p n call body := by
        rw [← execute_eq_carryOut harrived, Traffic.serve, hfront]
      rw [hserve]
      refine .answered (List.mem_append_right _ (List.mem_singleton_self _)) rfl rfl (p.fits _ _)
        (lanes_putLane_self.trans ?_)
      rw [h]
      rfl
    | answered he hby hbody hfits h =>
      have hempty : (w.lanes n).arrived = [] := congrArg Lane.arrived h
      rw [serve_of_empty hempty]
      exact .answered he hby hbody hfits h
  · have hlane : (w.serve p m).lanes n = w.lanes n := lanes_serve_of_ne hm
    cases h with
    | waiting h => exact .waiting (hlane.trans h)
    | answered he hby hbody hfits h =>
      exact .answered ((later_serve p w m).log.subset he) hby hbody hfits (hlane.trans h)

/-- What is read then is the answer, and nothing is left on the connection. -/
theorem Awaits.read {call : Nat} {body : Bytes} (h : w.Awaits call body n) {f : ReplyFrame} {rest : Wire.Source}
    (hread : Wire.readMessage ReplyFrame.read (w.incoming n) = (.ok f, rest)) :
    (w.leave n rest).lanes n = {} ∧
      ∃ e ∈ w.log, e.By call ∧ e.body = body ∧ ReplyFrame.read e.answer = .ok f := by
  obtain ⟨answer, hframe, hf⟩ := Wire.readMessage_eq_ok hread
  have hpart : Wire.bytesOf (w.incoming n) <+: (w.lanes n).unread := w.fate.delivery.part _
  cases h with
  | waiting h =>
    rw [h] at hpart
    have hfront := Wire.front_of_readFrame hframe
    rw [List.prefix_nil.1 hpart] at hfront
    cases hfront
  | @answered e he hby hbody hfits h =>
    have hlane : w.lanes n = ⟨[], Wire.frame e.answer⟩ := h
    rw [h] at hpart
    obtain ⟨rfl, hbytes, hrest⟩ := Wire.readFrame_of_prefix hpart hfits hframe
    refine ⟨?_, e, he, hby, hbody, hf⟩
    refine lanes_putLane_self.trans ?_
    rw [hlane, hbytes, hrest]
    exact congrArg (Lane.mk []) (List.drop_length ..)

/-! ## One call -/

/-- A connection that is held has been opened, and is empty. -/
def Held (r : Requester) (w : Traffic S) : Prop := ∀ n, r.connection = some n → n < w.opened ∧ w.lanes n = {}

theorem Held.serve {r : Requester} (h : Held r w) (m : Nat) : Held r (w.serve p m) := by
  intro n hn
  obtain ⟨hlt, hlane⟩ := h n hn
  rw [(later_serve p w m).opened]
  refine ⟨hlt, ?_⟩
  by_cases hm : n = m
  · subst hm
    have hempty : (w.lanes n).arrived = [] := congrArg Lane.arrived hlane
    rw [serve_of_empty hempty]
    exact hlane
  · exact (lanes_serve_of_ne hm).trans hlane

theorem send_eq_ok {bs : Bytes} (h : w.send p n bs = (.ok (), w')) :
    w.fate.outgoing bs = bs ∧ w' = (w.deliver n bs).serveAll p w.fate.served := by
  unfold send at h
  dsimp only at h
  split at h
  · rename_i hwhole
    have houtgoing : w.fate.outgoing bs = bs := by
      unfold Fate.outgoing
      rw [hwhole]
    rw [houtgoing] at h
    cases h
    exact ⟨houtgoing, rfl⟩
  · cases h

theorem send_eq_error {bs : Bytes} {f : IoFault} (h : w.send p n bs = (.error f, w')) :
    w' = w.deliver n (w.fate.outgoing bs) := by
  unfold send at h
  dsimp only at h
  split at h
  · cases h
  · cases h
    rfl

/-- A call on an empty connection. If it comes back with a reply, the request was carried out and the reply is
the answer to it, and the connection is empty again. -/
theorem exchange_sound (h : Sound p start asked w) (hcall : w.call = asked.length) (hn : n < w.opened)
    (hlane : w.lanes n = {}) {q : Request} {result : Except ProtocolError ReplyFrame}
    (hexchange : Requester.exchange (network p) n q w = (result, w')) :
    Sound p start (asked ++ [(q, w.fate)]) w' ∧ w'.call = w.call ∧ w'.opened = w.opened ∧ w.log <+: w'.log ∧
      ∀ f, result = .ok f → w'.lanes n = {} ∧
        ∃ e ∈ w'.log, e.By w.call ∧ e.body = q.body ∧ ReplyFrame.read e.answer = .ok f := by
  have hbody : Bytes.ofString q.text = q.body := rfl
  unfold Requester.exchange at hexchange
  dsimp only at hexchange
  rw [hbody] at hexchange
  split at hexchange
  · cases hexchange
    exact ⟨h.skip _, rfl, rfl, List.prefix_rfl, nofun⟩
  · rename_i hlimit
    have hlimit := Nat.not_lt.1 hlimit
    have hdelivered := h.deliver hcall hn (congrArg Lane.arrived hlane) hlimit
    split at hexchange
    · rename_i f w₁ hsend
      obtain rfl := send_eq_error hsend
      cases hexchange
      exact ⟨hdelivered, rfl, rfl, List.prefix_rfl, nofun⟩
    · rename_i w₁ hsend
      obtain ⟨hwhole, rfl⟩ := send_eq_ok hsend
      have hlater := later_serveAll p (w.deliver n (Wire.frame q.body)) w.fate.served
      have hawaits : ((w.deliver n (Wire.frame q.body)).serveAll p w.fate.served).Awaits w.call q.body n := by
        refine serveAll_preserves (fun _ m h => h.serve hlimit m) _ (.waiting (lanes_putLane_self.trans ?_))
        rw [hlane]
        rfl
      rw [hwhole] at hdelivered
      have hserved := hdelivered.serveAll w.fate.served
      generalize hw₁ : (w.deliver n (Wire.frame q.body)).serveAll p w.fate.served = w₁ at *
      cases hexchange
      refine ⟨hserved.leave n _, hlater.call, hlater.opened, hlater.log, fun f hf => ?_⟩
      have hread : Wire.readMessage ReplyFrame.read (w₁.incoming n) =
          (.ok f, (Wire.readMessage ReplyFrame.read (w₁.incoming n)).2) := Prod.ext hf rfl
      exact hawaits.read hread

/-- What is known after a call: where all bytes are, that a reply is the answer to the request of the call, and
that no connection is held if there is none. -/
structure Called (p : Responder S) (start : S) (asked : List (Request × Fate)) (q : Request)
    (result : Except ProtocolError ReplyFrame) (r : Requester) (w : Traffic S) : Prop where
  sound : Sound p start asked w
  held : Held r w
  answered : ∀ f, result = .ok f →
    ∃ e ∈ w.log, e.By w.call ∧ e.body = q.body ∧ ReplyFrame.read e.answer = .ok f
  dropped : ∀ e, result = .error e → r.isConnected = false

theorem connect_held (h : Sound p start asked w) {r : Requester} (hr : Held r w) :
    (∃ e, r.connect (network p) w = (.error e, r, w) ∧ r.connection = none) ∨
      ∃ n r' w₁, r.connect (network p) w = (.ok n, r', w₁) ∧ r'.connection = some n ∧
        Sound p start asked w₁ ∧ n < w₁.opened ∧ w₁.lanes n = {} ∧
        w₁.call = w.call ∧ w₁.fate = w.fate ∧ w₁.log = w.log := by
  cases hconnection : r.connection with
  | some n =>
    obtain ⟨hn, hlane⟩ := hr n hconnection
    have hconnect : r.connect (network p) w = (.ok n, r, w) := by
      unfold Requester.connect
      rw [hconnection]
    exact .inr ⟨n, r, w, hconnect, hconnection, h, hn, hlane, rfl, rfl, rfl⟩
  | none =>
    have hnetwork : (network p).connect r.endpoint w = w.connect := rfl
    unfold connect at hnetwork
    by_cases hreachable : w.fate.reachable = true
    · rw [if_pos hreachable] at hnetwork
      have hconnect : r.connect (network p) w =
          (.ok w.opened, { r with connection := some w.opened }, { w with opened := w.opened + 1 }) := by
        unfold Requester.connect
        simp only [hconnection, hnetwork]
      have hopened : Sound p start asked { w with opened := w.opened + 1 } :=
        h.of_arrived (fun _ => rfl) rfl rfl rfl fun m hm => h.untouched m (Nat.le_of_succ_le hm)
      exact .inr ⟨w.opened, _, _, hconnect, rfl, hopened, Nat.lt_succ_self _, h.untouched _ (Nat.le_refl _),
        rfl, rfl, rfl⟩
    · rw [if_neg hreachable] at hnetwork
      have hconnect : r.connect (network p) w = (.error (.notConnected r.endpoint), r, w) := by
        unfold Requester.connect
        simp only [hconnection, hnetwork]
      exact .inl ⟨_, hconnect, rfl⟩

theorem request_called (h : Sound p start asked w) (hcall : w.call = asked.length) {r r' : Requester} (hr : Held r w)
    {q : Request} {result : Except ProtocolError ReplyFrame}
    (hrequest : r.request (network p) q w = (result, r', w')) :
    Called p start (asked ++ [(q, w.fate)]) q result r' w' ∧ w'.call = w.call ∧ w.log <+: w'.log := by
  unfold Requester.request at hrequest
  obtain ⟨e, hconnect, hnone⟩ | ⟨n, r₁, w₁, hconnect, hr₁, h₁, hn, hlane, hcall₁, hfate₁, hlog₁⟩ := connect_held h hr
  · rw [hconnect] at hrequest
    cases hrequest
    refine ⟨⟨h.skip _, hr, nofun, fun _ _ => ?_⟩, rfl, List.prefix_rfl⟩
    rw [Requester.isConnected, hnone]
    rfl
  · rw [hconnect] at hrequest
    simp only at hrequest
    obtain ⟨⟨answer, w₂⟩, hexchange⟩ : ∃ after, Requester.exchange (network p) n q w₁ = after := ⟨_, rfl⟩
    obtain ⟨hsound, hcall₂, hopened, hlog, hreply⟩ := exchange_sound h₁ (hcall₁.trans hcall) hn hlane hexchange
    rw [hfate₁] at hsound
    rw [hlog₁] at hlog
    rw [hcall₁] at hcall₂ hreply
    rw [hexchange] at hrequest
    cases answer with
    | ok f =>
      cases hrequest
      obtain ⟨hempty, hanswer⟩ := hreply f rfl
      refine ⟨⟨hsound, fun m hm => ?_, fun f' hf' => ?_, nofun⟩, hcall₂, hlog⟩
      · obtain rfl := Option.some.inj (hr₁.symm.trans hm)
        rw [hopened]
        exact ⟨hn, hempty⟩
      · cases hf'
        rw [hcall₂]
        exact hanswer
    | error e =>
      have hdisconnect : r₁.disconnect (network p) w₂ = ({ r₁ with connection := none }, w₂) := by
        unfold Requester.disconnect
        rw [hr₁]
        rfl
      simp only [hdisconnect] at hrequest
      cases hrequest
      exact ⟨⟨hsound, nofun, nofun, fun _ _ => rfl⟩, hcall₂, hlog⟩

/-! ## Call after call -/

theorem begin_sound (h : Sound p start asked w) {r : Requester} (hr : Held r w) (fate : Fate) :
    Sound p start asked (w.begin p fate) ∧ Held r (w.begin p fate) ∧ (w.begin p fate).call = w.call ∧
      (w.begin p fate).fate = fate ∧ w.log <+: (w.begin p fate).log := by
  have hfate : Sound p start asked { w with fate } := h.of_arrived (fun _ => rfl) rfl rfl rfl h.untouched
  have hheld : Held r { w with fate } := hr
  have hlater := later_serveAll p { w with fate } fate.before
  exact ⟨hfate.serveAll _, serveAll_preserves (fun _ m h => h.serve m) _ hheld, hlater.call, hlater.fate, hlater.log⟩

/-- What is known of calls one after the other, behind those that were asked before. -/
theorem calls_called (h : Sound p start asked w) (hcall : w.call = asked.length) {r : Requester} (hr : Held r w)
    (calls : List (Request × Fate)) :
    Sound p start (asked ++ calls) (r.calls p w calls).2.2 ∧ w.log <+: (r.calls p w calls).2.2.log ∧
      (r.calls p w calls).1.length = calls.length ∧
      ∀ i result held, (r.calls p w calls).1[i]? = some (result, held) →
        (∀ f, result = .ok f → ∃ e ∈ (r.calls p w calls).2.2.log, e.By (asked.length + i) ∧
          calls[i]?.map (·.1.body) = some e.body ∧ ReplyFrame.read e.answer = .ok f) ∧
        ∀ e, result = .error e → held = false := by
  induction calls generalizing asked r w with
  | nil =>
    rw [List.append_nil]
    exact ⟨h, List.prefix_rfl, rfl, nofun⟩
  | cons call rest ih =>
    obtain ⟨q, fate⟩ := call
    obtain ⟨hbegun, hheld, hcall₁, hfate, hlog⟩ := begin_sound h hr fate
    obtain ⟨⟨result, r', w'⟩, hrequest⟩ : ∃ after, r.request (network p) q (w.begin p fate) = after := ⟨_, rfl⟩
    obtain ⟨hcalled, hcall₂, hlog₂⟩ := request_called hbegun (hcall₁.trans hcall) hheld hrequest
    rw [hfate] at hcalled
    have hnumber : w'.call = asked.length := (hcall₂.trans hcall₁).trans hcall
    have hsound := hcalled.sound
    have hnext : Sound p start (asked ++ [(q, fate)]) w'.next :=
      hsound.of_arrived (fun _ => rfl) rfl rfl rfl hsound.untouched
    have hlength : w'.next.call = (asked ++ [(q, fate)]).length := by
      rw [List.length_append]
      exact congrArg (· + 1) hnumber
    obtain ⟨hsound', hlog', hcount, hresults⟩ := ih (w := w'.next) hnext hlength hcalled.held
    have hcalls : r.calls p w ((q, fate) :: rest) =
        ((result, r'.isConnected) :: (r'.calls p w'.next rest).1, (r'.calls p w'.next rest).2) := by
      rw [Requester.calls, hrequest]
    rw [hcalls]
    rw [List.append_assoc] at hsound'
    refine ⟨hsound', (hlog.trans hlog₂).trans hlog', congrArg (· + 1) hcount, fun i result' held hi => ?_⟩
    cases i with
    | zero =>
      cases hi
      refine ⟨fun f hf => ?_, hcalled.dropped⟩
      obtain ⟨e, he, hby, hbody, hread⟩ := hcalled.answered f hf
      rw [hnumber] at hby
      exact ⟨e, hlog'.subset he, hby, congrArg some hbody.symm, hread⟩
    | succ i =>
      obtain ⟨hanswered, hdropped⟩ := hresults i result' held hi
      refine ⟨fun f hf => ?_, hdropped⟩
      obtain ⟨e, he, hby, hbody, hread⟩ := hanswered f hf
      rw [List.length_append, Nat.add_assoc, Nat.add_comm [_].length] at hby
      exact ⟨e, he, hby, hbody, hread⟩

end Traffic

/-- A client calls a program, call after call, whatever happens to each call, and however the program goes on
afterwards. A reply that a call returns is the answer to the request of that call, and after a call that fails no
connection is held. The program has carried out nothing but requests whose frames one call had sent in full, none
of them more than once, and none whose frame was not sent in full; and no call has sent anything twice. -/
theorem Requester.own_replies_of_calls {S : Type} (p : Responder S) (start : S) (endpoint : String)
    (calls : List (Request × Fate)) (later : List Nat) :
    let run := Requester.calls p { endpoint } { program := start } calls
    let w := run.2.2.serveAll p later
    (run.1.length = calls.length ∧
      ∀ i result held, run.1[i]? = some (result, held) →
        (∀ f, result = .ok f → ∃ e ∈ w.log, e.By i ∧ calls[i]?.map (·.1.body) = some e.body ∧
          ReplyFrame.read e.answer = .ok f) ∧
        ∀ e, result = .error e → held = false) ∧
    p.answers (w.log.map (·.body)) start = (w.log.map (·.answer), w.program) ∧
    (∀ e ∈ w.log, ∃ i, e.By i ∧ calls[i]?.map (·.1.body) = some e.body) ∧
    (∀ i, w.log.countP (i ∈ ·.origin) ≤ 1) ∧
    (∀ i q fate, calls[i]? = some (q, fate) → (i, Wire.frame q.body) ∉ w.sent → ∀ e ∈ w.log, i ∉ e.origin) ∧
    (w.sent.map (·.1)).Nodup ∧
    ∀ x ∈ w.sent, ∃ q fate, calls[x.1]? = some (q, fate) ∧ x.2 = fate.outgoing (Wire.frame q.body) := by
  intro run w
  have hnobody : Traffic.Held (S := S) { endpoint } { program := start } := nofun
  obtain ⟨hrun, -, hcount, hresults⟩ := Traffic.calls_called (Traffic.sound_new p start) rfl hnobody calls
  have hsound : Traffic.Sound p start calls w := hrun.serveAll later
  have hlater := Traffic.later_serveAll p run.2.2 later
  refine ⟨⟨hcount, fun i result held hi => ?_⟩, hsound.answers, fun e he => ?_, hsound.once,
    fun i q fate hi hunsent e he horigin => ?_, hsound.single, fun x hx => ?_⟩
  · obtain ⟨hanswered, hdropped⟩ := hresults i result held hi
    refine ⟨fun f hf => ?_, hdropped⟩
    obtain ⟨e, he, hby, hbody, hread⟩ := hanswered f hf
    rw [List.length_nil, Nat.zero_add] at hby
    exact ⟨e, hlater.log.subset he, hby, hbody, hread⟩
  · obtain ⟨i, q, fate, hby, hasked, hbody, -⟩ := hsound.of_executed he
    exact ⟨i, hby, by rw [hasked, hbody]; rfl⟩
  · obtain ⟨j, q', fate', hby, hasked, -, hsent⟩ := hsound.of_executed he
    obtain rfl := Traffic.Sound.eq_of_mem_origin hby horigin
    cases hi.symm.trans hasked
    exact hunsent hsent
  · obtain ⟨q, fate, hasked, -, hout⟩ := hsound.sent x hx
    exact ⟨q, fate, hasked, hout⟩

/-- A program that has another answer for one request than for all others. -/
def Responder.bench : Responder Unit where
  answer body _ := (Bytes.ofString (if body = Request.body { command := "early" } then "\x7b\"status\":\"ok\"\x7d"
    else "\x7b\"status\":\"ok\",\"message\":\"late\"\x7d"), ())
  fits body _ := by
    split <;> decide

/-- The first call waits in vain, and its request is carried out when the client has left. -/
example :
    let run := Requester.calls .bench { endpoint := "" } { program := () }
      [({ command := "early" }, {}), ({ command := "late" }, { before := [0], served := [1] })]
    run.1.map (fun x => (x.1.toOption.map (·.message), x.2)) = [(none, false), (some (some "late"), true)] ∧
      run.2.2.log.map (·.origin.head?) = [some 0, some 1] := by
  decide +kernel

end DetectorControl
