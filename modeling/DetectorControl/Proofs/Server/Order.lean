import DetectorControl.Proofs.Server.Readers
import DetectorControl.Proofs.Wire.Sinks

/-!
# Order and isolation of connections

Where every reply is written in full, what was written to a client are the replies to what was done for
it, and it is cut off only behind a header that is too large (`Told`). With what the readers make of the
streams and with the log of the controller this says all that a client can see of a run (`order_of_run`).
-/

namespace DetectorControl

/-- The bytes in which a reply is sent. -/
def ReplyFrame.bytes (f : ReplyFrame) : Bytes := Wire.frame (Bytes.ofString f.text)

namespace Deed
variable {own : List Deed} {x : Deed} {bodies : List Bytes} {rejected : Option Nat}

/-- Requests and then a refusal, as what was done: the bodies of the requests, their replies and the
reply to the refusal. -/
theorem of_works
    (h : own.map (·.job.work) = bodies.map .request ++ rejected.toList.map .reject)
    (hreply : ∀ x ∈ own, ∀ k, x.job.work = .reject k → x.reply = Server.rejection k) :
    requests own = bodies ∧
      own.map reply = answers own ++ rejected.toList.map Server.rejection ∧
      own.all (·.body?.isSome) = rejected.isNone := by
  induction own generalizing bodies with
  | nil =>
    obtain ⟨hbodies, hrejected⟩ := List.append_eq_nil_iff.1 h.symm
    cases rejected with
    | some k => cases hrejected
    | none =>
      cases bodies with
      | nil => exact ⟨rfl, rfl, rfl⟩
      | cons => cases hbodies
  | cons x own ih =>
    obtain ⟨⟨client, work⟩, f⟩ := x
    cases bodies with
    | cons body bodies =>
      obtain ⟨hwork, hrest⟩ := List.cons.inj h
      cases hwork
      obtain ⟨hrequests, hreplies, hopen⟩ := ih hrest fun y hy => hreply y (by simp [hy])
      refine ⟨congrArg (body :: ·) hrequests, congrArg (f :: ·) hreplies, ?_⟩
      rw [List.all_cons, hopen]
      rfl
    | nil =>
      cases rejected with
      | none => cases h
      | some k =>
        obtain ⟨hwork, hrest⟩ := List.cons.inj h
        cases hwork
        obtain rfl : own = [] := List.map_eq_nil_iff.1 hrest
        have hf : f = Server.rejection k := hreply ⟨⟨client, .reject k⟩, f⟩ (by simp) k rfl
        exact ⟨rfl, congrArg (· :: []) hf, rfl⟩

end Deed

/-- What was written to a client are the replies to what was done for it, and it is connected as long as
no header was refused. -/
structure Told (own : List Deed) (c : ClientStream) : Prop where
  written : c.outgoing.taken.reverse = own.flatMap (·.reply.bytes)
  isOpen : c.isOpen = own.all (·.body?.isSome)

namespace Told
variable {own : List Deed} {c c' : ClientStream}

theorem congr (h : Told own c) (hopen : c'.isOpen = c.isOpen)
    (htaken : c'.outgoing.taken = c.outgoing.taken) : Told own c' :=
  ⟨by rw [htaken, h.written], by rw [hopen, h.isOpen]⟩

/-- A reply that is written in full stands behind those before it. -/
theorem attended (h : Told own c) (hopen : c.isOpen = true) {x : Deed}
    (hwrite : (c.outgoing.writeFrame (Bytes.ofString x.reply.text)).1 = .ok ()) :
    Told (own ++ [x]) (c.attended x) := by
  obtain ⟨part, -, htaken, hall⟩ := Wire.Sink.takes_writeFrame c.outgoing (Bytes.ofString x.reply.text)
  have hpart : part = x.reply.bytes := hall hwrite
  have hwritten : (c.told x.reply).outgoing.taken.reverse = (own ++ [x]).flatMap (·.reply.bytes) := by
    rw [ClientStream.told, if_pos hopen, htaken, hpart, List.reverse_append, List.reverse_reverse, h.written,
      List.flatMap_append, List.flatMap_singleton]
  have hown : own.all (·.body?.isSome) = true := by rw [← h.isOpen, hopen]
  have htold : (c.told x.reply).isOpen = true := by rw [ClientStream.told, if_pos hopen, hopen]
  obtain ⟨⟨client, work⟩, f⟩ := x
  cases work with
  | request body => exact ⟨hwritten, by rw [List.all_append, hown]; exact htold⟩
  | reject k => exact ⟨hwritten, by rw [List.all_append, hown]; rfl⟩

end Told

/-- What a client was done, after what it sent: the requests are a first part of its frames, there is a
refusal only behind all of them, the replies to both were written in order, and then nothing more. -/
structure Attended (sent : Bytes) (own : List Deed) (rejected : Option Nat) (c : ClientStream) : Prop where
  begins : Deed.requests own <+: (Wire.contents sent).1
  refused : ∀ k ∈ rejected, Wire.contents sent = (Deed.requests own, some k)
  works : own.map (·.job.work) = (Deed.requests own).map .request ++ rejected.toList.map .reject
  written : c.outgoing.taken.reverse =
    (Deed.answers own ++ rejected.toList.map Server.rejection).flatMap ReplyFrame.bytes
  isOpen : c.isOpen = rejected.isNone

namespace Server
variable {W : Type}

/-- A connection is new when it comes, and a reply to a client that is connected is written in full. -/
structure Writes (s : Server W) (x : Step) : Prop where
  fresh : ∀ c ∈ s.arrival? x, c.isOpen = true ∧ c.outgoing.taken = []
  inFull : ∀ y ∈ s.deed? x, ∀ c ∈ s.clients[y.job.client]?, c.isOpen = true →
    (c.outgoing.writeFrame (Bytes.ofString y.reply.text)).1 = .ok ()

/-- Every reader keeps to the order of its connection, and every client was told what was done for it. -/
structure Tidy (came : List ClientStream) (done : List Deed) (s : Server W) : Prop
    extends Ordered came done s where
  told : ∀ (n : Nat) (c : ClientStream), s.clients[n]? = some c → Told (Deed.of n done) c

namespace Tidy
variable {s : Server W} {came : List ClientStream} {done : List Deed}

/-- Who has a job to be done is still connected. -/
theorem isOpen (h : Tidy came done s) {j : Job} {queue : List Job} (hqueue : s.queue = j :: queue)
    {c : ClientStream} (hc : s.clients[j.client]? = some c) : c.isOpen = true := by
  have hn : j.client < came.length := by
    rw [← h.length]
    exact (List.getElem?_eq_some_iff.1 hc).1
  obtain ⟨bodies, rejected, horder, -⟩ := h.reads j.client _ c (List.getElem?_eq_getElem hn) hc
  -- a refusal is the last work of a client, and there is work left
  have hlater : Job.worksOf j.client s.queue ≠ [] := by simp [hqueue, Job.worksOf]
  rw [jobs, Job.worksOf_append] at horder
  obtain ⟨bodies', rejected', horder', hnone⟩ := horder.cut
  cases hnone hlater
  rw [(h.told j.client c hc).isOpen, List.all_eq_true]
  intro x hx
  have hwork : x.job.work ∈ Job.worksOf j.client (done.map (·.job)) := by
    rw [Job.worksOf_map_job]
    exact List.mem_map.2 ⟨x, hx, rfl⟩
  rw [horder'.works_eq] at hwork
  simp only [Option.toList_none, List.map_nil, List.append_nil, List.mem_map] at hwork
  obtain ⟨body, -, hwork⟩ := hwork
  simp [Deed.body?, ← hwork]

theorem step (h : Tidy came done s) {x : Step} (hx : s.Writes x) :
    Tidy (came ++ (s.arrival? x).toList) (done ++ (s.deed? x).toList) (s.step x) := by
  have hdoes := step_does s x
  refine ⟨h.toOrdered.does hdoes, hdoes.clients h.told (fun c hc => ?_) (fun own c h => h.congr rfl rfl)
    (fun n room hx own c h => h.congr rfl rfl) fun y hy queue hqueue c hc htold => ?_⟩
  · obtain ⟨hopen, htaken⟩ := hx.fresh c (Option.mem_toList.1 hc)
    rw [Deed.of_eq_nil fun y hy => ?_]
    · exact ⟨by rw [htaken]; rfl, by rw [hopen]; rfl⟩
    · have hclient := h.known y.job (List.mem_append_left _ (List.mem_map_of_mem hy))
      rw [← h.length] at hclient
      omega
  · have hopen := h.isOpen hqueue hc
    exact htold.attended hopen (hx.inFull y (Option.mem_toList.1 hy) c hc hopen)

end Tidy

theorem tidy_new (d : Dispatcher W) (w : W) : Tidy [] [] (new d w) :=
  ⟨ordered_new d w, fun _ _ hc => absurd hc (by simp [new])⟩

/-- All that a run shows: the connections that came, what was done, and the server after it. -/
structure Orderly (d : Dispatcher W) (w : W) (came : List ClientStream) (done : List Deed) (s : Server W) :
    Prop where
  /-- The controller answers the requests in the order in which they were done. -/
  answered : Answered d w done s
  /-- Nothing is done for anyone but the connections that came. -/
  known : ∀ x ∈ done, x.job.client < came.length
  /-- What is done for a connection is what it sent, and it sees the replies to that. -/
  attended : ∀ (n : Nat) (c₀ : ClientStream), came[n]? = some c₀ → ∃ c rejected, s.clients[n]? = some c ∧
    Attended (Wire.bytesOf c₀.incoming) (Deed.of n done) rejected c
  /-- A command to stop is answered, and after it nothing is done for anyone. -/
  stopped : ∀ (front rest : List Deed) (x : Deed) (body : Bytes), done = front ++ x :: rest →
    x.body? = some body → Dispatcher.Stops body → x.reply = Dispatcher.stopped ∧ rest = []

/-- Any number of connections, any bytes on each of them, and any turns of readers and loop in which every
reply is written in full. -/
theorem order_of_run (d : Dispatcher W) (w : W) {steps : List Step} (h : (new d w).Along Writes steps) :
    Orderly d w ((new d w).arrivals steps) ((new d w).deeds steps) ((new d w).run steps) := by
  have hanswered := answered_run d w steps
  have htidy := run_preserves (I := Tidy) (fun _ _ _ _ hx h => h.step hx) h (tidy_new d w)
  generalize hdone : (new d w).deeds steps = done at hanswered htidy
  refine ⟨hanswered, fun x hx => ?_, fun n c₀ hcame => ?_, fun front rest x body hsplit hbody hstops => ?_⟩
  · exact htidy.known x.job (List.mem_append_left _ (List.mem_map_of_mem hx))
  · obtain ⟨c, hc⟩ : ∃ c, ((new d w).run steps).clients[n]? = some c := by
      have hn := (List.getElem?_eq_some_iff.1 hcame).1
      rw [← htidy.length] at hn
      exact ⟨_, List.getElem?_eq_getElem hn⟩
    obtain ⟨bodies₀, rejected₀, horder₀, -⟩ := htidy.reads n c₀ c hcame hc
    -- of what was read, only the first part is done yet
    rw [jobs, Job.worksOf_append] at horder₀
    obtain ⟨bodies, rejected, horder, -⟩ := horder₀.cut
    have hworks := horder.works_eq
    rw [Job.worksOf_map_job] at hworks
    obtain ⟨rfl, hreplies, hopen⟩ := Deed.of_works hworks
      fun x hx => hanswered.rejections x (List.mem_filter.1 hx).1
    have htold := htidy.told n c hc
    refine ⟨c, rejected, hc, horder.begins, horder.refused, hworks, ?_, htold.isOpen.trans hopen⟩
    rw [htold.written, ← hreplies, List.flatMap_map]
  · exact deeds_of_stop (hdone.trans hsplit) hbody hstops

/-! ## A run -/

instance (x : Except ProtocolError Unit) : Decidable (x = .ok ()) :=
  match x with
  | .ok () => isTrue rfl
  | .error _ => isFalse nofun

instance (s : Server W) (x : Step) : Decidable (s.Writes x) :=
  decidable_of_iff
    ((∀ c ∈ s.arrival? x, c.isOpen = true ∧ c.outgoing.taken = []) ∧
      ∀ y ∈ s.deed? x, ∀ c ∈ s.clients[y.job.client]?, c.isOpen = true →
        (c.outgoing.writeFrame (Bytes.ofString y.reply.text)).1 = .ok ())
    ⟨fun h => ⟨h.1, h.2⟩, fun h => ⟨h.fresh, h.inFull⟩⟩

/-- A controller without modules. -/
def idle : Server Unit := new { registry := .empty } ()

def asking (texts : List String) : Bytes := texts.flatMap fun text => Wire.frame (Bytes.ofString text)

/-- One client asks for what there is not and then announces too much; another one stops the controller,
and asks on. -/
def rush : List Step :=
  [.accept { incoming := [.bytes (asking ["\x7b\"command\":\"hv.status\"\x7d"] ++ Wire.header 0x200000)] },
    .read 0, .read 0,
    .accept { incoming := [.bytes (asking ["\x7b\"command\":\"stop\"\x7d", "\x7b\"command\":\"hv.status\"\x7d"])] },
    .read 1, .dispatch, .read 1, .dispatch, .dispatch, .dispatch]

theorem order_of_rush :
    idle.Along Writes rush ∧ (idle.deeds rush).map (·.job.client) = [0, 0, 1] ∧
      Orderly { registry := .empty } () (idle.arrivals rush) (idle.deeds rush) (idle.run rush) := by
  have h : idle.Along Writes rush := by decide +kernel
  exact ⟨h, by decide +kernel, order_of_run _ _ h⟩

end Server

end DetectorControl
