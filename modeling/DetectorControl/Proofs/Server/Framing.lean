import DetectorControl.Proofs.Server.Order

/-!
# Streams of replies after failed writes

A write to a client may fail on the way. As long as the client makes no room after that, the stream takes
nothing more, and what was written stays a first part of whole replies (`framed_of_run`). A client that
makes room again is sent the next reply behind the part of the one before, and cannot tell the two apart
(`torn_stream`).
-/

namespace DetectorControl

/-- What was written to a client are replies to what was done for it, of which only the last one may be
written in part, and then the stream takes nothing more. -/
def Framed (own : List Deed) (c : ClientStream) : Prop :=
  ∃ replies, List.Sublist replies (own.map (·.reply)) ∧
    (c.outgoing.taken.reverse = replies.flatMap ReplyFrame.bytes ∨
      c.outgoing.taken.reverse <+: replies.flatMap ReplyFrame.bytes ∧ c.outgoing.Stuck)

namespace Framed
variable {own : List Deed} {c c' : ClientStream}

theorem of_nil (own : List Deed) (h : c.outgoing.taken = []) : Framed own c :=
  ⟨[], List.nil_sublist _, .inl (by rw [h]; rfl)⟩

theorem congr (h : Framed own c) (houtgoing : c'.outgoing = c.outgoing) : Framed own c' := by
  unfold Framed
  rw [houtgoing]
  exact h

theorem begins (h : Framed own c) :
    ∃ replies, List.Sublist replies (own.map (·.reply)) ∧
      c.outgoing.taken.reverse <+: replies.flatMap ReplyFrame.bytes := by
  obtain ⟨replies, hown, hwritten | ⟨hwritten, -⟩⟩ := h
  · exact ⟨replies, hown, hwritten ▸ List.prefix_refl _⟩
  · exact ⟨replies, hown, hwritten⟩

/-- A reply that is written in full, in part or not at all. -/
theorem told (h : Framed own c) (x : Deed) : Framed (own ++ [x]) (c.told x.reply) := by
  obtain ⟨replies, hown, hwritten⟩ := h
  have hown' : List.Sublist replies ((own ++ [x]).map (·.reply)) := by
    rw [List.map_append]
    exact hown.trans (List.sublist_append_left ..)
  have hnext : List.Sublist (replies ++ [x.reply]) ((own ++ [x]).map (·.reply)) := by
    rw [List.map_append]
    exact hown.append (List.Sublist.refl _)
  unfold ClientStream.told
  split
  · rcases hwritten with hwritten | ⟨hwritten, hstuck⟩
    · obtain ⟨part, hpart, htaken, -⟩ :=
        Wire.Sink.takes_writeFrame c.outgoing (Bytes.ofString x.reply.text)
      rcases Wire.Sink.writeFrame_cases c.outgoing (Bytes.ofString x.reply.text) with hsame | hall | hstuck
      · exact ⟨replies, hown', .inl (by rw [hsame, hwritten])⟩
      · refine ⟨_, hnext, .inl ?_⟩
        rw [hall, List.reverse_append, List.reverse_reverse, hwritten, List.flatMap_append,
          List.flatMap_singleton]
        rfl
      · refine ⟨_, hnext, .inr ⟨?_, hstuck⟩⟩
        rw [htaken, List.reverse_append, List.reverse_reverse, hwritten, List.flatMap_append,
          List.flatMap_singleton]
        exact (List.prefix_append_right_inj _).2 hpart
    -- behind a part nothing is written any more
    · rw [Wire.Sink.writeFrame_stuck hstuck]
      exact ⟨replies, hown', .inr ⟨hwritten, hstuck⟩⟩
  · exact ⟨replies, hown', hwritten⟩

end Framed

namespace Server
variable {W : Type}

/-- A connection on which nothing was written comes, or something is done, but no client makes room. -/
structure Forsakes (s : Server W) (x : Step) : Prop where
  fresh : ∀ c ∈ s.arrival? x, c.outgoing.taken = []
  full : ∀ n room, x ≠ .makeRoom n room

/-- Any turns of readers and loop, and writes that fail anywhere: as long as no client makes room, what was
written to each is a first part of whole replies to what was done for it. -/
theorem framed_of_run (d : Dispatcher W) (w : W) {steps : List Step} (h : (new d w).Along Forsakes steps)
    {n : Nat} {c : ClientStream} (hc : ((new d w).run steps).clients[n]? = some c) :
    ∃ replies, List.Sublist replies ((Deed.of n ((new d w).deeds steps)).map (·.reply)) ∧
      c.outgoing.taken.reverse <+: replies.flatMap ReplyFrame.bytes := by
  have hframed := run_preserves
    (I := fun _ done s => ∀ (n : Nat) c, s.clients[n]? = some c → Framed (Deed.of n done) c)
    (fun came done s x hx h => ?_) h (fun n c hc => absurd hc (by simp [new]))
  · exact (hframed n c hc).begins
  · refine (step_does s x).clients h (fun c hc => .of_nil _ (hx.fresh c (Option.mem_toList.1 hc)))
      (fun own c h => h.congr rfl) (fun n room heq => absurd heq (hx.full n room))
      fun y hy queue hqueue c hc h => ?_
    refine (h.told y).congr ?_
    unfold ClientStream.attended
    split <;> rfl

/-- A client for which there is room for 10 bytes sends two empty frames. After the first reply it makes
room. -/
def lateRoom : List Step :=
  [.accept { incoming := [.bytes (asking ["", ""])], outgoing := { room := some 10, full := some .wouldBlock } },
    .read 0, .read 0, .dispatch, .makeRoom 0 none, .dispatch]

/-- What it is sent then is no first part of any frames. -/
theorem torn_stream :
    ¬ ∃ bodies : List Bytes, (∀ body ∈ bodies, body.length ≤ Wire.bodyLimit) ∧
      (idle.run lateRoom).written 0 <+: bodies.flatMap Wire.frame := by
  rintro ⟨bodies, hbodies, hwritten⟩
  have htorn : (Wire.contents ((idle.run lateRoom).written 0)).2.isSome = true := by decide +kernel
  rw [Wire.contents_of_prefix hwritten hbodies] at htorn
  cases htorn

end Server

end DetectorControl
