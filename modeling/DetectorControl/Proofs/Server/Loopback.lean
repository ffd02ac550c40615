import DetectorControl.Proofs.Server.Log
import DetectorControl.Proofs.Wire.Chunks
import DetectorControl.Server.Loopback

/-!
# A frame there and back

A server that has nothing else to do deals with a frame as soon as it arrives (`sendTo_frame`): the
controller handles the body, and the whole reply goes out on the same connection. Once it is fetched, the
connection is at rest again.
-/

namespace DetectorControl

/-- A connection on which nothing is under way. -/
structure ClientStream.AtRest (c : ClientStream) : Prop where
  isOpen : c.isOpen = true
  reading : c.reading = true
  heard : Wire.bytesOf c.incoming = []
  accepts : c.outgoing.Accepts
  fetched : c.outgoing.taken = []

namespace Server
variable {W : Type} {s : Server W} {n : Nat} {c : ClientStream} {body : Bytes}

theorem modify_eq_set {clients : List ClientStream} (hc : clients[n]? = some c) (f : ClientStream → ClientStream) :
    clients.modify n f = clients.set n (f c) := by
  refine List.ext_getElem? fun i => ?_
  rw [List.getElem?_modify, List.getElem?_set]
  by_cases hi : n = i
  · subst hi
    obtain ⟨hn, -⟩ := List.getElem?_eq_some_iff.1 hc
    rw [hc, if_pos rfl, if_pos hn]
    simp
  · rw [if_neg hi]
    simp [hi]

theorem getElem?_set_of_some {clients : List ClientStream} (hc : clients[n]? = some c) (c' : ClientStream) :
    (clients.set n c')[n]? = some c' :=
  List.getElem?_set_self (List.getElem?_eq_some_iff.1 hc).1

/-- The one frame that has arrived is read, and the reader waits for more. -/
theorem readArrived_frame (hc : s.clients[n]? = some c) (hreading : c.reading = true)
    (hincoming : c.incoming = [.bytes (Wire.frame body)]) (hbody : body.length ≤ Wire.bodyLimit) (k : Nat) :
    ∃ rest, Wire.bytesOf rest = [] ∧ readArrived n (k + 2) s =
      { s with
        clients := s.clients.set n { c with incoming := rest }
        queue := s.queue ++ [⟨n, .request body⟩] } := by
  have hchunked : Wire.Chunked c.incoming := by
    rw [hincoming]
    exact .cons_bytes (List.cons_ne_nil _ _) .nil
  have hfront : Wire.front (Wire.bytesOf c.incoming) = .frame body [] := by
    rw [hincoming]
    exact Wire.front_frame hbody
  obtain ⟨rest, hrest, hempty, hread⟩ := Wire.readFrame_of_frame hchunked hfront []
  rw [List.append_nil, List.append_nil] at hread
  have hyields : Wire.yieldsFrame c.incoming = true := by
    unfold Wire.yieldsFrame
    rw [hread]
  have hend : Wire.yieldsFrame rest = false := by
    unfold Wire.yieldsFrame
    rw [Wire.readFrame_of_part hrest (by rw [hempty]; rfl)]
  have hstep : s.read n =
      { s with
        clients := s.clients.set n { c with incoming := rest }
        queue := s.queue ++ [⟨n, .request body⟩] } := by
    unfold read
    rw [hc]
    simp only [hreading, if_true, hread]
    rfl
  refine ⟨rest, hempty, ?_⟩
  simp only [readArrived, hc, hreading, hyields, Bool.and_self, if_true, hstep, getElem?_set_of_some hc, hend,
    Bool.and_false]
  rfl

theorem sendTo_frame (hrunning : s.running = true) (hqueue : s.queue = []) (hc : s.clients[n]? = some c)
    (hrest : c.AtRest) (hbody : body.length ≤ Wire.bodyLimit)
    (hreply : (Bytes.ofString (s.dispatcher.handle body s.world).1.text).length ≤ Wire.bodyLimit) :
    ∃ c', sendTo n (Wire.frame body) s =
        (.ok (),
          { dispatcher := (s.dispatcher.handle body s.world).2.1
            world := (s.dispatcher.handle body s.world).2.2
            clients := s.clients.set n c'
            queue := []
            running := !(s.dispatcher.handle body s.world).2.1.stopping }) ∧
      c'.isOpen = true ∧ c'.reading = true ∧ Wire.bytesOf c'.incoming = [] ∧ c'.outgoing.Accepts ∧
      c'.outgoing.taken.reverse =
        Wire.frame (Bytes.ofString (s.dispatcher.handle body s.world).1.text) := by
  obtain ⟨dispatcher, world, clients, queue, running⟩ := s
  cases hrunning
  cases hqueue
  -- the frame has arrived
  let arrived : Server W :=
    { dispatcher, world, clients := clients.set n { c with incoming := [.bytes (Wire.frame body)] } }
  have hc₁ : arrived.clients[n]? = some { c with incoming := [.bytes (Wire.frame body)] } :=
    getElem?_set_of_some hc _
  have harrived : modifyClient n
      (fun c => { c with incoming := [.bytes (Wire.bytesOf c.incoming ++ Wire.frame body)] })
      ⟨dispatcher, world, clients, [], true⟩ = arrived := by
    show Server.mk _ _ (clients.modify n _) _ _ = _
    rw [modify_eq_set hc, hrest.heard]
    rfl
  -- it is read
  obtain ⟨k, hk⟩ : ∃ k, (Wire.frame body).length + 1 = k + 2 := ⟨body.length + 3, by
    rw [Wire.frame, List.length_append, Wire.length_header]
    omega⟩
  obtain ⟨rest, hempty, hread⟩ := readArrived_frame hc₁ hrest.reading rfl hbody k
  let waiting : ClientStream := { c with incoming := rest }
  have hjobs : readArrived n ((Wire.frame body).length + 1) arrived =
      ⟨dispatcher, world, clients.set n waiting, [⟨n, .request body⟩], true⟩ := by
    rw [hk, hread]
    show Server.mk _ _ ((clients.set n _).set n _) _ _ = _
    rw [List.set_set]
    rfl
  -- and the reply is written
  obtain ⟨out, hwrite, haccepts, htaken⟩ := hrest.accepts.writeFrame hreply
  have htold : waiting.told (dispatcher.handle body world).1 = { waiting with outgoing := out } := by
    show (if c.isOpen = true then _ else _) = _
    rw [if_pos hrest.isOpen]
    exact congrArg (fun o => { waiting with outgoing := o }) (congrArg Prod.snd hwrite)
  have hdone : dispatchAll ⟨dispatcher, world, clients.set n waiting, [⟨n, .request body⟩], true⟩ =
      { dispatcher := (dispatcher.handle body world).2.1
        world := (dispatcher.handle body world).2.2
        clients := clients.set n { waiting with outgoing := out }
        queue := []
        running := !(dispatcher.handle body world).2.1.stopping } := by
    have hstep := step_dispatch (s := ⟨dispatcher, world, clients.set n waiting, [⟨n, .request body⟩], true⟩) rfl rfl
    rw [modify_eq_set (getElem?_set_of_some hc waiting), List.set_set] at hstep
    refine hstep.trans ?_
    show Server.mk _ _ (clients.set n (waiting.told (dispatcher.handle body world).1)) _ _ = _
    rw [htold]
    rfl
  have hlinked : isLinked n ⟨dispatcher, world, clients, [], true⟩ = true := by
    unfold isLinked
    simp only [hc, hrest.isOpen, Bool.and_self]
  refine ⟨{ waiting with outgoing := out }, ?_, hrest.isOpen, hrest.reading, hempty, haccepts, ?_⟩
  · unfold sendTo arrive
    rw [if_pos hlinked, harrived]
    simp only [hjobs, hdone]
  · show out.taken.reverse = _
    rw [htaken, hrest.fetched, List.append_nil, List.reverse_reverse]

end Server

end DetectorControl
