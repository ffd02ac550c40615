import DetectorControl.Peer.Program

/-!
# What an operation leaves alone

`Keeps view x`: whatever the world, the operation `x` leaves its `view` as it is. An operation that
acts on a part of the world only (`zoom`) keeps every view that does not look at that part, and so
does whatever is composed of such operations.
-/

namespace DetectorControl

/-- The operation does not change what is seen of the world. -/
def Keeps {W α β : Type} (view : W → β) (x : StateM W α) : Prop :=
  ∀ w, view (x w).2 = view w

namespace Keeps
variable {W P α β γ : Type} {view : W → γ}

theorem pure (a : α) : Keeps view (Pure.pure a : StateM W α) := fun _ => rfl

theorem bind {x : StateM W α} {f : α → StateM W β} (hx : Keeps view x) (hf : ∀ a, Keeps view (f a)) :
    Keeps view (x >>= f) := fun w => (hf (x w).1 (x w).2).trans (hx w)

theorem zoom {get : W → P} {put : P → W → W} (hput : ∀ p w, view (put p w) = view w)
    (x : StateM P α) : Keeps view (DetectorControl.zoom get put x) :=
  fun w => hput (x (get w)).2 w

theorem zoom_of {get : W → P} {put : P → W → W} {part : P → γ} {x : StateM P α} (hx : Keeps part x)
    (hview : ∀ w, view w = part (get w)) (hget : ∀ p w, get (put p w) = p) :
    Keeps view (DetectorControl.zoom get put x) := by
  intro w
  show view (put (x (get w)).2 w) = view w
  rw [hview, hget, hview]
  exact hx (get w)

end Keeps

/-- None of the operations of a socket changes what is seen of the world. -/
structure PeerSocket.Keeps {W β : Type} (view : W → β) (sock : PeerSocket W) : Prop where
  connect : ∀ endpoint, DetectorControl.Keeps view (sock.connect endpoint)
  send : ∀ body, DetectorControl.Keeps view (sock.send body)
  receive : DetectorControl.Keeps view sock.receive
  close : DetectorControl.Keeps view sock.close

theorem PeerSocket.Keeps.zoom {W P β : Type} {view : W → β} {get : W → P} {put : P → W → W}
    (hput : ∀ p w, view (put p w) = view w) (sock : PeerSocket P) : (sock.zoom get put).Keeps view :=
  ⟨fun _ => .zoom hput _, fun _ => .zoom hput _, .zoom hput _, .zoom hput _⟩

/-- None of the readings changes what is seen of the world. -/
structure Sensors.Keeps {W β : Type} (view : W → β) (s : Sensors W) : Prop where
  adc : DetectorControl.Keeps view s.readAdc
  environment : DetectorControl.Keeps view s.readEnvironment
  switch : DetectorControl.Keeps view s.readSwitch

theorem Sensors.Keeps.zoom {W P β : Type} {view : W → β} {get : W → P} {put : P → W → W}
    (hput : ∀ p w, view (put p w) = view w) (s : Sensors P) : (s.zoom get put).Keeps view :=
  ⟨.zoom hput _, .zoom hput _, .zoom hput _⟩

/-- None of the writes changes what is seen of the world. -/
structure SupplyDriver.Keeps {W β : Type} (view : W → β) (d : SupplyDriver W) : Prop where
  level : ∀ channel level, DetectorControl.Keeps view (d.setLevel channel level)
  output : ∀ channel on, DetectorControl.Keeps view (d.setOutput channel on)

namespace PeerLink
variable {W β : Type} {view : W → β} {sock : PeerSocket W}

theorem keeps_connect (h : sock.Keeps view) (l : PeerLink) : Keeps view (l.connect sock) := by
  unfold connect
  split
  · exact .pure _
  · exact .bind (h.connect _) fun r => by cases r <;> exact .pure _

theorem keeps_exchange (h : sock.Keeps view) (r : Request) : Keeps view (exchange sock r) := by
  refine .bind (h.send _) fun sent => ?_
  cases sent with
  | error cause => exact .pure _
  | ok _ =>
    refine .bind h.receive fun received => ?_
    cases received with
    | error cause => exact .pure _
    | ok body =>
      dsimp only
      split <;> exact .pure _

theorem keeps_request (h : sock.Keeps view) (r : Request) (l : PeerLink) :
    Keeps view (l.request sock r) := by
  refine .bind (keeps_connect h l) fun c => ?_
  obtain ⟨result, l⟩ := c
  cases result with
  | error e => exact .pure _
  | ok _ =>
    refine .bind (keeps_exchange h r) fun answer => ?_
    cases answer with
    | ok f => exact .pure _
    | error e => exact .bind h.close fun _ => .pure _

theorem keeps_call (h : sock.Keeps view) (r : Request) (l : PeerLink) : Keeps view (l.call sock r) := by
  refine .bind (keeps_request h r l) fun c => ?_
  obtain ⟨result, l⟩ := c
  cases result <;> exact .pure _

end PeerLink

end DetectorControl
