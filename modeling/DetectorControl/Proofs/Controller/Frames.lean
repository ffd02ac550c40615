import DetectorControl.Proofs.Supply.Attempts
import DetectorControl.Proofs.Supply.Commands

/-!
# What a subsystem leaves alone

Each subsystem touches the world through its own equipment only, so a handler keeps every view that
its equipment keeps. In particular nothing but a command to `hv` reaches the supply (`keeps_serve`).
-/

namespace DetectorControl
variable {W β : Type} {view : W → β}

theorem Detector.keeps_handle {now : StateM W Instant} (h : Keeps view now) (host : Host)
    (config : Config) (verb : DetectorVerb) (o : Options) (state : Unit) :
    Keeps view (handle host config now verb o state) := by
  cases verb with
  | ping => exact .bind h fun _ => .pure _
  | _ => exact .pure _

theorem Display.keeps_handle {sock : PeerSocket W} (h : sock.Keeps view) (verb : DisplayVerb)
    (o : Options) (l : PeerLink) : Keeps view (handle sock verb o l) := by
  cases verb with
  | clear => exact PeerLink.keeps_call h _ l
  | ping => exact PeerLink.keeps_call h _ l
  | connected => exact .bind (PeerLink.keeps_connect h l) fun _ => .pure _
  | display =>
    show Keeps view (display sock o l)
    unfold display
    split
    · exact PeerLink.keeps_call h _ l
    · exact .pure _
    · exact .pure _

theorem Acquisition.keeps_handle {sock : PeerSocket W} (h : sock.Keeps view) (verb : AcquisitionVerb)
    (o : Options) (l : PeerLink) : Keeps view (handle sock verb o l) :=
  PeerLink.keeps_call h _ l

theorem HeartbeatControl.keeps_handle {get : W → Heartbeat} {put : Heartbeat → W → W}
    (h : ∀ b w, view (put b w) = view w) (verb : HeartbeatVerb) (o : Options) (state : Unit) :
    Keeps view (handle get put verb o state) :=
  .bind (.zoom h _) fun _ => .pure _

namespace Housekeeping
variable {s : Sensors W}

theorem keeps_readEnvironment (h : s.Keeps view) (trials : Nat) :
    Keeps view (readEnvironment s trials) := by
  induction trials with
  | zero => exact .pure _
  | succ trials ih =>
    refine .bind h.environment fun r => ?_
    cases r with
    | ok e => exact .pure _
    | error e => exact ih

theorem keeps_readSwitch (h : s.Keeps view) : Keeps view (readSwitch s) := by
  refine .bind h.switch fun r => ?_
  cases r <;> exact .pure _

theorem keeps_handle (h : s.Keeps view) {now : StateM W Instant} (hnow : Keeps view now)
    (verb : HousekeepingVerb) (o : Options) (state : Unit) : Keeps view (handle s now verb o state) := by
  cases verb with
  | read =>
    refine .bind (.bind h.adc fun r => ?_) fun _ => .pure _
    cases r with
    | error e => exact .pure _
    | ok channels =>
      exact .bind (keeps_readEnvironment h _) fun _ => .bind (keeps_readSwitch h) fun _ =>
        .bind hnow fun _ => .pure _

end Housekeeping

namespace Supply
variable {d : SupplyDriver W}

theorem keeps_switchOff (h : d.Keeps view) (ch : Fin 2) (s : Supply) : Keeps view (switchOff d ch s) :=
  .bind (h.level ch 0) fun _ => .bind (h.output ch false) fun _ => .pure _

theorem keeps_handle (h : d.Keeps view) (config : Config) (verb : SupplyVerb) (o : Options)
    (s : Supply) : Keeps view (handle d config verb o s) := by
  intro w
  obtain ⟨⟨⟨r, s'⟩, w'⟩, hafter⟩ : ∃ result, handle d config verb o s w = result := ⟨_, rfl⟩
  have hlevel {channel : Nat} {level : Float} {result : Except HardwareError Unit}
      (hw : d.setLevel channel level w = (result, w')) : view w' = view w := by
    have hkept := h.level channel level w
    rwa [hw] at hkept
  have houtput {channel : Nat} {on : Bool} {result : Except HardwareError Unit}
      (hw : d.setOutput channel on w = (result, w')) : view w' = view w := by
    have hkept := h.output channel on w
    rwa [hw] at hkept
  rw [hafter]
  cases handle_step hafter with
  | setFailed _ hw => exact hlevel hw
  | set _ hw => exact hlevel hw
  | onFailed _ hw => exact houtput hw
  | on _ hw => exact houtput hw
  | off => exact keeps_switchOff h _ s w
  | offAll =>
    rw [switchAllOff_eq]
    exact (keeps_switchOff h 1 (switchOff d 0 s w).1 _).trans (keeps_switchOff h 0 s w)
  | _ => rfl

end Supply

theorem keeps_serveBy {V S : Type} [Verb V] {handle : V → Options → S → StateM W (Reply × S)}
    (h : ∀ v o state, Keeps view (handle v o state)) (verb : String) (o : Options) (state : S) :
    Keeps view (serveBy handle verb o state) := by
  unfold serveBy
  split
  · exact .pure _
  · exact .bind (h _ o state) fun _ => .pure _

namespace Equipment

/-- All equipment but the supply keeps what is seen of the world. -/
structure KeepsApart (view : W → β) (e : Equipment W) : Prop where
  now : Keeps view e.now
  sensors : e.sensors.Keeps view
  heartbeat : ∀ b w, view (e.putHeartbeat b w) = view w
  display : e.display.Keeps view
  acquisition : e.acquisition.Keeps view

variable {e : Equipment W}

/-- Only a command to the supply changes what all other equipment keeps. -/
theorem keeps_serve (h : e.KeepsApart view) {name : String} (hname : name ≠ "hv") (verb : String)
    (o : Options) (s : Subsystems) : Keeps view (e.serve name verb o s) := by
  unfold serve
  split
  · exact .bind (keeps_serveBy (Detector.keeps_handle h.now _ _) _ _ _) fun _ => .pure _
  · exact absurd rfl hname
  · exact .bind (keeps_serveBy (Display.keeps_handle h.display) _ _ _) fun _ => .pure _
  · exact .bind (keeps_serveBy (Housekeeping.keeps_handle h.sensors h.now) _ _ _) fun _ => .pure _
  · exact .bind (keeps_serveBy (Acquisition.keeps_handle h.acquisition) _ _ _) fun _ => .pure _
  · exact .bind (keeps_serveBy (HeartbeatControl.keeps_handle h.heartbeat) _ _ _) fun _ => .pure _
  · exact .pure _

theorem keeps_serve_supply (h : e.supply.Keeps view) (verb : String) (o : Options) (s : Subsystems) :
    Keeps view (e.serve "hv" verb o s) :=
  .bind (keeps_serveBy (Supply.keeps_handle h e.config) _ _ _) fun _ => .pure _

theorem keeps_serve_sensors (h : e.sensors.Keeps view) (hnow : Keeps view e.now) (verb : String)
    (o : Options) (s : Subsystems) : Keeps view (e.serve "hk" verb o s) :=
  .bind (keeps_serveBy (Housekeeping.keeps_handle h hnow) _ _ _) fun _ => .pure _

/-- The log of a watched supply is kept by all other equipment. -/
theorem watched_keepsApart (faults : SupplyDriver.Faults) (e : Equipment W) :
    (e.watched faults).KeepsApart Prod.snd := by
  have hput : ∀ (w : W) (p : W × List Attempt), (w, p.2).2 = p.2 := fun _ _ => rfl
  exact ⟨.zoom hput _, .zoom hput _, fun _ _ => rfl, .zoom hput _, .zoom hput _⟩

end Equipment

end DetectorControl
