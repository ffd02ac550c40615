import DetectorControl.Proofs.Controller.Frames

/-!
# What an operation looks at

`Sees view shown x`: in worlds that are alike to the `view`, the operation `x` gives the same answer, as far
as that is `shown`, and leaves worlds that are alike again. A handler sees no more than its equipment does,
and the moment at which the clock is read is all that the rest of the world tells of a reply
(`Detector.sees_handle`, `Housekeeping.sees_handle`).
-/

namespace DetectorControl

/-- The operation depends on what is seen of the world only. -/
def Sees {W α β γ : Type} (view : W → β) (shown : α → γ) (x : StateM W α) : Prop :=
  ∀ w w', view w = view w' → shown (x w).1 = shown (x w').1 ∧ view (x w).2 = view (x w').2

namespace Sees
variable {W P α β γ δ ε : Type} {view : W → β} {shown : α → γ} {shown' : δ → ε}

theorem pure (a : α) : Sees view shown (Pure.pure a : StateM W α) := fun _ _ h => ⟨rfl, h⟩

theorem bind {x : StateM W α} {f : α → StateM W δ} (hx : Sees view id x) (hf : ∀ a, Sees view shown' (f a)) :
    Sees view shown' (x >>= f) := by
  intro w w' h
  obtain ⟨hanswer, hview⟩ := hx w w' h
  have hanswer : (x w).1 = (x w').1 := hanswer
  show shown' (f (x w).1 (x w).2).1 = shown' (f (x w').1 (x w').2).1 ∧
    view (f (x w).1 (x w).2).2 = view (f (x w').1 (x w').2).2
  rw [hanswer]
  exact hf _ _ _ hview

/-- Less can be shown of an answer. -/
theorem mono {x : StateM W α} (hx : Sees view shown x) (shown' : α → ε)
    (hshown : ∀ a a', shown a = shown a' → shown' a = shown' a') : Sees view shown' x := by
  intro w w' h
  obtain ⟨hanswer, hview⟩ := hx w w' h
  exact ⟨hshown _ _ hanswer, hview⟩

/-- An answer that is worked up shows no more than it did. -/
theorem map {x : StateM W α} {f : α → δ} (hx : Sees view shown x)
    (hf : ∀ a a', shown a = shown a' → shown' (f a) = shown' (f a')) :
    Sees view shown' (x >>= fun a => (Pure.pure (f a) : StateM W δ)) := by
  intro w w' h
  obtain ⟨hanswer, hview⟩ := hx w w' h
  exact ⟨hf _ _ hanswer, hview⟩

/-- Of an operation that leaves the view alone nothing need be shown. -/
theorem of_keeps {x : StateM W α} (hx : Keeps view x) (hshown : ∀ a a', shown a = shown a') :
    Sees view shown x :=
  fun w w' h => ⟨hshown _ _, (hx w).trans (h.trans (hx w').symm)⟩

/-- An operation on a part of the world sees what is seen of that part. -/
theorem zoom {get : W → P} {put : P → W → W} {part : P → δ} {x : StateM P α} (hx : Sees part shown x)
    (hget : ∀ w w', view w = view w' → part (get w) = part (get w'))
    (hput : ∀ p p' w w', part p = part p' → view w = view w' → view (put p w) = view (put p' w')) :
    Sees view shown (DetectorControl.zoom get put x) := by
  intro w w' h
  obtain ⟨hanswer, hpart⟩ := hx _ _ (hget w w' h)
  exact ⟨hanswer, hput _ _ w w' hpart h⟩

/-- A world that is seen as a whole. -/
theorem whole (x : StateM W α) : Sees id shown x := by
  rintro w _ rfl
  exact ⟨rfl, rfl⟩

end Sees

/-- The writes of a driver depend on what is seen of the world only. -/
structure SupplyDriver.Sees {W β : Type} (view : W → β) (d : SupplyDriver W) : Prop where
  level : ∀ channel level, DetectorControl.Sees view id (d.setLevel channel level)
  output : ∀ channel on, DetectorControl.Sees view id (d.setOutput channel on)

/-- The readings depend on what is seen of the world only. -/
structure Sensors.Sees {W β : Type} (view : W → β) (s : Sensors W) : Prop where
  adc : DetectorControl.Sees view id s.readAdc
  environment : DetectorControl.Sees view id s.readEnvironment
  switch : DetectorControl.Sees view id s.readSwitch

/-! ## Clocks -/

/-- The fields in which a reply gives the moment of its making. -/
def Reply.clock : List String := ["unixtime", "time"]

/-- Fields without the values of those. -/
def Fields.undated (fields : Fields) : Fields :=
  fields.map fun m => if m.1 ∈ Reply.clock then (m.1, .null) else m

def Reply.undated : Reply → Reply
  | .ok message fields => .ok message fields.undated
  | .error message => .error message

def ReplyFrame.undated (f : ReplyFrame) : ReplyFrame := { f with fields := f.fields.undated }

def Outcome.undated : Outcome → Outcome
  | .reply r => .reply r.undated
  | .unserved => .unserved
  | .crashed => .crashed

/-! ## Handlers -/

variable {W β : Type} {view : W → β}

theorem Detector.sees_handle {now : StateM W Instant} (h : Keeps view now) (host : Host) (config : Config)
    (verb : DetectorVerb) (o : Options) (state : Unit) :
    Sees view (fun r : Reply × Unit => r.1.undated) (handle host config now verb o state) := by
  have hnow : Sees view (fun _ => ()) now := .of_keeps h fun _ _ => rfl
  cases verb with
  | ping => exact hnow.map fun _ _ _ => rfl
  | _ => exact .pure _

theorem HeartbeatControl.sees_handle {get : W → Heartbeat} {put : Heartbeat → W → W}
    (hget : ∀ w w', view w = view w' → get w = get w')
    (hput : ∀ h w w', view w = view w' → view (put h w) = view (put h w')) (verb : HeartbeatVerb) (o : Options)
    (state : Unit) : Sees view id (handle get put verb o state) := by
  refine .bind (.zoom (.whole _) hget fun h h' w w' heq hw => ?_) fun _ => .pure _
  obtain rfl : h = h' := heq
  exact hput h w w' hw

namespace Housekeeping
variable {s : Sensors W}

theorem sees_readEnvironment (h : s.Sees view) (trials : Nat) : Sees view id (readEnvironment s trials) := by
  induction trials with
  | zero => exact .pure _
  | succ trials ih =>
    refine .bind h.environment fun r => ?_
    cases r with
    | ok e => exact .pure _
    | error e => exact ih

theorem sees_readSwitch (h : s.Sees view) : Sees view id (readSwitch s) := by
  refine .bind h.switch fun r => ?_
  cases r <;> exact .pure _

theorem sees_read (h : s.Sees view) {now : StateM W Instant} (hnow : Keeps view now) :
    Sees view Reply.undated (read s now) := by
  have hnow : Sees view (fun _ => ()) now := .of_keeps hnow fun _ _ => rfl
  refine .bind h.adc fun r => ?_
  cases r with
  | error e => exact .pure _
  | ok channels =>
    exact .bind (sees_readEnvironment h _) fun _ => .bind (sees_readSwitch h) fun _ => hnow.map fun _ _ _ => rfl

theorem sees_handle (h : s.Sees view) {now : StateM W Instant} (hnow : Keeps view now)
    (verb : HousekeepingVerb) (o : Options) (state : Unit) :
    Sees view (fun r : Reply × Unit => r.1.undated) (handle s now verb o state) := by
  cases verb with
  | read => exact (sees_read h hnow).map fun _ _ heq => heq

end Housekeeping

namespace Supply
variable {d : SupplyDriver W}

theorem sees_switchOff (h : d.Sees view) (ch : Fin 2) (s : Supply) : Sees view id (switchOff d ch s) :=
  .bind (h.level ch 0) fun _ => .bind (h.output ch false) fun _ => .pure _

theorem sees_set (h : d.Sees view) (config : Config) (o : Options) (s : Supply) : Sees view id (set d config o s) := by
  unfold set
  split
  · exact .pure _
  · refine .bind (h.level _ _) fun r => ?_
    cases r <;> exact .pure _

theorem sees_switchOn (h : d.Sees view) (o : Options) (s : Supply) : Sees view id (switchOn d o s) := by
  unfold switchOn
  split
  · exact .pure _
  · refine .bind (h.output _ _) fun r => ?_
    cases r <;> exact .pure _

theorem sees_off (h : d.Sees view) (o : Options) (s : Supply) : Sees view id (off d o s) := by
  unfold off
  split
  · exact .pure _
  · exact .bind (sees_switchOff h _ s) fun _ => .pure _

theorem sees_handle (h : d.Sees view) (config : Config) (verb : SupplyVerb) (o : Options) (s : Supply) :
    Sees view id (handle d config verb o s) := by
  cases verb with
  | status => exact .pure _
  | set => exact sees_set h config o s
  | on => exact sees_switchOn h o s
  | off => exact sees_off h o s
  | offAll => exact .bind (.bind (sees_switchOff h 0 s) fun _ => sees_switchOff h 1 _) fun _ => .pure _

end Supply

/-- A reply without its moment, and the state with it. -/
theorem sees_serveBy {V S : Type} [Verb V] {handle : V → Options → S → StateM W (Reply × S)}
    (h : ∀ v o state, Sees view (fun r : Reply × S => (r.1.undated, r.2)) (handle v o state)) (verb : String)
    (o : Options) (state : S) :
    Sees view (fun r : Outcome × S => (r.1.undated, r.2)) (serveBy handle verb o state) := by
  unfold serveBy
  split
  · exact .pure _
  · refine (h _ o state).map fun r r' heq => ?_
    obtain ⟨hreply, hstate⟩ := Prod.mk.inj heq
    show (Outcome.reply r.1.undated, r.2) = (Outcome.reply r'.1.undated, r'.2)
    rw [hreply, hstate]

end DetectorControl
