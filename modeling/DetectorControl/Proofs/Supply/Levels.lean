import DetectorControl.Controller.Rig
import DetectorControl.Proofs.Basic
import DetectorControl.Proofs.Controller.Frames
import DetectorControl.Proofs.Decimal.Order
import DetectorControl.Proofs.Supply.Commands

/-!
# Which levels a supply is set to

`Orderly config log`: every level in the log of a watched supply is the zero of switching off, or one
that the configuration admits. It holds of every controller, whatever it is sent and whichever writes
fail, because a setting is checked (`setting_admits`) and nothing but a command to the supply makes
it write (`serve_orderly`).
-/

namespace DetectorControl

/-- A level that a channel may be set to. -/
structure Config.Admits (c : Config) (channel : Nat) (level : Float) : Prop where
  finite : level.isFinite = true
  low : 0 ≤ level
  high : level ≤ 3300
  /-- If both limits and conversions are configured the level has a voltage, which is within the limit of the
  channel. -/
  limit : c.limits.isSome = true → c.conversion.isSome = true →
    ∃ v, c.voltage? channel level = some v ∧ v ≤ c.limit channel ∧ v.isNaN = false

theorem Config.limited_iff {c : Config} : c.limited = true ↔ c.limits.isSome = true ∧ c.conversion.isSome = true :=
  Bool.and_eq_true_iff

namespace Supply
variable {W : Type} {config : Config}

theorem isFinite_of_number {o : Options} {key : String} {x : Float} (h : o.number key = .ok x) :
    x.isFinite = true := by
  unfold Options.number at h
  split at h
  · cases h
  · split at h
    · rename_i v _ y hy
      cases h
      exact (Option.filter_eq_some_iff.mp hy).2
    · cases h

theorem levelOption_eq_ok {o : Options} {level : Float} (h : levelOption o = .ok level) :
    level.isFinite = true ∧ 0 ≤ level ∧ level ≤ 3300 := by
  unfold levelOption at h
  split at h
  · cases h
  · cases h
  · rename_i x hx
    split at h
    · rename_i hrange
      cases h
      simp only [levelInRange, Bool.and_eq_true, decide_eq_true_eq] at hrange
      exact ⟨isFinite_of_number hx, hrange⟩
    · cases h

/-- A voltage is reported only if it is within the limit. -/
theorem voltage_eq_ok {ch : Fin 2} {level v : Float} (h : voltage config ch level = .ok v)
    (hlimited : config.limited = true) :
    config.voltage? ch level = some v ∧ v ≤ config.limit ch := by
  unfold voltage at h
  rw [if_pos hlimited] at h
  cases hv : config.voltage? ch level with
  | none => simp [hv] at h
  | some u =>
    simp only [hv] at h
    split at h
    · rename_i hu
      cases h
      exact ⟨rfl, hu⟩
    · cases h

theorem setting_admits {o : Options} {ch : Fin 2} {level v : Float}
    (h : setting config o = .ok (ch, level, v)) : config.Admits ch level := by
  obtain ⟨ch', -, h⟩ := bind_eq_ok_iff.mp h
  obtain ⟨level', hlevel, h⟩ := bind_eq_ok_iff.mp h
  obtain ⟨v', hv, h⟩ := bind_eq_ok_iff.mp h
  cases h
  obtain ⟨hfinite, hlow, hhigh⟩ := levelOption_eq_ok hlevel
  refine ⟨hfinite, hlow, hhigh, fun hlimits hconversion => ?_⟩
  obtain ⟨hvoltage, hle⟩ := voltage_eq_ok hv (Config.limited_iff.2 ⟨hlimits, hconversion⟩)
  exact ⟨v, hvoltage, hle, Decimal.not_isNaN_of_le hle⟩

end Supply

/-- The levels of a log, the last attempt first. -/
inductive Orderly (config : Config) : List Attempt → Prop
  | nil : Orderly config []
  | level {channel : Nat} {level : Float} {log : List Attempt} (done : Bool)
    (h : config.Admits channel level) (hlog : Orderly config log) :
    Orderly config (⟨.level channel level, done⟩ :: log)
  | output {log : List Attempt} (channel : Nat) (on done : Bool) (hlog : Orderly config log) :
    Orderly config (⟨.output channel on, done⟩ :: log)
  | off {log : List Attempt} (channel : Nat) (reset done : Bool) (hlog : Orderly config log) :
    Orderly config (⟨.output channel false, done⟩ :: ⟨.level channel 0, reset⟩ :: log)

namespace Orderly
variable {config : Config} {log : List Attempt}

/-- A level stands in an orderly log because it is admitted, or because its channel is switched off
with the next write. -/
theorem level_of_mem (h : Orderly config log) {later earlier : List Attempt} {channel : Nat}
    {level : Float} {done : Bool} (hlog : log = later ++ ⟨.level channel level, done⟩ :: earlier) :
    config.Admits channel level ∨
      level = 0 ∧ ∃ rest done, later = rest ++ [⟨.output channel false, done⟩] := by
  induction h generalizing later with
  | nil => simp at hlog
  | level done h hlog' ih =>
    cases later with
    | nil =>
      cases hlog
      exact .inl h
    | cons a later =>
      obtain ⟨-, hlog⟩ := List.cons.inj hlog
      exact (ih hlog).imp_right fun ⟨h0, rest, done, hrest⟩ => ⟨h0, a :: rest, done, by rw [hrest]; rfl⟩
  | output channel on done hlog' ih =>
    cases later with
    | nil => cases hlog
    | cons a later =>
      obtain ⟨-, hlog⟩ := List.cons.inj hlog
      exact (ih hlog).imp_right fun ⟨h0, rest, done, hrest⟩ => ⟨h0, a :: rest, done, by rw [hrest]; rfl⟩
  | off channel reset done hlog' ih =>
    match later with
    | [] => cases hlog
    | [a] =>
      cases hlog
      exact .inr ⟨rfl, [], done, rfl⟩
    | a :: b :: later =>
      obtain ⟨-, hlog⟩ := List.cons.inj hlog
      obtain ⟨-, hlog⟩ := List.cons.inj hlog
      exact (ih hlog).imp_right fun ⟨h0, rest, done, hrest⟩ =>
        ⟨h0, a :: b :: rest, done, by rw [hrest]; rfl⟩

end Orderly

namespace Supply
variable {W : Type} {config : Config} (faults : SupplyDriver.Faults) (d : SupplyDriver W)

theorem setLevel_log (channel : Nat) (level : Float) (w : W × List Attempt) :
    ∃ done, ((d.watched faults).setLevel channel level w).2.2 = ⟨.level channel level, done⟩ :: w.2 :=
  ⟨_, SupplyDriver.attempt_log ..⟩

theorem setOutput_log (channel : Nat) (on : Bool) (w : W × List Attempt) :
    ∃ done, ((d.watched faults).setOutput channel on w).2.2 = ⟨.output channel on, done⟩ :: w.2 :=
  ⟨_, SupplyDriver.attempt_log ..⟩

theorem switchOff_orderly (ch : Fin 2) (s : Supply) {w : W × List Attempt} (h : Orderly config w.2) :
    Orderly config (switchOff (d.watched faults) ch s w).2.2 := by
  obtain ⟨reset, hreset⟩ := setLevel_log faults d ch 0 w
  obtain ⟨done, hdone⟩ := setOutput_log faults d ch false
    ((d.watched faults).setLevel ch 0 w).2
  rw [switchOff_eq, hdone, hreset]
  exact .off ch reset done h

theorem switchAllOff_orderly (s : Supply) {w : W × List Attempt} (h : Orderly config w.2) :
    Orderly config (switchAllOff (d.watched faults) s w).2.2 := by
  rw [switchAllOff_eq]
  exact switchOff_orderly faults d 1 _ (switchOff_orderly faults d 0 s h)

theorem handle_orderly (verb : SupplyVerb) (o : Options) (s : Supply) {w : W × List Attempt}
    (h : Orderly config w.2) : Orderly config (handle (d.watched faults) config verb o s w).2.2 := by
  obtain ⟨⟨⟨r, s'⟩, w'⟩, hafter⟩ : ∃ after, handle (d.watched faults) config verb o s w = after :=
    ⟨_, rfl⟩
  rw [hafter]
  cases handle_step hafter with
  | status => exact h
  | setRefused => exact h
  | setFailed hsetting hw =>
    obtain ⟨done, hdone⟩ := setLevel_log faults d _ _ w
    rw [hw] at hdone
    rw [hdone]
    exact .level done (setting_admits hsetting) h
  | set hsetting hw =>
    obtain ⟨done, hdone⟩ := setLevel_log faults d _ _ w
    rw [hw] at hdone
    rw [hdone]
    exact .level done (setting_admits hsetting) h
  | onRefused => exact h
  | onFailed _ hw =>
    obtain ⟨done, hdone⟩ := setOutput_log faults d _ _ w
    rw [hw] at hdone
    rw [hdone]
    exact .output _ _ done h
  | on _ hw =>
    obtain ⟨done, hdone⟩ := setOutput_log faults d _ _ w
    rw [hw] at hdone
    rw [hdone]
    exact .output _ _ done h
  | offRefused => exact h
  | off => exact switchOff_orderly faults d _ s h
  | offAll => exact switchAllOff_orderly faults d s h

end Supply

namespace Equipment
variable {W : Type}

theorem serve_orderly (faults : SupplyDriver.Faults) (e : Equipment W) (name verb : String)
    (o : Options) (s : Subsystems) {w : W × List Attempt} (h : Orderly e.config w.2) :
    Orderly e.config ((e.watched faults).serve name verb o s w).2.2 := by
  by_cases hname : name = "hv"
  · subst hname
    exact serveBy_preserves (I := fun _ (w : W × List Attempt) => Orderly e.config w.2) h
      (fun v => Supply.handle_orderly faults e.supply v o s.supply h) verb
  · rw [keeps_serve (watched_keepsApart faults e) hname verb o s w]
    exact h

/-- The writes that a controller asks of its supply from its beginning on, the last one first, when
it handles the bodies of frames. -/
def attempts (faults : SupplyDriver.Faults) (e : Equipment W) (w : W) (bodies : List Bytes) :
    List Attempt :=
  let begun := (e.watched faults).controller (w, [])
  (begun.1.handleAll begun.2 bodies).2.2

theorem attempts_orderly (faults : SupplyDriver.Faults) (e : Equipment W) (w : W)
    (bodies : List Bytes) : Orderly e.config (attempts faults e w bodies) := by
  have hstart : Orderly e.config (Supply.init (e.supply.watched faults) (w, [])).2.2 :=
    Supply.switchAllOff_orderly faults e.supply _ .nil
  have hserve (name verb : String) (o : Options) (s : Subsystems) (w : W × List Attempt)
      (h : Orderly e.config w.2) := serve_orderly faults e name verb o s h
  obtain ⟨-, -, h⟩ := Dispatcher.handleAll_registry (e := e.watched faults)
    (d := ((e.watched faults).controller (w, [])).1) (s := ((e.watched faults).start (w, [])).1)
    hserve rfl hstart bodies
  exact h

/-- A level that is asked of the supply is admitted by the configuration, or it is the zero of
switching off, which goes on with the output of the channel. -/
theorem level_of_attempts (faults : SupplyDriver.Faults) (e : Equipment W) (w : W)
    (bodies : List Bytes) {later earlier : List Attempt} {channel : Nat} {level : Float} {done : Bool}
    (h : attempts faults e w bodies = later ++ ⟨.level channel level, done⟩ :: earlier) :
    e.config.Admits channel level ∨
      level = 0 ∧ ∃ rest done, later = rest ++ [⟨.output channel false, done⟩] :=
  (attempts_orderly faults e w bodies).level_of_mem h

end Equipment

/-- The rig's equipment with the bench configuration. -/
def Rig.bench : Equipment Rig :=
  equipment .bench ⟨fun _ => none, .empty⟩ localEndpoints

theorem Equipment.level_of_attempts_bench :
    attempts (fun _ => none) Rig.bench { now := ⟨0, "", ""⟩ }
        [Bytes.ofString "\x7b\"command\":\"hv.set\",\"option\":\x7b\"ch\":0,\"value_in_mV\":100\x7d\x7d"] =
      [] ++ ⟨.level 0 100, true⟩ :: [⟨.output 1 false, true⟩, ⟨.level 1 0, true⟩,
        ⟨.output 0 false, true⟩, ⟨.level 0 0, true⟩] ∧
    Rig.bench.config.Admits 0 100 := by
  refine and_iff_left_of_imp (fun h => ?_) |>.mpr (by decide +kernel)
  exact (level_of_attempts _ _ _ _ h).resolve_right fun ⟨_, rest, _, hrest⟩ => by simp at hrest

end DetectorControl
