import DetectorControl.Proofs.Decimal.Magnitude
import DetectorControl.Subsystems.HeartbeatControl

/-!
# The interval of the heartbeat

Whatever is asked of a heartbeat, its interval is at most half an hour, a refused setting leaves it as it
was, and an accepted one is rounded to the nearest nanosecond (`interval_of_reached`). The range of a
setting is checked before it is rounded, so that a setting of at most half a nanosecond (`Vanishes`) is
accepted and leaves no interval at all; that is the only way to come to none.
-/

namespace DetectorControl

open Decimal Float.Model

namespace Heartbeat

/-! ## Settings -/

/-- The whole number of nanoseconds nearest to a time. -/
def Rounds (seconds : Float) (nanos : Nat) : Prop :=
  ∃ b, Reading.ofFloat seconds = .finite b ∧ Nearest (b.num * nanosPerSecond) b.den nanos

/-- A time of at most half a nanosecond. -/
def Vanishes (seconds : Float) : Prop :=
  ∃ b, Reading.ofFloat seconds = .finite b ∧ 2 * (b.num * nanosPerSecond) ≤ b.den

/-- The interval that an accepted setting leaves. -/
structure Accepted (seconds : Float) (nanos : Nat) : Prop where
  positive : 0 < seconds
  most : seconds ≤ longest
  rounds : Rounds seconds nanos
  le : nanos ≤ 1800 * nanosPerSecond
  eq_zero_iff : nanos = 0 ↔ Vanishes seconds

section
variable {seconds : Float} {nanos : Nat} {b : Binary}

theorem num_le_of_le (hpos : 0 < seconds) (hle : seconds ≤ longest) (hb : Reading.ofFloat seconds = .finite b) :
    b.num ≤ 1800 * b.den := by
  have hlongest : longest.toModel.unpack = .finite .positive (1800 * 2 ^ 42) (-42) (by decide) := rfl
  obtain ⟨m, e, hm, hunpack, hbounds⟩ := bounds_of_le hlongest hpos hle
  obtain ⟨negative, heq⟩ := ofFloat_of_unpack hunpack
  obtain rfl := Reading.finite.inj (hb.symm.trans heq)
  have hsmall : m < 2 ^ 53 := (bounds_of_ofFloat hb).1
  have hnum : (Binary.mk negative m e).num = m := by
    have hzero : e.toNat = 0 := by omega
    rw [Binary.num, hzero]
    exact Nat.mul_one _
  rw [hnum]
  rcases hbounds with hlt | ⟨rfl, hle⟩
  · have hden : 2 ^ 43 ≤ (Binary.mk negative m e).den := Nat.pow_le_pow_right (by decide) (by dsimp only; omega)
    omega
  · exact hle

theorem accepted_of_check (h : checkInterval seconds = .ok nanos) : Accepted seconds nanos := by
  unfold checkInterval at h
  split at h
  · rename_i hrange
    cases h
    simp only [Bool.and_eq_true, decide_eq_true_eq] at hrange
    obtain ⟨⟨hfinite, hpos⟩, hle⟩ := hrange
    obtain ⟨b, hb⟩ := ofFloat_of_isFinite hfinite
    have hnearest : Nearest (b.num * nanosPerSecond) b.den (nanosOf seconds) := by
      rw [nanosOf, hb]
      exact nearest_roundHalfEven b.den_pos
    have hnum := num_le_of_le hpos hle hb
    refine ⟨hpos, hle, ⟨b, hb, hnearest⟩, hnearest.le_of_le b.den_pos ?_, ?_⟩
    · calc b.num * nanosPerSecond
          ≤ 1800 * b.den * nanosPerSecond := Nat.mul_le_mul_right _ hnum
        _ = 1800 * nanosPerSecond * b.den := Nat.mul_right_comm ..
    · rw [hnearest.eq_zero_iff b.den_pos]
      constructor
      · exact fun hhalf => ⟨b, hb, hhalf⟩
      · rintro ⟨b', hb', hhalf⟩
        obtain rfl := Reading.finite.inj (hb.symm.trans hb')
        exact hhalf
  · cases h

/-! ### Intervals in seconds -/

theorem not_vanishes_of_reaches (h : Reaches (-30) seconds.toModel.unpack) : ¬ Vanishes seconds := by
  obtain ⟨m, e, hm, hunpack, hbits, hlow⟩ := h.exists
  obtain ⟨negative, heq⟩ := ofFloat_of_unpack hunpack
  rintro ⟨b, hb, hhalf⟩
  obtain rfl := Reading.finite.inj (hb.symm.trans heq)
  have hm : 2 ^ 52 ≤ m := ((Nat.log2_eq_iff (by omega)).1 hbits).1
  have hnum : m ≤ (Binary.mk negative m e).num := Nat.le_mul_of_pos_right _ (Nat.two_pow_pos _)
  have hden : (Binary.mk negative m e).den ≤ 2 ^ 82 := Nat.pow_le_pow_right (by decide) (by dsimp only; omega)
  unfold nanosPerSecond at hhalf
  omega

/-- An integer as a float: nothing, or at least one. -/
theorem toFloat_cases (n : UInt64) :
    n.toFloat.toModel.unpack = .zero .positive ∨ Reaches 0 n.toFloat.toModel.unpack := by
  rcases Nat.eq_zero_or_pos n.toNat with hzero | hpos
  · obtain rfl : n = 0 := UInt64.toNat_inj.1 hzero
    exact .inl rfl
  · exact .inr (near_toFloat hpos).reaches

/-- Whole nanoseconds in seconds: nothing, or at least `2 ^ -30`. -/
theorem fraction_cases (n : UInt64) :
    (n.toFloat / nanosPerSecond.toUInt64.toFloat).toModel.unpack = .zero .positive ∨
      Reaches (-30) (n.toFloat / nanosPerSecond.toUInt64.toFloat).toModel.unpack := by
  have hbillion : nanosPerSecond.toUInt64.toFloat.toModel.unpack =
      .finite .positive 8388608000000000 (-23) (by decide) := rfl
  rcases toFloat_cases n with hzero | hreaches
  · refine .inl ?_
    show (Float.Model.pack (UnpackedFloat.div Format.binary64 n.toFloat.toModel.unpack _)).unpack = _
    rw [hzero, hbillion]
    rfl
  · refine .inr ?_
    exact reaches_div hbillion (by decide) (by decide) hreaches ((fits_toFloat n).mono (by decide)) (by decide) (by decide)

theorem fits_fraction (n : UInt64) : Fits (-16) (n.toFloat / nanosPerSecond.toUInt64.toFloat).toModel.unpack := by
  have hbillion : nanosPerSecond.toUInt64.toFloat.toModel.unpack =
      .finite .positive 8388608000000000 (-23) (by decide) := rfl
  have hlog : ((8388608000000000 : Nat).log2 : Int) + -23 = (29 : Nat) := by decide
  exact fits_div (by decide) (by decide) hbillion hlog (by decide) (by decide) (fits_toFloat n)

/-- A time of whole nanoseconds is none, or it does not vanish. -/
theorem not_vanishes_secondsOf (h : 0 < secondsOf nanos) : ¬ Vanishes (secondsOf nanos) := by
  refine not_vanishes_of_reaches ?_
  unfold secondsOf at h ⊢
  generalize hwhole : (nanos / nanosPerSecond).toUInt64.toFloat = whole at h ⊢
  generalize hrest : (nanos % nanosPerSecond).toUInt64.toFloat / nanosPerSecond.toUInt64.toFloat = rest at h ⊢
  have hwhole' := toFloat_cases (nanos / nanosPerSecond).toUInt64
  have hfits := fits_toFloat (nanos / nanosPerSecond).toUInt64
  have hrest' := fraction_cases (nanos % nanosPerSecond).toUInt64
  have hfits' := fits_fraction (nanos % nanosPerSecond).toUInt64
  rw [hwhole] at hwhole' hfits
  rw [hrest] at hrest' hfits'
  rcases hwhole' with hzero | hreaches <;> rcases hrest' with hzero' | hreaches'
  · exfalso
    have hsum : (whole + rest).toModel.unpack = .zero .positive := by
      show (Float.Model.pack (UnpackedFloat.add Format.binary64 whole.toModel.unpack rest.toModel.unpack)).unpack = _
      rw [hzero, hzero']
      rfl
    rw [lt_iff, hsum] at h
    cases h
  · exact reaches_zero_add (by decide) hzero hreaches' (hfits'.mono (by decide))
  · exact (reaches_add_zero (by decide) hreaches (hfits.mono (by decide)) hzero').mono (by decide)
  · exact (reaches_add (by decide) hreaches hreaches' (hfits.mono (by decide)) (hfits'.mono (by decide))).mono
      (by decide)

end

/-! ## What keeps an interval, and what sets one -/

section
variable {W : Type} {h h' : Heartbeat} {nanos : Nat}

theorem withInterval_eq_ok (hok : h.withInterval nanos = .ok h') :
    ∃ interval, checkInterval (secondsOf nanos) = .ok interval ∧ h' = { h with interval } := by
  unfold withInterval setInterval at hok
  cases hcheck : checkInterval (secondsOf nanos) with
  | error e =>
    rw [hcheck] at hok
    cases hok
  | ok interval =>
    rw [hcheck] at hok
    cases hok
    exact ⟨interval, rfl, rfl⟩

theorem interval_start (h : Heartbeat) : h.start.interval = h.interval := by
  unfold start
  split <;> rfl

theorem interval_stop (h : Heartbeat) : h.stop.interval = h.interval := by
  unfold stop
  split <;> rfl

theorem interval_advance (lines : HeartbeatLines W) (h : Heartbeat) (w : W) :
    (h.advance lines w).1.interval = h.interval := by
  unfold advance
  by_cases hlooping : h.looping = true
  · rw [if_pos hlooping]
    obtain ⟨⟨presented, w'⟩, hpresent⟩ : ∃ after, lines.present ((h.value + 1) % modulus) w = after := ⟨_, rfl⟩
    simp only [bind, StateT.bind, hpresent]
    cases presented <;> rfl
  · rw [if_neg hlooping]
    rfl

end

end Heartbeat

namespace HeartbeatControl
variable {h h' : Heartbeat} {o : Options} {r : Reply}

/-- A command to set the interval is refused, or it sets it to a number of seconds that is accepted. -/
theorem setInterval_cases (o : Options) (h : Heartbeat) :
    (∃ message, setInterval o h = (.error message, h)) ∨
      ∃ seconds interval, Heartbeat.checkInterval seconds = .ok interval ∧
        setInterval o h = (.ok none [("wait_duration_sec", .float seconds)], { h with interval }) := by
  unfold setInterval
  split
  · exact .inl ⟨_, rfl⟩
  · exact .inl ⟨_, rfl⟩
  · rename_i seconds _
    unfold Heartbeat.setInterval
    cases hcheck : Heartbeat.checkInterval seconds with
    | error e => exact .inl ⟨_, rfl⟩
    | ok interval => exact .inr ⟨seconds, interval, hcheck, rfl⟩

end HeartbeatControl

namespace Heartbeat
variable {h h' : Heartbeat} {Allowed : Float → Prop}

/-- What a heartbeat can come to be: it is new, or made with an interval, a command is carried out on it, its
task is started, goes on, or is stopped. What commands set it to is allowed. -/
inductive Reached (Allowed : Float → Prop) : Heartbeat → Prop
  | init {W : Type} (lines : HeartbeatLines W) (w : W) : Reached Allowed (Heartbeat.init lines w).1
  | withInterval {h h' : Heartbeat} {nanos : Nat} (hreached : Reached Allowed h) (hok : h.withInterval nanos = .ok h') :
    Reached Allowed h'
  | answer {h : Heartbeat} (verb : HeartbeatVerb) (o : Options) (hreached : Reached Allowed h)
    (hallowed : verb = .setInterval → ∀ seconds,
      (HeartbeatControl.answer verb o h).1.field? "wait_duration_sec" = some (.float seconds) → Allowed seconds) :
    Reached Allowed (HeartbeatControl.answer verb o h).2
  | start {h : Heartbeat} (hreached : Reached Allowed h) : Reached Allowed h.start
  | stop {h : Heartbeat} (hreached : Reached Allowed h) : Reached Allowed h.stop
  | advance {W : Type} {h : Heartbeat} (lines : HeartbeatLines W) (w : W) (hreached : Reached Allowed h) :
    Reached Allowed (h.advance lines w).1

/-- An interval of at most half an hour, which is none only if what set it was allowed to vanish. -/
structure Bounded (Allowed : Float → Prop) (h : Heartbeat) : Prop where
  le : h.interval ≤ 1800 * nanosPerSecond
  pos : (∀ seconds, Allowed seconds → ¬ Vanishes seconds) → 0 < h.interval

theorem Bounded.congr (hb : h.Bounded Allowed) (heq : h'.interval = h.interval) : h'.Bounded Allowed :=
  ⟨heq ▸ hb.le, fun hallowed => heq ▸ hb.pos hallowed⟩

theorem Accepted.bounded {seconds : Float} {interval : Nat} (ha : Accepted seconds interval)
    (hallowed : (∀ seconds, Allowed seconds → ¬ Vanishes seconds) → ¬ Vanishes seconds) :
    Bounded Allowed { h with interval } :=
  ⟨ha.le, fun hall => Nat.pos_of_ne_zero fun hzero => hallowed hall (ha.eq_zero_iff.1 hzero)⟩

theorem Reached.bounded (hr : h.Reached Allowed) : h.Bounded Allowed := by
  induction hr with
  | init lines w =>
    have hnew : Bounded Allowed {} := ⟨by decide, fun _ => by decide⟩
    exact hnew
  | withInterval _ hok ih =>
    obtain ⟨interval, hcheck, rfl⟩ := withInterval_eq_ok hok
    have ha := accepted_of_check hcheck
    exact ha.bounded fun _ => not_vanishes_secondsOf ha.positive
  | @answer h verb o _ hallowed ih =>
    cases verb with
    | value => exact ih
    | interval => exact ih
    | setInterval =>
      have hcases := HeartbeatControl.setInterval_cases o h
      rcases hcases with ⟨message, hanswer⟩ | ⟨seconds, interval, hcheck, hanswer⟩
      · have hsame : (HeartbeatControl.answer .setInterval o h).2 = h := congrArg (·.2) hanswer
        rw [hsame]
        exact ih
      · have hset : HeartbeatControl.answer .setInterval o h = _ := hanswer
        rw [hset] at hallowed ⊢
        exact (accepted_of_check hcheck).bounded fun hall => hall seconds (hallowed rfl seconds rfl)
  | start _ ih => exact ih.congr (interval_start _)
  | stop _ ih => exact ih.congr (interval_stop _)
  | advance lines w _ ih => exact ih.congr (interval_advance lines _ w)

/-- In every state of a heartbeat its interval is at most half an hour, and it is none only after a command set
it to at most half a nanosecond. A command to set it that is answered with an error leaves it, and one that is
answered with success says what it is set to, which is more than nothing and at most half an hour; the
interval is then the nearest whole number of nanoseconds. -/
theorem interval_of_reached (hr : h.Reached Allowed) :
    h.interval ≤ 1800 * nanosPerSecond ∧
    ((∀ seconds, Allowed seconds → ¬ Vanishes seconds) → 0 < h.interval) ∧
    ∀ o r h', HeartbeatControl.answer .setInterval o h = (r, h') →
      (r.isOk = false → h'.interval = h.interval) ∧
      (r.isOk = true → ∃ seconds, r.field? "wait_duration_sec" = some (.float seconds) ∧
        0 < seconds ∧ seconds ≤ longest ∧ Rounds seconds h'.interval ∧ (h'.interval = 0 ↔ Vanishes seconds)) := by
  refine ⟨hr.bounded.le, hr.bounded.pos, fun o r h' hanswer => ?_⟩
  have hanswer : HeartbeatControl.setInterval o h = (r, h') := hanswer
  rcases HeartbeatControl.setInterval_cases o h with ⟨message, hcases⟩ | ⟨seconds, interval, hcheck, hcases⟩
  · rw [hcases] at hanswer
    cases hanswer
    exact ⟨fun _ => rfl, nofun⟩
  · rw [hcases] at hanswer
    cases hanswer
    have ha := accepted_of_check hcheck
    exact ⟨nofun, fun _ => ⟨seconds, rfl, ha.positive, ha.most, ha.rounds, ha.eq_zero_iff⟩⟩

/-- The command to set the interval to a tenth of a nanosecond. -/
def instantOption : Options := .ofPairs [("wait_duration_sec", .float 1e-10)]

theorem interval_of_instantOption :
    Reached (fun _ => True) (HeartbeatControl.answer .setInterval instantOption {}).2 ∧
      (HeartbeatControl.answer .setInterval instantOption {}).1.isOk = true ∧
      (HeartbeatControl.answer .setInterval instantOption {}).2.interval = 0 ∧
      (HeartbeatControl.answer .setInterval instantOption {}).2.interval ≤ 1800 * nanosPerSecond ∧
      Reached (fun seconds => ¬ Vanishes seconds) {} ∧ 0 < ({} : Heartbeat).interval := by
  have hnew (Allowed : Float → Prop) : Reached Allowed {} := .init (W := Unit) ⟨fun _ w => (.done, w)⟩ ()
  have hset : Reached (fun _ => True) (HeartbeatControl.answer .setInterval instantOption {}).2 :=
    .answer .setInterval instantOption (hnew _) fun _ _ _ => trivial
  exact ⟨hset, by decide +kernel, by decide +kernel, (interval_of_reached hset).1, hnew _,
    (interval_of_reached (hnew fun seconds => ¬ Vanishes seconds)).2.1 fun _ hallowed => hallowed⟩

end Heartbeat

end DetectorControl
