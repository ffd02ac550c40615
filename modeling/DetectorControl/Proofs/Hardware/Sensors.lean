import DetectorControl.Proofs.Decimal.Digits
import DetectorControl.Proofs.Decimal.Order
import DetectorControl.Proofs.Decimal.Rounding
import DetectorControl.Proofs.Entries
import DetectorControl.Proofs.Telemetry
import DetectorControl.Hardware.Board
import DetectorControl.Subsystems.Housekeeping

/-!
# The sensors of a simulated board

What a housekeeping reading of the board contains (`read_eq`): all channels of the slow ADC, the
environmental sensor if it answers soon enough, and the slide switch, which is off unless it is known to be
on. The counts of the converter are small whatever the inputs are (`raw_convert`), since the input is
clamped.
-/

namespace DetectorControl

open Json Decimal Float.Model

namespace Board

/-! ## The converter -/

/-- A float that is neither above a positive one nor below zero, if it is a number at all. -/
theorem fits_of_not_lt {x y : Float} {m : Nat} {e : Int} {hm : 0 < m} (hy : y.toModel.unpack = .finite .positive m e hm)
    (hnegative : ¬ x < 0) (hlarge : ¬ y < x) (hx : x.toModel.unpack ≠ .notANumber) :
    Fits e x.toModel.unpack := by
  have hzero : (0 : Float).toModel.unpack = .zero .positive := rfl
  rw [lt_iff, hzero] at hnegative
  rw [lt_iff, hy] at hlarge
  have hfinite : x.toModel.unpack.isFinite = true → Fits 971 x.toModel.unpack := fits_of_isFinite
  generalize x.toModel.unpack = u at hnegative hlarge hx hfinite ⊢
  cases u with
  | zero s => trivial
  | notANumber => exact absurd rfl hx
  | infinity s =>
    cases s with
    | positive => exact absurd rfl hlarge
    | negative => exact absurd rfl hnegative
  | finite s m' e' hm' =>
    cases s with
    | negative => exact absurd rfl hnegative
    | positive =>
      refine ⟨(hfinite rfl).1, Int.not_lt.1 fun hlt => hlarge ?_⟩
      show some ((compare e e').then (compare m m')) = some .lt
      rw [Int.compare_eq_lt.2 hlt]
      rfl

theorem reference_eq : reference.toModel.unpack = .finite .positive 7430939385161318 (-51) (by decide) := rfl

theorem scale_eq : (4095 : Float).toModel.unpack = .finite .positive (4095 * 2 ^ 41) (-41) (by decide) := rfl

theorem fits_clamp (x : Float) :
    (clamp 0 reference x).toModel.unpack = .notANumber ∨ Fits (-51) (clamp 0 reference x).toModel.unpack := by
  by_cases hnan : (clamp 0 reference x).toModel.unpack = .notANumber
  · exact .inl hnan
  · refine .inr ?_
    unfold clamp at hnan ⊢
    by_cases hlow : x < 0
    · simp only [if_pos hlow]
      have hbelow : ¬ reference < 0 := by decide
      rw [if_neg hbelow]
      trivial
    · simp only [if_neg hlow] at hnan ⊢
      by_cases hhigh : reference < x
      · rw [if_pos hhigh, reference_eq]
        exact ⟨by decide, by decide⟩
      · rw [if_neg hhigh] at hnan ⊢
        exact fits_of_not_lt reference_eq hlow hhigh hnan

theorem roundHalfUp_le {x : Float} (h : x.toModel.unpack = .notANumber ∨ Fits (-22) x.toModel.unpack) :
    roundHalfUp x ≤ Bounds.natural32 := by
  unfold roundHalfUp
  split
  · rename_i b hb
    have hq : b.q ≤ -22 := by
      rcases h with hnan | hfits
      · have hfinite : x.toModel.unpack.isFinite = true := isFinite_of_ofFloat hb
        rw [hnan] at hfinite
        cases hfinite
      · exact q_le_of_fits (by decide) hb hfits
    have hm : b.m < 2 ^ 53 := (bounds_of_ofFloat hb).1
    have hnum : b.num = b.m := by
      have hzero : b.q.toNat = 0 := by omega
      rw [Binary.num, hzero]
      exact Nat.mul_one _
    have hden : 2 ^ 22 ≤ b.den := Nat.pow_le_pow_right (by decide) (by omega)
    split
    · exact Nat.zero_le _
    · rw [hnum, Bounds.natural32]
      refine Nat.div_le_of_le_mul ?_
      omega
  · exact Nat.zero_le _

theorem unpack_div_of_nan {x y : Float} (h : x.toModel.unpack = .notANumber) :
    (x / y).toModel.unpack = .notANumber := by
  have hnan : UnpackedFloat.div Format.binary64 .notANumber y.toModel.unpack = .notANumber := by
    cases y.toModel.unpack <;> rfl
  show (Float.Model.pack (UnpackedFloat.div Format.binary64 x.toModel.unpack y.toModel.unpack)).unpack = _
  rw [h, hnan]
  rfl

theorem unpack_mul_of_nan {x y : Float} (h : x.toModel.unpack = .notANumber) :
    (x * y).toModel.unpack = .notANumber := by
  have hnan : UnpackedFloat.mul Format.binary64 .notANumber y.toModel.unpack = .notANumber := by
    cases y.toModel.unpack <;> rfl
  show (Float.Model.pack (UnpackedFloat.mul Format.binary64 x.toModel.unpack y.toModel.unpack)).unpack = _
  rw [h, hnan]
  rfl

theorem raw_convert (voltage converted : Float) (units : String) :
    (convert voltage converted units).raw ≤ Bounds.natural32 := by
  refine roundHalfUp_le ?_
  rcases fits_clamp voltage with hnan | hfits
  · exact .inl (unpack_mul_of_nan (unpack_div_of_nan hnan))
  · refine .inr ?_
    -- a clamped input is at most the reference, and so the count is below 2 ^ 31
    have hquotient : Fits (-51) (clamp 0 reference voltage / reference).toModel.unpack := by
      have hd : ((7430939385161318 : Nat).log2 : Int) + -51 = (1 : Nat) := by decide
      exact fits_div (by decide) (by decide) reference_eq hd (by decide) (by decide) hfits
    have hscale : Fits (-41) (4095 : Float).toModel.unpack := by
      rw [scale_eq]
      exact ⟨by decide, by decide⟩
    exact fits_mul (by decide) (by decide) (by decide) hquotient hscale

/-! ## A reading -/

theorem raw_channels (b : Board) : ∀ c ∈ b.channels, c.2.raw ≤ Bounds.natural32 := by
  simp only [channels, List.forall_mem_cons]
  exact ⟨raw_convert _ _ _, raw_convert _ _ _, raw_convert _ _ _, raw_convert _ _ _, raw_convert _ _ _,
    raw_convert _ _ _, raw_convert _ _ _, raw_convert _ _ _, nofun⟩

/-- What the environmental sensor answers before it has been tried too often. -/
def environment? (b : Board) : Option Environment :=
  if b.environmentFailures < Housekeeping.environmentTrials then b.environment else none

/-- What a housekeeping reading of the board contains. -/
def readout (b : Board) : Readout where
  slowAdc := b.channels.map fun c => (toString c.1, c.2)
  environment := b.environment?
  slideSwitch := .ofBool (b.slideSwitch == some true)

theorem sorted_slowAdc (b : Board) : b.readout.slowAdc.Sorted := by
  have hkeys : (b.readout.slowAdc.map (·.1)).Pairwise (· < ·) := by
    show ([0, 1, 2, 3, 4, 5, 6, 7].map fun n : Nat => toString n).Pairwise (· < ·)
    decide +kernel
  exact List.pairwise_map.1 hkeys

theorem regular_readout (b : Board) : b.readout.Regular := by
  refine ⟨b.sorted_slowAdc, fun c hc => ?_⟩
  obtain ⟨c', hc', rfl⟩ := List.mem_map.1 hc
  exact b.raw_channels c' hc'

theorem value?_readout (b : Board) (channel : Nat) :
    b.readout.value? channel = (b.channels.get? channel).map Measurement.converted :=
  congrArg (Option.map Measurement.converted) (Entries.get?_mapKey toString_inj b.channels channel)

theorem readEnvironment_eq (b : Board) (trials : Nat) :
    (Housekeeping.readEnvironment sensors trials b).1 =
        (if b.environmentFailures < trials then b.environment else none) ∧
      (Housekeeping.readEnvironment sensors trials b).2.slideSwitch = b.slideSwitch := by
  induction trials generalizing b with
  | zero => exact ⟨rfl, rfl⟩
  | succ trials ih =>
    obtain ⟨levels, outputs, beat, writes, temperatures, currents, environment, failures, reads, switch, fault, spi⟩ := b
    cases failures with
    | succ n =>
      obtain ⟨hread, hswitch⟩ := ih ⟨levels, outputs, beat, writes, temperatures, currents, environment, n, reads + 1,
        switch, fault, spi⟩
      refine ⟨hread.trans ?_, hswitch⟩
      simp only [Nat.add_lt_add_iff_right]
    | zero =>
      cases environment with
      | some e => exact ⟨by simp; rfl, rfl⟩
      | none =>
        obtain ⟨hread, hswitch⟩ := ih ⟨levels, outputs, beat, writes, temperatures, currents, none, 0, reads + 1,
          switch, fault, spi⟩
        refine ⟨hread.trans ?_, hswitch⟩
        simp

theorem readSwitch_eq (b : Board) : (Housekeeping.readSwitch sensors b).1 = .ofBool (b.slideSwitch == some true) := by
  obtain ⟨levels, outputs, beat, writes, temperatures, currents, environment, failures, reads, switch, fault, spi⟩ := b
  rcases switch with _ | _ | _ <;> rfl

theorem read_of_fault {b : Board} (h : b.adcFault = true) (now : StateM Board Instant) :
    ∃ text, (Housekeeping.read sensors now b).1 = .error text := by
  have hadc : sensors.readAdc b = (.error (.communication "MCP3208 not responding"), b) := if_pos h
  unfold Housekeeping.read
  simp only [bind, StateT.bind, hadc]
  exact ⟨_, rfl⟩

/-- The payload of the reply to a reading: the time at which the clock is read, and the sensors. -/
theorem read_eq {b : Board} (h : b.adcFault = false) (now : StateM Board Instant) :
    ∃ b', (Housekeeping.read sensors now b).1 =
      .ok none (Snapshot.fields ⟨(now b').1.unixTime, (now b').1.time, b.readout⟩) := by
  have hadc : sensors.readAdc b = (.ok b.channels, b) := if_neg (by rw [h]; decide)
  have hchannels : Entries.ofList (b.channels.map fun c => (toString c.1, c.2)) = b.readout.slowAdc :=
    Entries.ofList_of_sorted b.sorted_slowAdc
  obtain ⟨henvironment, hswitch⟩ := readEnvironment_eq b Housekeeping.environmentTrials
  generalize hread : Housekeeping.readEnvironment sensors Housekeeping.environmentTrials b = r at henvironment hswitch
  obtain ⟨environment, b₁⟩ := r
  obtain rfl : environment = b.environment? := henvironment
  have hposition := readSwitch_eq b₁
  rw [hswitch] at hposition
  generalize hpositionRead : Housekeeping.readSwitch sensors b₁ = r at hposition
  obtain ⟨position, b₂⟩ := r
  obtain rfl : position = b.readout.slideSwitch := hposition
  refine ⟨b₂, ?_⟩
  unfold Housekeeping.read
  simp only [bind, StateT.bind, hadc, hread, hpositionRead, hchannels]
  rfl

end Board

end DetectorControl
