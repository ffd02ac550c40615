import Mathlib.Algebra.Group.Nat.Defs
import DetectorControl.Decimal.Binary

/-!
# When the result of arithmetic is finite

The operations on floats compute a significand and an exponent that are exact, or tell how far off
they are, and round them to 53 bits. A result is finite unless its exponent lies above 971 (`Fits`).
The product of two floats is finite if it lies below the middle between the greatest float and
`2 ^ 1024` (`isFinite_mul`), and the quotient by a float of at least one is no greater than what was
divided, up to rounding (`fits_div`).
-/

namespace DetectorControl.Decimal

open Float.Model Float.Model.UnpackedFloat

/-- A significand of at most 53 bits, and an exponent up to a bound. -/
def Fits (bound : Int) : UnpackedFloat → Prop
  | .zero _ => True
  | .finite _ m e _ => m < 2 ^ 53 ∧ e ≤ bound
  | _ => False

theorem Fits.isFinite {bound : Int} {u : UnpackedFloat} (h : Fits bound u) : u.isFinite = true := by
  cases u with
  | zero s => rfl
  | finite s m e hm => rfl
  | infinity s => cases h
  | notANumber => cases h

theorem Fits.mono {bound bound' : Int} {u : UnpackedFloat} (h : Fits bound u) (hle : bound ≤ bound') :
    Fits bound' u := by
  cases u with
  | zero s => trivial
  | finite s m e hm => exact ⟨h.1, Int.le_trans h.2 hle⟩
  | infinity s => cases h
  | notANumber => cases h

theorem toNat_one_append (m : BitVec 52) : (1#1 ++ m).toNat = 2 ^ 52 + m.toNat := by
  rw [BitVec.toNat_append, ← Nat.shiftLeft_add_eq_or_of_lt m.isLt]
  rfl

theorem fits_unpack {b : BitVec Format.binary64.numBits} {bound : Int} (hbound : -1074 ≤ bound)
    (hones : unpackExponent b ≠ -1#_) (h : ((unpackExponent b).toNat : Int) ≤ bound + 1075) :
    Fits bound (UnpackedFloat.unpack Format.binary64 b) := by
  have hlt : (unpackMantissa b).toNat < 2 ^ 52 := (unpackMantissa b).isLt
  unfold UnpackedFloat.unpack
  rw [if_neg hones]
  by_cases hzero : unpackExponent b = 0#_
  · rw [if_pos hzero]
    by_cases hmantissa : unpackMantissa b = 0#_
    · rw [dif_pos hmantissa]
      trivial
    · rw [dif_neg hmantissa]
      refine ⟨by omega, ?_⟩
      rw [hzero]
      show (0 : Nat) - ((1023 : Nat) + (52 : Nat)) + 1 ≤ bound
      omega
  · rw [if_neg hzero]
    constructor
    · show (1#1 ++ (unpackMantissa b : BitVec 52)).toNat < 2 ^ 53
      rw [toNat_one_append]
      omega
    · show ((unpackExponent b).toNat : Int) - ((1023 : Nat) + (52 : Nat)) ≤ bound
      omega

theorem pack_finite {s : Sign} {m : Nat} {e : Int} (hm : 0 < m) :
    UnpackedFloat.pack Format.binary64 (.finite s m e hm) =
      if 2 ^ 11 ≤ (e + (1023 : Nat) + (52 : Nat)).toNat + 1 then packedInfinity Format.binary64 s
      else if m.log2 + 1 = 53 then
        packComponents Format.binary64 s (BitVec.ofNat 11 (e + (1023 : Nat) + (52 : Nat)).toNat) (BitVec.ofNat 52 m)
      else packComponents Format.binary64 s 0#11 (BitVec.ofNat 52 m) := rfl

/-- What is packed with an exponent up to a bound has that when it is unpacked. -/
theorem fits_pack {u : UnpackedFloat} {bound : Int} (hleast : -1074 ≤ bound) (hgreatest : bound ≤ 971)
    (h : Fits bound u) : Fits bound (Float.Model.pack u).unpack := by
  cases u with
  | zero s => cases s <;> trivial
  | infinity s => cases h
  | notANumber => cases h
  | finite s m e hm =>
    have he : e ≤ bound := h.2
    show Fits bound (UnpackedFloat.unpack Format.binary64 (UnpackedFloat.pack Format.binary64 (.finite s m e hm)))
    rw [pack_finite, if_neg (by omega)]
    generalize hb : (e + (1023 : Nat) + (52 : Nat)).toNat = b
    have hexponent : (BitVec.ofNat 11 b).toNat = b := by
      rw [BitVec.toNat_ofNat]
      omega
    split
    · refine fits_unpack hleast ?_ ?_
      · rw [unpackExponent_packComponents]
        intro hones
        have hlast : b = 2047 := hexponent.symm.trans (congrArg BitVec.toNat hones)
        omega
      · rw [unpackExponent_packComponents]
        show ((BitVec.ofNat 11 b).toNat : Int) ≤ bound + 1075
        omega
    · refine fits_unpack hleast ?_ ?_
      · rw [unpackExponent_packComponents]
        decide
      · rw [unpackExponent_packComponents]
        show ((0 : Nat) : Int) ≤ bound + 1075
        omega

/-! ## Rounding -/

theorem mantissa_shiftRight (em : ExtendedMantissa) (k : Nat) :
    (em >>> k).mantissa = em.mantissa / 2 ^ k := by
  induction k with
  | zero => exact (Nat.div_one _).symm
  | succ k ih =>
    show (em >>> k).mantissa / 2 = _
    rw [ih, Nat.div_div_eq_div_mul, Nat.pow_succ]

theorem roundBit_shiftRight (em : ExtendedMantissa) (k : Nat) :
    (em >>> (k + 1)).roundBit = (em.mantissa / 2 ^ k % 2 != 0) := by
  show ((em >>> k).mantissa % 2 != 0) = _
  rw [mantissa_shiftRight]

theorem roundedMantissa_le (em : ExtendedMantissa) : em.roundedMantissa ≤ em.mantissa + 1 := by
  obtain ⟨m, r, s⟩ := em
  have hodd : m % 2 < 2 := Nat.mod_lt _ (by decide)
  cases r <;> cases s <;>
    simp only [ExtendedMantissa.roundedMantissa, ExtendedMantissa.accuracy, Accuracy.roundToNearestEven] <;>
    omega

theorem le_roundedMantissa (em : ExtendedMantissa) : em.mantissa ≤ em.roundedMantissa := by
  obtain ⟨m, r, s⟩ := em
  cases r <;> cases s <;>
    simp only [ExtendedMantissa.roundedMantissa, ExtendedMantissa.accuracy, Accuracy.roundToNearestEven] <;>
    omega

theorem roundedMantissa_of_not_roundBit {em : ExtendedMantissa} (h : em.roundBit = false) :
    em.roundedMantissa = em.mantissa := by
  obtain ⟨m, r, s⟩ := em
  cases h
  cases s <;> rfl

/-- The places that are cut off to leave 53 bits. -/
def cut (m : Nat) (e : Int) : Nat :=
  (Format.binary64.targetExponent (totalExponent m e) - e).toNat

theorem target_eq (m : Nat) (e : Int) :
    Format.binary64.targetExponent (totalExponent m e) = max ((m.log2 : Int) + e - 52) (-1074) := by
  show max ((m.log2 : Int) + 1 + e - (1 + 52 : Nat)) (3 - 2 ^ 10 - (1 + 52 : Nat)) = _
  omega

theorem cut_eq (m : Nat) (e : Int) : cut m e = (max ((m.log2 : Int) + e - 52) (-1074) - e).toNat := by
  rw [← target_eq]
  rfl

theorem log2_le_cut (m : Nat) (e : Int) : m.log2 ≤ 52 + cut m e ∧ -1074 ≤ e + cut m e := by
  unfold cut
  rw [target_eq]
  omega

theorem div_cut_lt (m : Nat) (e : Int) : m / 2 ^ cut m e < 2 ^ 53 := by
  rw [Nat.div_lt_iff_lt_mul (Nat.two_pow_pos _), ← Nat.pow_add]
  exact Nat.lt_of_lt_of_le Nat.lt_log2_self
    (Nat.pow_le_pow_right (by decide) (by have := log2_le_cut m e; omega))

/-- The significand that is left, rounded. -/
def kept (m : Nat) (e : Int) (a : Accuracy) : Nat :=
  (shiftToTargetExponent Format.binary64 m e a).1.roundedMantissa

theorem mantissa_ofMantissaAndAccuracy (m : Nat) (a : Accuracy) :
    (ExtendedMantissa.ofMantissaAndAccuracy m a).mantissa = m := by
  rcases a with _ | ⟨_ | _ | _⟩ <;> rfl

theorem kept_le (m : Nat) (e : Int) (a : Accuracy) : kept m e a ≤ m / 2 ^ cut m e + 1 := by
  refine Nat.le_trans (roundedMantissa_le _) (Nat.le_of_eq ?_)
  show (ExtendedMantissa.ofMantissaAndAccuracy m a >>> cut m e).mantissa + 1 = _
  rw [mantissa_shiftRight, mantissa_ofMantissaAndAccuracy]

theorem le_kept (m : Nat) (e : Int) (a : Accuracy) : m / 2 ^ cut m e ≤ kept m e a := by
  refine Nat.le_trans (Nat.le_of_eq ?_) (le_roundedMantissa _)
  show _ = (ExtendedMantissa.ofMantissaAndAccuracy m a >>> cut m e).mantissa
  rw [mantissa_shiftRight, mantissa_ofMantissaAndAccuracy]

theorem kept_of_even {m : Nat} {e : Int} {k : Nat} (hcut : cut m e = k + 1) (heven : m / 2 ^ k % 2 = 0) :
    kept m e .exact = m / 2 ^ cut m e := by
  have hround : (ExtendedMantissa.ofMantissaAndAccuracy m .exact >>> cut m e).roundBit = false := by
    rw [hcut, roundBit_shiftRight, mantissa_ofMantissaAndAccuracy, heven]
    rfl
  show (ExtendedMantissa.ofMantissaAndAccuracy m .exact >>> cut m e).roundedMantissa = _
  rw [roundedMantissa_of_not_roundBit hround, mantissa_shiftRight, mantissa_ofMantissaAndAccuracy]

/-- A significand of 53 bits stays, and one that was rounded up to `2 ^ 53` is halved. -/
theorem log2_kept_le (m : Nat) (e : Int) (a : Accuracy) :
    (kept m e a).log2 ≤ 53 ∧ (kept m e a < 2 ^ 53 → (kept m e a).log2 ≤ 52) := by
  have hle := kept_le m e a
  have hlt := div_cut_lt m e
  constructor
  · rcases Nat.eq_zero_or_pos (kept m e a) with hzero | hpos
    · rw [hzero]; decide
    · have := (Nat.log2_lt (n := kept m e a) (k := 54) (by omega)).2 (by omega)
      omega
  · intro hsmall
    rcases Nat.eq_zero_or_pos (kept m e a) with hzero | hpos
    · rw [hzero]; decide
    · have := (Nat.log2_lt (n := kept m e a) (k := 53) (by omega)).2 hsmall
      omega

/-- One place more is cut off if the significand was rounded up to `2 ^ 53`. -/
def carry (m : Nat) (e : Int) (a : Accuracy) : Nat := cut (kept m e a) (e + cut m e)

theorem round_eq (s : Sign) (m : Nat) (e : Int) (a : Accuracy) :
    roundWithAccuracy Format.binary64 s m e a =
      if h : kept m e a / 2 ^ carry m e a = 0 then .zero s
      else .finite s (kept m e a / 2 ^ carry m e a) (e + cut m e + carry m e a) (Nat.pos_of_ne_zero h) := by
  have hround : roundWithAccuracy Format.binary64 s m e a =
      if h : (ExtendedMantissa.ofMantissaAndAccuracy (kept m e a) .exact >>> carry m e a).mantissa = 0 then .zero s
      else .finite s _ (e + cut m e + carry m e a) (Nat.pos_of_ne_zero h) := rfl
  have hmantissa : (ExtendedMantissa.ofMantissaAndAccuracy (kept m e a) .exact >>> carry m e a).mantissa =
      kept m e a / 2 ^ carry m e a := by
    rw [mantissa_shiftRight, mantissa_ofMantissaAndAccuracy]
  rw [hround]
  generalize (ExtendedMantissa.ofMantissaAndAccuracy (kept m e a) .exact >>> carry m e a).mantissa = n at hmantissa
  subst hmantissa
  rfl

theorem carry_le {m : Nat} {e : Int} {a : Accuracy} : carry m e a ≤ 1 ∧ (kept m e a < 2 ^ 53 → carry m e a = 0) := by
  have hlow := (log2_le_cut m e).2
  obtain ⟨hbits, hbits'⟩ := log2_kept_le m e a
  unfold carry
  rw [cut_eq (kept m e a)]
  refine ⟨by omega, fun hsmall => ?_⟩
  have := hbits' hsmall
  omega

theorem fits_of_kept {s : Sign} {m : Nat} {e bound : Int} {a : Accuracy}
    (h : e + cut m e + 1 ≤ bound ∨ e + cut m e ≤ bound ∧ kept m e a < 2 ^ 53) :
    Fits bound (roundWithAccuracy Format.binary64 s m e a) := by
  obtain ⟨hcarry, hcarry'⟩ := carry_le (m := m) (e := e) (a := a)
  rw [round_eq]
  by_cases hzero : kept m e a / 2 ^ carry m e a = 0
  · rw [dif_pos hzero]
    trivial
  · rw [dif_neg hzero]
    refine ⟨div_cut_lt _ _, ?_⟩
    rcases h with h | ⟨h, hsmall⟩
    · omega
    · have := hcarry' hsmall
      omega

/-- What is exact and lies below the middle between the greatest float and `2 ^ 1024` is rounded to a
finite float. -/
theorem fits_round_exact {s : Sign} {m k : Nat} {e : Int} (hk : e + k = 970)
    (h : m < (2 ^ 54 - 1) * 2 ^ k) : Fits 971 (roundWithAccuracy Format.binary64 s m e .exact) := by
  have hdiv : m / 2 ^ k ≤ 2 ^ 54 - 2 := by
    have := (Nat.div_lt_iff_lt_mul (Nat.two_pow_pos k)).2 h
    omega
  have hbits : m.log2 ≤ 53 + k := by
    rcases Nat.eq_zero_or_pos m with hzero | hpos
    · rw [hzero]; simp
    · have hlt : m < 2 ^ (54 + k) := by
        refine Nat.lt_of_lt_of_le h ?_
        rw [Nat.pow_add]
        exact Nat.mul_le_mul_right _ (by decide)
      have := (Nat.log2_lt (n := m) (k := 54 + k) (by omega)).2 hlt
      omega
  have hcut := cut_eq m e
  by_cases hfull : m.log2 = 53 + k
  · have hcut' : cut m e = k + 1 := by omega
    refine fits_of_kept (.inr ⟨by omega, ?_⟩)
    have hhalf : m / 2 ^ cut m e = m / 2 ^ k / 2 := by
      rw [hcut', Nat.pow_succ, Nat.div_div_eq_div_mul]
    by_cases heven : m / 2 ^ k % 2 = 0
    · rw [kept_of_even hcut' heven, hhalf]
      omega
    · have := kept_le m e .exact
      omega
  · exact fits_of_kept (.inl (by omega))

/-- A product below the middle between the greatest float and `2 ^ 1024` is finite. -/
theorem isFinite_mul {x y : Float} {s s' : Sign} {m m' k : Nat} {e e' : Int} {hm : 0 < m} {hm' : 0 < m'}
    (hx : x.toModel.unpack = .finite s m e hm) (hy : y.toModel.unpack = .finite s' m' e' hm')
    (hk : e + e' + k = 970) (h : m * m' < (2 ^ 54 - 1) * 2 ^ k) : (x * y).isFinite = true := by
  have hmul : (x * y).toModel = Float.Model.pack (roundWithAccuracy Format.binary64 (s * s') (m * m') (e + e') .exact) := by
    show Float.Model.pack (UnpackedFloat.mul Format.binary64 x.toModel.unpack y.toModel.unpack) = _
    rw [hx, hy]
    rfl
  show (x * y).toModel.unpack.isFinite = true
  rw [hmul]
  exact (fits_pack (by decide) (by decide) (fits_round_exact hk h)).isFinite

theorem isFinite_or_isInf_pack {u : UnpackedFloat} {bound : Int} (h : Fits bound u) :
    (Float.Model.pack u).unpack.isFinite = true ∨ (Float.Model.pack u).unpack.isInf = true := by
  cases u with
  | zero s => exact .inl (by cases s <;> rfl)
  | infinity s => cases h
  | notANumber => cases h
  | finite s m e hm =>
    by_cases he : e ≤ 971
    · have hfits : Fits 971 (.finite s m e hm) := ⟨h.1, he⟩
      exact .inl (fits_pack (by decide) (by decide) hfits).isFinite
    · refine .inr ?_
      show (UnpackedFloat.unpack Format.binary64 (UnpackedFloat.pack Format.binary64 (.finite s m e hm))).isInf = true
      rw [pack_finite, if_pos (by omega)]
      cases s <;> rfl

theorem isFinite_or_isInf_mul {x y : Float} {bound bound' : Int} (hx : Fits bound x.toModel.unpack)
    (hy : Fits bound' y.toModel.unpack) : (x * y).isFinite = true ∨ (x * y).isInf = true := by
  have hmul : (x * y).toModel =
      Float.Model.pack (UnpackedFloat.mul Format.binary64 x.toModel.unpack y.toModel.unpack) := rfl
  have hfits : ∃ bound, Fits bound (UnpackedFloat.mul Format.binary64 x.toModel.unpack y.toModel.unpack) := by
    cases hu : x.toModel.unpack with
    | infinity s => rw [hu] at hx; cases hx
    | notANumber => rw [hu] at hx; cases hx
    | zero s =>
      cases hv : y.toModel.unpack with
      | infinity s => rw [hv] at hy; cases hy
      | notANumber => rw [hv] at hy; cases hy
      | _ => exact ⟨0, trivial⟩
    | finite s m e hm =>
      cases hv : y.toModel.unpack with
      | infinity s => rw [hv] at hy; cases hy
      | notANumber => rw [hv] at hy; cases hy
      | zero s => exact ⟨0, trivial⟩
      | finite s' m' e' hm' => exact ⟨_, fits_of_kept (.inl (Int.le_refl _))⟩
  obtain ⟨bound, hfits⟩ := hfits
  have h := isFinite_or_isInf_pack hfits
  rw [← hmul] at h
  exact h

/-- The quotient by a float of at least `2 ^ d`. -/
theorem fits_div {x y : Float} {bound : Int} (hleast : -1073 ≤ bound) (hgreatest : bound ≤ 971)
    {s : Sign} {m d : Nat} {e : Int} {hm : 0 < m} (hy : y.toModel.unpack = .finite s m e hm)
    (hd : m.log2 + e = d) (hbits : m.log2 ≤ 52) {bound' : Int} (hbound' : bound' ≤ bound + d - 1)
    (hx : Fits bound' x.toModel.unpack) : Fits bound (x / y).toModel.unpack := by
  have hdiv : (x / y).toModel =
      Float.Model.pack (UnpackedFloat.div Format.binary64 x.toModel.unpack y.toModel.unpack) := rfl
  rw [hdiv, hy]
  refine fits_pack (by omega) hgreatest ?_
  cases hu : x.toModel.unpack with
  | infinity s => rw [hu] at hx; cases hx
  | notANumber => rw [hu] at hx; cases hx
  | zero s => trivial
  | finite s' m' e' hm' =>
    rw [hu] at hx
    obtain ⟨hsmall, he'⟩ := hx
    -- the quotient of the significands, the first of which is made long enough
    obtain ⟨t, ht⟩ : ∃ t, t = min (e' - e)
        (Format.binary64.targetExponent (totalExponent m' e' - totalExponent m e)) := ⟨_, rfl⟩
    obtain ⟨k, hk⟩ : ∃ k, k = (e' - e - t).toNat := ⟨_, rfl⟩
    have htarget : Format.binary64.targetExponent (totalExponent m' e' - totalExponent m e) =
        max ((m'.log2 : Int) + e' - (m.log2 + e) - 53) (-1074) := by
      show max (((m'.log2 : Int) + 1 + e') - (m.log2 + 1 + e) - (1 + 52 : Nat)) (3 - 2 ^ 10 - (1 + 52 : Nat)) = _
      omega
    have hbits' : m'.log2 ≤ 52 := by
      have := (Nat.log2_lt (n := m') (k := 53) (by omega)).2 hsmall
      omega
    have hquotient : (m' * 2 ^ k / m).log2 ≤ m'.log2 + k - m.log2 := by
      rcases Nat.eq_zero_or_pos (m' * 2 ^ k / m) with hzero | hpos
      · rw [hzero]; simp
      · have hlt : m' * 2 ^ k / m * 2 ^ m.log2 < 2 ^ (m'.log2 + 1 + k) := by
          calc m' * 2 ^ k / m * 2 ^ m.log2
              ≤ m' * 2 ^ k / m * m := Nat.mul_le_mul_left _ (Nat.log2_self_le (by omega))
            _ ≤ m' * 2 ^ k := Nat.div_mul_le_self _ _
            _ < 2 ^ (m'.log2 + 1) * 2 ^ k := Nat.mul_lt_mul_of_pos_right Nat.lt_log2_self (Nat.two_pow_pos k)
            _ = 2 ^ (m'.log2 + 1 + k) := (Nat.pow_add _ _ _).symm
        have hlog : 2 ^ ((m' * 2 ^ k / m).log2 + m.log2) < 2 ^ (m'.log2 + 1 + k) := by
          rw [Nat.pow_add]
          exact Nat.lt_of_le_of_lt (Nat.mul_le_mul_right _ (Nat.log2_self_le (by omega))) hlt
        have := (Nat.pow_lt_pow_iff_right (by decide)).1 hlog
        omega
    have hround : UnpackedFloat.div Format.binary64 (.finite s' m' e' hm') (.finite s m e hm) =
        roundWithAccuracy Format.binary64 (s' / s) (m' * 2 ^ k / m) t
          (accuracyOfFraction (m' * 2 ^ k % m) m) := by
      rw [← Nat.shiftLeft_eq, hk, ht]
      rfl
    rw [hround]
    have hcut := cut_eq (m' * 2 ^ k / m) t
    exact fits_of_kept (.inl (by omega))

/-- The product of two floats. -/
theorem fits_mul {x y : Float} {bound e e' : Int} (hleast : -1074 < bound) (hgreatest : bound ≤ 971)
    (hbound : e + e' + 54 ≤ bound) (hx : Fits e x.toModel.unpack) (hy : Fits e' y.toModel.unpack) :
    Fits bound (x * y).toModel.unpack := by
  have hmul : (x * y).toModel =
      Float.Model.pack (UnpackedFloat.mul Format.binary64 x.toModel.unpack y.toModel.unpack) := rfl
  rw [hmul]
  refine fits_pack (by omega) hgreatest ?_
  cases hu : x.toModel.unpack with
  | infinity s => rw [hu] at hx; cases hx
  | notANumber => rw [hu] at hx; cases hx
  | zero s =>
    cases hv : y.toModel.unpack with
    | infinity s => rw [hv] at hy; cases hy
    | notANumber => rw [hv] at hy; cases hy
    | _ => trivial
  | finite s m q hm =>
    rw [hu] at hx
    cases hv : y.toModel.unpack with
    | infinity s => rw [hv] at hy; cases hy
    | notANumber => rw [hv] at hy; cases hy
    | zero s => trivial
    | finite s' m' q' hm' =>
      rw [hv] at hy
      obtain ⟨hsmall, hq⟩ := hx
      obtain ⟨hsmall', hq'⟩ := hy
      have hbits : (m * m').log2 < 106 := by
        refine (Nat.log2_lt (Nat.ne_of_gt (Nat.mul_pos hm hm'))).2 ?_
        calc m * m'
            < 2 ^ 53 * 2 ^ 53 := Nat.mul_lt_mul'' hsmall hsmall'
          _ = 2 ^ 106 := by decide
      have hcut := cut_eq (m * m') (q + q')
      exact fits_of_kept (.inl (by omega))

/-! ## Integers as floats -/

theorem sign_packComponents (s : Sign) (e : BitVec 11) (m : BitVec 52) :
    Sign.ofBitVec (unpackSign (packComponents Format.binary64 s e m)) = s := by
  unfold unpackSign packComponents BitVec.extractLsb
  -- the sign stands in front of the exponent, and that in front of the significand
  rw [BitVec.extractLsb'_append_eq_of_le (by decide), BitVec.extractLsb'_append_eq_of_le (by decide)]
  cases s <;> rfl

theorem finite_congr {s : Sign} {m m' : Nat} {e e' : Int} {hm : 0 < m} {hm' : 0 < m'} (h : m = m')
    (h' : e = e') : UnpackedFloat.finite s m e hm = .finite s m' e' hm' := by
  subst h h'
  rfl

theorem unpack_components {s : Sign} {e : BitVec 11} {m : BitVec 52} (hones : e ≠ -1#11) (hzero : e ≠ 0#11)
    (hm : 0 < (1#1 ++ m).toNat) :
    UnpackedFloat.unpack Format.binary64 (packComponents Format.binary64 s e m) =
      .finite s (1#1 ++ m).toNat ((e.toNat : Int) - 1075) hm := by
  have hexponent : unpackExponent (packComponents Format.binary64 s e m) = e := unpackExponent_packComponents
  have hmantissa : unpackMantissa (packComponents Format.binary64 s e m) = m := unpackMantissa_packComponents
  have hsign := sign_packComponents s e m
  unfold UnpackedFloat.unpack
  generalize packComponents Format.binary64 s e m = b at hexponent hmantissa hsign
  subst hexponent hmantissa hsign
  dsimp only
  rw [if_neg hones, if_neg hzero]
  rfl

theorem unpack_pack {s : Sign} {m : Nat} {e : Int} (hm : 0 < m) (hlow : 2 ^ 52 ≤ m) (hhigh : m < 2 ^ 53)
    (hleast : -1074 ≤ e) (hgreatest : e ≤ 971) :
    (Float.Model.pack (.finite s m e hm)).unpack = .finite s m e hm := by
  have hbits : m.log2 = 52 := (Nat.log2_eq_iff (by omega)).2 ⟨hlow, hhigh⟩
  show UnpackedFloat.unpack Format.binary64 (UnpackedFloat.pack Format.binary64 (.finite s m e hm)) = _
  rw [pack_finite, if_neg (by omega), if_pos (by omega)]
  generalize hb : (e + (1023 : Nat) + (52 : Nat)).toNat = b
  have hexponent : (BitVec.ofNat 11 b).toNat = b := by
    rw [BitVec.toNat_ofNat]
    omega
  have hmantissa : (1#1 ++ BitVec.ofNat 52 m).toNat = m := by
    rw [toNat_one_append, BitVec.toNat_ofNat]
    omega
  have hones : BitVec.ofNat 11 b ≠ -1#11 := by
    intro h
    have hlast : b = 2047 := hexponent.symm.trans (congrArg BitVec.toNat h)
    omega
  have hzero : BitVec.ofNat 11 b ≠ 0#11 := by
    intro h
    have hfirst : b = 0 := hexponent.symm.trans (congrArg BitVec.toNat h)
    omega
  rw [unpack_components hones hzero (hmantissa.symm ▸ hm)]
  exact finite_congr hmantissa (by rw [hexponent]; omega)

/-- A significand of 53 bits or more is rounded to one of 53 bits. -/
theorem round_normal {s : Sign} {m : Nat} {e : Int} {a : Accuracy} (hm : m ≠ 0) (h : m.log2 = 52 + cut m e) :
    ∃ m' hm', roundWithAccuracy Format.binary64 s m e a = .finite s m' (e + cut m e + carry m e a) hm' ∧
      2 ^ 52 ≤ m' ∧ m' < 2 ^ 53 ∧ m' * 2 ^ carry m e a = kept m e a := by
  have hleast : 2 ^ 52 ≤ kept m e a := by
    refine Nat.le_trans ?_ (le_kept m e a)
    rw [Nat.le_div_iff_mul_le (Nat.two_pow_pos _), ← Nat.pow_add, ← h]
    exact Nat.log2_self_le hm
  have hgreatest : kept m e a ≤ 2 ^ 53 := Nat.le_trans (kept_le m e a) (div_cut_lt m e)
  have hsmall : kept m e a / 2 ^ carry m e a < 2 ^ 53 := div_cut_lt _ _
  obtain ⟨hcarry, hcarry'⟩ := carry_le (m := m) (e := e) (a := a)
  obtain ⟨hlarge, hback⟩ : 2 ^ 52 ≤ kept m e a / 2 ^ carry m e a ∧
      kept m e a / 2 ^ carry m e a * 2 ^ carry m e a = kept m e a := by
    by_cases hfull : kept m e a = 2 ^ 53
    · have hone : carry m e a = 1 := by
        have hne : carry m e a ≠ 0 := fun hzero => by rw [hzero] at hsmall; omega
        omega
      rw [hone]
      omega
    · rw [hcarry' (by omega)]
      omega
  rw [round_eq, dif_neg (by omega)]
  exact ⟨_, _, rfl, hlarge, hsmall, hback⟩

/-- What is rounded to 53 bits grows by at most one part in `2 ^ 52`. -/
theorem kept_mul_le {m : Nat} {e : Int} {a : Accuracy} (hm : m ≠ 0) (h : m.log2 = 52 + cut m e) :
    kept m e a * 2 ^ (52 + cut m e) ≤ m * (2 ^ 52 + 1) := by
  have hlog := Nat.log2_self_le hm
  rw [h] at hlog
  calc kept m e a * 2 ^ (52 + cut m e)
      ≤ (m / 2 ^ cut m e + 1) * 2 ^ (52 + cut m e) := Nat.mul_le_mul_right _ (kept_le m e a)
    _ = m / 2 ^ cut m e * 2 ^ cut m e * 2 ^ 52 + 2 ^ (52 + cut m e) := by
      rw [Nat.add_mul, Nat.one_mul, Nat.mul_assoc, ← Nat.pow_add, Nat.add_comm (cut m e)]
    _ ≤ m * 2 ^ 52 + m := Nat.add_le_add (Nat.mul_le_mul_right _ (Nat.div_mul_le_self _ _)) hlog
    _ = m * (2 ^ 52 + 1) := by rw [Nat.mul_add, Nat.mul_one]

/-- A float with all its bits that is at least one, and above `n` by at most one part in `2 ^ 52`. -/
def Near (n : Nat) : UnpackedFloat → Prop
  | .finite .positive m e _ => m.log2 = 52 ∧ -52 ≤ e ∧ e ≤ 971 ∧ m * 2 ^ (e + 52).toNat ≤ n * (2 ^ 52 + 1)
  | _ => False

instance (n : Nat) : (u : UnpackedFloat) → Decidable (Near n u)
  | .finite .positive m e _ =>
    inferInstanceAs (Decidable (m.log2 = 52 ∧ -52 ≤ e ∧ e ≤ 971 ∧ m * 2 ^ (e + 52).toNat ≤ n * (2 ^ 52 + 1)))
  | .finite .negative _ _ _ | .zero _ | .infinity _ | .notANumber => inferInstanceAs (Decidable False)

theorem Near.exists {n : Nat} {u : UnpackedFloat} (h : Near n u) :
    ∃ m e hm, u = .finite .positive m e hm ∧ m.log2 = 52 ∧ -52 ≤ e ∧ e ≤ 971 ∧
      m * 2 ^ (e + 52).toNat ≤ n * (2 ^ 52 + 1) := by
  cases u with
  | finite s m e hm =>
    cases s with
    | positive => exact ⟨m, e, hm, rfl, h⟩
    | negative => cases h
  | _ => cases h

theorem log2_mul_two_pow {n : Nat} (hn : 0 < n) (k : Nat) : (n * 2 ^ k).log2 = n.log2 + k := by
  refine (Nat.log2_eq_iff (Nat.ne_of_gt (Nat.mul_pos hn (Nat.two_pow_pos k)))).2 ⟨?_, ?_⟩
  · rw [Nat.pow_add]
    exact Nat.mul_le_mul_right _ (Nat.log2_self_le (by omega))
  · rw [Nat.add_right_comm, Nat.pow_add]
    exact Nat.mul_lt_mul_of_pos_right Nat.lt_log2_self (Nat.two_pow_pos k)

theorem near_round {n k : Nat} {a : Accuracy} (hn : 0 < n) (hbits : n.log2 ≤ 1022) (hk : 52 ≤ n.log2 + k) :
    Near n (Float.Model.pack (roundWithAccuracy Format.binary64 .positive (n * 2 ^ k) (-k) a)).unpack := by
  have hpos : n * 2 ^ k ≠ 0 := Nat.ne_of_gt (Nat.mul_pos hn (Nat.two_pow_pos k))
  have hlong := log2_mul_two_pow hn k
  have hcut : 52 + cut (n * 2 ^ k) (-k) = n.log2 + k := by
    rw [cut_eq, hlong]
    omega
  obtain ⟨m, hm, hresult, hlow, hhigh, hkept⟩ :=
    round_normal (s := .positive) (a := a) hpos (hlong.trans hcut.symm)
  have hcarry := (carry_le (m := n * 2 ^ k) (e := -k) (a := a)).1
  have hgrows := kept_mul_le (a := a) hpos (hlong.trans hcut.symm)
  rw [hresult, unpack_pack hm hlow hhigh (by omega) (by omega)]
  refine ⟨(Nat.log2_eq_iff (by omega)).2 ⟨hlow, hhigh⟩, by omega, by omega, ?_⟩
  have hexponent : (-(k : Int) + cut (n * 2 ^ k) (-k) + carry (n * 2 ^ k) (-k) a + 52).toNat =
      carry (n * 2 ^ k) (-k) a + n.log2 := by omega
  rw [hexponent, Nat.pow_add, ← Nat.mul_assoc, hkept]
  rw [hcut, Nat.pow_add, ← Nat.mul_assoc, Nat.mul_right_comm n] at hgrows
  exact Nat.le_of_mul_le_mul_right hgrows (Nat.two_pow_pos k)

theorem log2_toNat_le {n : UInt64} (hn : 0 < n.toNat) : n.toNat.log2 ≤ 63 := by
  have := (Nat.log2_lt (n := n.toNat) (k := 64) (by omega)).2 n.toNat_lt
  omega

/-- An integer as a float is rounded once, and a short one is made longer first. -/
theorem toModel_toFloat {n : UInt64} (hn : 0 < n.toNat) {k : Nat} (hk : k = 52 - n.toNat.log2) :
    n.toFloat.toModel =
      Float.Model.pack (roundWithAccuracy Format.binary64 .positive (n.toNat * 2 ^ k) (-k) .exact) := by
  have hpositive : compare (n.toNat : Int) 0 = .gt := Int.compare_eq_gt.2 (by omega)
  have hshift : (-Format.binary64.targetExponent (totalExponent n.toNat 0)).toNat = k := by
    rw [target_eq]
    omega
  show Float.Model.pack (UnpackedFloat.normalize Format.binary64 (n.toNat : Int) 0 .positive) = _
  unfold UnpackedFloat.normalize UnpackedFloat.round decreaseExponent
  simp only [hpositive, Int.toNat_natCast, Int.zero_sub, hshift, Nat.shiftLeft_eq]

/-- An integer of 64 bits as a float. -/
theorem near_toFloat {n : UInt64} (hn : 0 < n.toNat) : Near n.toNat n.toFloat.toModel.unpack := by
  have hbits := log2_toNat_le hn
  obtain ⟨k, hk⟩ : ∃ k, k = 52 - n.toNat.log2 := ⟨_, rfl⟩
  rw [toModel_toFloat hn hk]
  exact near_round hn (by omega) (by omega)

theorem fits_toFloat (n : UInt64) : Fits 12 n.toFloat.toModel.unpack := by
  rcases Nat.eq_zero_or_pos n.toNat with hzero | hpos
  · have hn : n = 0 := UInt64.toNat_inj.1 hzero
    have hunpack : (0 : UInt64).toFloat.toModel.unpack = .zero .positive := rfl
    rw [hn, hunpack]
    trivial
  · obtain ⟨m, e, hm, hunpack, hbits, hlow, -, hle⟩ := (near_toFloat hpos).exists
    obtain ⟨hleast, hgreatest⟩ := (Nat.log2_eq_iff (by omega)).1 hbits
    rw [hunpack]
    refine ⟨hgreatest, ?_⟩
    have hlt : 2 ^ (52 + (e + 52).toNat) < 2 ^ 117 := by
      calc 2 ^ (52 + (e + 52).toNat)
          = 2 ^ 52 * 2 ^ (e + 52).toNat := Nat.pow_add _ _ _
        _ ≤ m * 2 ^ (e + 52).toNat := Nat.mul_le_mul_right _ hleast
        _ ≤ n.toNat * (2 ^ 52 + 1) := hle
        _ < 2 ^ 64 * (2 ^ 52 + 1) := Nat.mul_lt_mul_of_pos_right n.toNat_lt (by decide)
        _ < 2 ^ 117 := by decide
    have := (Nat.pow_lt_pow_iff_right (by decide)).1 hlt
    omega

/-! ## What a float stands for -/

theorem bounds_of_ofFloat {x : Float} {b : Binary} (h : Reading.ofFloat x = .finite b) :
    b.m < 2 ^ 53 ∧ b.q ≤ 971 := by
  unfold Reading.ofFloat Reading.ofBits leastNormal at h
  dsimp only at h
  split at h
  · split at h <;> cases h
  · split at h
    · cases h
      have hgreatest : (-1074 : Int) ≤ 971 := by decide
      exact ⟨Nat.lt_of_lt_of_le (Nat.mod_lt _ (by decide)) (by decide), hgreatest⟩
    · cases h
      constructor <;> dsimp only <;> omega

def exponentBits (x : Float) : BitVec Format.binary64.exponentBits :=
  unpackExponent (x.toModel.toBits.toBitVec : BitVec Format.binary64.numBits)

theorem toNat_exponentBits (x : Float) : (exponentBits x).toNat = x.toBits.toNat / leastNormal % 2048 := by
  show (x.toModel.toBits.toBitVec.extractLsb 62 52).toNat = _
  rw [BitVec.extractLsb_toNat, Nat.shiftRight_eq_div_pow]
  rfl

theorem exponentBits_of_isFinite {x : Float} (h : x.isFinite = true) :
    exponentBits x ≠ -1#_ := by
  intro hones
  unfold exponentBits at hones
  have hfinite : (UnpackedFloat.unpack Format.binary64 x.toModel.toBits.toBitVec).isFinite = true := h
  unfold UnpackedFloat.unpack at hfinite
  rw [if_pos hones] at hfinite
  split at hfinite <;> cases hfinite

theorem ofFloat_of_isFinite {x : Float} (h : x.isFinite = true) : ∃ b, Reading.ofFloat x = .finite b := by
  have hexponent : x.toBits.toNat / leastNormal % 2048 ≠ 2047 := by
    intro hones
    exact exponentBits_of_isFinite h (BitVec.eq_of_toNat_eq ((toNat_exponentBits x).trans hones))
  unfold Reading.ofFloat Reading.ofBits
  dsimp only
  rw [if_neg hexponent]
  split <;> exact ⟨_, rfl⟩

/-- The exponent that a float stands for is the one that it is computed with. -/
theorem q_le_of_fits {x : Float} {b : Binary} {bound : Int} (hleast : -1074 ≤ bound) (h : Reading.ofFloat x = .finite b)
    (hfits : Fits bound x.toModel.unpack) : b.q ≤ bound := by
  have hexponent := toNat_exponentBits x
  unfold Reading.ofFloat Reading.ofBits at h
  dsimp only at h
  rw [← hexponent] at h
  split at h
  · split at h <;> cases h
  · split at h
    · cases h
      exact hleast
    · rename_i hones hzero
      cases h
      have hfits : Fits bound (UnpackedFloat.unpack Format.binary64 x.toModel.toBits.toBitVec) := hfits
      unfold UnpackedFloat.unpack at hfits
      have hones' : exponentBits x ≠ -1#_ := fun heq => hones (congrArg BitVec.toNat heq)
      have hzero' : exponentBits x ≠ 0#_ := fun heq => hzero (congrArg BitVec.toNat heq)
      unfold exponentBits at hones' hzero'
      rw [if_neg hones', if_neg hzero'] at hfits
      exact hfits.2

theorem fits_of_exponentBits {x : Float} (h : exponentBits x ≠ -1#_) : Fits 971 x.toModel.unpack := by
  have hlt : (exponentBits x).toNat < 2 ^ 11 := (exponentBits x).isLt
  have hne : (exponentBits x).toNat ≠ 2047 := fun heq => h (BitVec.eq_of_toNat_eq heq)
  have hle : ((exponentBits x).toNat : Int) ≤ 971 + 1075 := by omega
  exact fits_unpack (by decide) h hle

theorem fits_of_isFinite {x : Float} (h : x.isFinite = true) : Fits 971 x.toModel.unpack :=
  fits_of_exponentBits (exponentBits_of_isFinite h)

theorem isFinite_of_ofFloat {x : Float} {b : Binary} (h : Reading.ofFloat x = .finite b) : x.isFinite = true := by
  refine (fits_of_exponentBits fun hones => ?_).isFinite
  have hexponent : x.toBits.toNat / leastNormal % 2048 = 2047 :=
    (toNat_exponentBits x).symm.trans (congrArg BitVec.toNat hones)
  unfold Reading.ofFloat Reading.ofBits at h
  dsimp only at h
  rw [if_pos hexponent] at h
  split at h <;> cases h

theorem isFinite_neg {x : Float} (h : x.isFinite = true) : (-x).isFinite = true := by
  have hneg : (-x).toModel = Float.Model.pack x.toModel.unpack.neg := rfl
  show (-x).toModel.unpack.isFinite = true
  rw [hneg]
  have hx := fits_of_isFinite h
  refine (fits_pack (by decide) (Int.le_refl 971) ?_).isFinite
  cases hu : x.toModel.unpack with
  | zero s => trivial
  | finite s m e hm => rw [hu] at hx; exact hx
  | infinity s => rw [hu] at hx; cases hx
  | notANumber => rw [hu] at hx; cases hx

end DetectorControl.Decimal
