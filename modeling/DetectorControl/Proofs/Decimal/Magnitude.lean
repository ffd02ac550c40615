import DetectorControl.Proofs.Decimal.Order
import DetectorControl.Proofs.Decimal.Rounding

/-!
# How great a float is

A float that is not zero stands for the significand and the exponent that it is computed with
(`ofFloat_of_unpack`), and is greater than another one by the exponent first (`bounds_of_le`). What is
rounded to a float does not fall below the power of two that it has reached (`reaches_round`), and so
neither does a sum (`reaches_add`).
-/

namespace DetectorControl.Decimal

open Float.Model Float.Model.UnpackedFloat

/-! ## Nearest integers -/

/-- The integer nearest to `num / den`, of two equally near ones the even one. -/
structure Nearest (num den n : Nat) : Prop where
  low : 2 * num ≤ (2 * n + 1) * den
  high : 2 * n * den ≤ 2 * num + den
  even : 2 * num = (2 * n + 1) * den ∨ 2 * n * den = 2 * num + den → n % 2 = 0

theorem nearest_roundHalfEven {num den : Nat} (hden : 0 < den) : Nearest num den (roundHalfEven num den) := by
  have hsplit : den * (num / den) + num % den = num := Nat.div_add_mod num den
  have hrest : num % den < den := Nat.mod_lt _ hden
  unfold roundHalfEven
  generalize num / den = d at hsplit ⊢
  generalize num % den = r at hsplit hrest ⊢
  subst hsplit
  have hdown : (2 * d + 1) * den = 2 * (den * d) + den := by rw [Nat.add_mul, Nat.one_mul, Nat.mul_assoc, Nat.mul_comm d]
  have hdown' : 2 * d * den = 2 * (den * d) := by rw [Nat.mul_assoc, Nat.mul_comm d]
  have hup : (2 * (d + 1) + 1) * den = 2 * (den * d) + 3 * den := by
    rw [Nat.mul_add, Nat.add_assoc, Nat.add_mul, hdown']
  have hup' : 2 * (d + 1) * den = 2 * (den * d) + 2 * den := by rw [Nat.mul_add, Nat.add_mul, hdown']
  dsimp only
  split
  · exact ⟨by omega, by omega, by omega⟩
  · split
    · exact ⟨by omega, by omega, by omega⟩
    · split <;> exact ⟨by omega, by omega, by omega⟩

namespace Nearest
variable {num den n : Nat}

theorem le_of_le (h : Nearest num den n) (hden : 0 < den) {k : Nat} (hk : num ≤ k * den) : n ≤ k := by
  have hlt : 2 * n * den < (2 * k + 2) * den := by
    calc 2 * n * den
        ≤ 2 * num + den := h.high
      _ ≤ 2 * (k * den) + den := by omega
      _ < 2 * (k * den) + 2 * den := by omega
      _ = (2 * k + 2) * den := by rw [Nat.add_mul, Nat.mul_assoc]
  have := Nat.lt_of_mul_lt_mul_right hlt
  omega

/-- What is at most one half is rounded to zero, and nothing else is. -/
theorem eq_zero_iff (h : Nearest num den n) (hden : 0 < den) : n = 0 ↔ 2 * num ≤ den := by
  constructor
  · rintro rfl
    simpa using h.low
  · intro hhalf
    have hle : 2 * n * den ≤ 2 * den := Nat.le_trans h.high (by omega)
    have hone : n ≤ 1 := by
      have := Nat.le_of_mul_le_mul_right hle hden
      omega
    -- one and zero would be equally near, and one is not even
    have hne : n ≠ 1 := by
      rintro rfl
      have hodd := h.even (.inr (by have := h.high; omega))
      omega
    omega

end Nearest

/-! ## Floats that are not zero -/

section
variable {x y : Float}

def mantissaBits (x : Float) : BitVec Format.binary64.mantissaBitsWithoutImplicit :=
  unpackMantissa (x.toModel.toBits.toBitVec : BitVec Format.binary64.numBits)

theorem toNat_mantissaBits (x : Float) : (mantissaBits x).toNat = x.toBits.toNat % leastNormal := by
  show (x.toModel.toBits.toBitVec.extractLsb 51 0).toNat = _
  rw [BitVec.extractLsb_toNat, Nat.shiftRight_zero]
  rfl

/-- A float stands for what it is computed with. -/
theorem ofFloat_of_unpack {s : Sign} {m : Nat} {e : Int} {hm : 0 < m} (h : x.toModel.unpack = .finite s m e hm) :
    ∃ negative, Reading.ofFloat x = .finite ⟨negative, m, e⟩ := by
  have hexponent := toNat_exponentBits x
  have hmantissa := toNat_mantissaBits x
  have h : UnpackedFloat.unpack Format.binary64 x.toModel.toBits.toBitVec = .finite s m e hm := h
  unfold UnpackedFloat.unpack at h
  unfold Reading.ofFloat Reading.ofBits
  dsimp only at h ⊢
  rw [← hexponent, ← hmantissa]
  change (if exponentBits x = -1#_ then _ else if exponentBits x = 0#_ then _ else _) = _ at h
  by_cases hones : exponentBits x = -1#_
  · rw [if_pos hones] at h
    change (if mantissaBits x = 0#_ then _ else _) = _ at h
    by_cases hnone : mantissaBits x = 0#_
    · rw [if_pos hnone] at h
      cases h
    · rw [if_neg hnone] at h
      cases h
  · rw [if_neg hones] at h
    have hones' : (exponentBits x).toNat ≠ 2047 := fun heq => hones (BitVec.eq_of_toNat_eq heq)
    rw [if_neg hones']
    by_cases hzero : exponentBits x = 0#_
    · have hzero' : (exponentBits x).toNat = 0 := congrArg BitVec.toNat hzero
      rw [if_pos hzero] at h
      rw [if_pos hzero']
      change (if hnone : mantissaBits x = 0#_ then _ else _) = _ at h
      by_cases hnone : mantissaBits x = 0#_
      · rw [dif_pos hnone] at h
        cases h
      · rw [dif_neg hnone] at h
        cases h
        refine ⟨_, congrArg (fun q => Reading.finite ⟨_, (mantissaBits x).toNat, q⟩) ?_⟩
        show (-1074 : Int) = ((exponentBits x).toNat : Int) - ((1023 : Nat) + (52 : Nat)) + 1
        rw [hzero']
        rfl
    · have hzero' : (exponentBits x).toNat ≠ 0 := fun heq => hzero (BitVec.eq_of_toNat_eq heq)
      rw [if_neg hzero] at h
      rw [if_neg hzero']
      cases h
      have hone : (1#1 ++ (mantissaBits x : BitVec 52)).toNat = (mantissaBits x).toNat + leastNormal := by
        rw [toNat_one_append, Nat.add_comm]
        rfl
      exact ⟨_, congrArg (fun m => Reading.finite ⟨_, m, ((exponentBits x).toNat : Int) - 1075⟩) hone.symm⟩

/-- A positive float that is at most another one has a smaller exponent, or the same and at most its significand. -/
theorem bounds_of_le {m' : Nat} {e' : Int} {hm' : 0 < m'} (hy : y.toModel.unpack = .finite .positive m' e' hm')
    (hpos : 0 < x) (hle : x ≤ y) :
    ∃ m e hm, x.toModel.unpack = .finite .positive m e hm ∧ (e < e' ∨ e = e' ∧ m ≤ m') := by
  have hzero : (0 : Float).toModel.unpack = .zero .positive := rfl
  rw [lt_iff, hzero] at hpos
  rw [le_iff, hy] at hle
  generalize x.toModel.unpack = u at hpos hle
  cases u with
  | zero s => cases hpos
  | notANumber => cases hpos
  | infinity s => cases s <;> contradiction
  | finite s m e hm =>
    cases s with
    | negative => cases hpos
    | positive =>
      refine ⟨m, e, hm, rfl, ?_⟩
      have hle : ((compare e e').then (compare m m')).isLE = true := hle
      rcases Int.lt_trichotomy e e' with hlt | heq | hgt
      · exact .inl hlt
      · subst heq
        rw [Int.compare_eq_eq.2 rfl] at hle
        exact .inr ⟨rfl, Nat.isLE_compare.1 hle⟩
      · rw [Int.compare_eq_gt.2 hgt] at hle
        cases hle

end

/-! ## Powers of two that are reached -/

/-- A positive float with all its bits that is at least `2 ^ bound`. -/
def Reaches (bound : Int) : UnpackedFloat → Prop
  | .finite .positive m e _ => m.log2 = 52 ∧ bound ≤ 52 + e
  | _ => False

theorem Reaches.exists {bound : Int} {u : UnpackedFloat} (h : Reaches bound u) :
    ∃ m e hm, u = .finite .positive m e hm ∧ m.log2 = 52 ∧ bound ≤ 52 + e := by
  cases u with
  | finite s m e hm =>
    cases s with
    | positive => exact ⟨m, e, hm, rfl, h⟩
    | negative => cases h
  | _ => cases h

theorem Reaches.mono {bound bound' : Int} {u : UnpackedFloat} (h : Reaches bound u) (hle : bound' ≤ bound) :
    Reaches bound' u := by
  obtain ⟨m, e, hm, rfl, hbits, hlow⟩ := h.exists
  exact ⟨hbits, Int.le_trans hle hlow⟩

theorem Near.reaches {n : Nat} {u : UnpackedFloat} (h : Near n u) : Reaches 0 u := by
  obtain ⟨m, e, hm, rfl, hbits, hleast, -⟩ := h.exists
  exact ⟨hbits, by omega⟩

variable {bound : Int}

theorem reaches_roundWithAccuracy {m : Nat} {e : Int} {a : Accuracy} (hm : m ≠ 0) (h : m.log2 = 52 + cut m e)
    (hlow : bound ≤ m.log2 + e) (hhigh : m.log2 + e ≤ 1022) :
    Reaches bound (Float.Model.pack (roundWithAccuracy Format.binary64 .positive m e a)).unpack := by
  obtain ⟨m', hm', hround, hleast, hgreatest, -⟩ := round_normal (s := .positive) (a := a) hm h
  have hcarry := (carry_le (m := m) (e := e) (a := a)).1
  have hcut := (log2_le_cut m e).2
  rw [hround, unpack_pack hm' hleast hgreatest (by omega) (by omega)]
  exact ⟨(Nat.log2_eq_iff (by omega)).2 ⟨hleast, hgreatest⟩, by omega⟩

/-- What is exact is rounded to a float that reaches the same powers of two. -/
theorem reaches_round {n : Nat} {e : Int} (hn : 0 < n) (hbound : -1022 ≤ n.log2 + e) (hlow : bound ≤ n.log2 + e)
    (hhigh : n.log2 + e ≤ 1022) :
    Reaches bound (Float.Model.pack (UnpackedFloat.round Format.binary64 .positive n e)).unpack := by
  -- a short significand is made longer first
  obtain ⟨k, hk⟩ : ∃ k, k = (e - Format.binary64.targetExponent (totalExponent n e)).toNat := ⟨_, rfl⟩
  have htarget := target_eq n e
  have hlong := log2_mul_two_pow hn k
  have hround : UnpackedFloat.round Format.binary64 .positive n e =
      roundWithAccuracy Format.binary64 .positive (n * 2 ^ k) (e - k) .exact := by
    rw [hk, ← Nat.shiftLeft_eq]
    rfl
  have hcut := cut_eq (n * 2 ^ k) (e - k)
  rw [hround]
  exact reaches_roundWithAccuracy (Nat.ne_of_gt (Nat.mul_pos hn (Nat.two_pow_pos k))) (by omega) (by omega) (by omega)

theorem Reaches.pack_unpack {u : UnpackedFloat} (h : Reaches bound u) (hbound : -1022 ≤ bound) (hfits : Fits 900 u) :
    (Float.Model.pack u).unpack = u := by
  obtain ⟨m, e, hm, rfl, hbits, hlow⟩ := h.exists
  obtain ⟨hleast, hgreatest⟩ := (Nat.log2_eq_iff (by omega)).1 hbits
  have he := hfits.2
  exact unpack_pack hm hleast hgreatest (by omega) (by omega)

theorem reaches_zero_add {x y : Float} (hbound : -1022 ≤ bound) (hx : x.toModel.unpack = .zero .positive)
    (hy : Reaches bound y.toModel.unpack) (hy' : Fits 900 y.toModel.unpack) :
    Reaches bound (x + y).toModel.unpack := by
  have hadd : UnpackedFloat.add Format.binary64 x.toModel.unpack y.toModel.unpack = y.toModel.unpack := by
    obtain ⟨m, e, hm, hv, -⟩ := hy.exists
    rw [hx, hv]
    rfl
  show Reaches bound (Float.Model.pack (UnpackedFloat.add Format.binary64 x.toModel.unpack y.toModel.unpack)).unpack
  rw [hadd, hy.pack_unpack hbound hy']
  exact hy

theorem reaches_add_zero {x y : Float} (hbound : -1022 ≤ bound) (hx : Reaches bound x.toModel.unpack)
    (hx' : Fits 900 x.toModel.unpack) (hy : y.toModel.unpack = .zero .positive) :
    Reaches bound (x + y).toModel.unpack := by
  have hadd : UnpackedFloat.add Format.binary64 x.toModel.unpack y.toModel.unpack = x.toModel.unpack := by
    obtain ⟨m, e, hm, hu, -⟩ := hx.exists
    rw [hy, hu]
    rfl
  show Reaches bound (Float.Model.pack (UnpackedFloat.add Format.binary64 x.toModel.unpack y.toModel.unpack)).unpack
  rw [hadd, hx.pack_unpack hbound hx']
  exact hx

/-- A sum of positive floats reaches what the first one does. -/
theorem reaches_add {x y : Float} {bound' : Int} (hbound : -1022 ≤ bound) (hx : Reaches bound x.toModel.unpack)
    (hy : Reaches bound' y.toModel.unpack) (hx' : Fits 900 x.toModel.unpack) (hy' : Fits 900 y.toModel.unpack) :
    Reaches bound (x + y).toModel.unpack := by
  obtain ⟨m, e, hm, hu, hbits, hlow⟩ := hx.exists
  obtain ⟨m', e', hm', hv, hbits', -⟩ := hy.exists
  rw [hu] at hx'
  rw [hv] at hy'
  have hadd : (x + y).toModel =
      Float.Model.pack (UnpackedFloat.add Format.binary64 x.toModel.unpack y.toModel.unpack) := rfl
  obtain ⟨k, hk⟩ : ∃ k, k = (e - min e e').toNat := ⟨_, rfl⟩
  obtain ⟨k', hk'⟩ : ∃ k', k' = (e' - min e e').toNat := ⟨_, rfl⟩
  have hpos : 0 < m * 2 ^ k + m' * 2 ^ k' := Nat.add_pos_left (Nat.mul_pos hm (Nat.two_pow_pos k)) _
  have hsum : UnpackedFloat.add Format.binary64 (.finite .positive m e hm) (.finite .positive m' e' hm') =
      UnpackedFloat.round Format.binary64 .positive (m * 2 ^ k + m' * 2 ^ k') (min e e') := by
    have hgt : compare (((m * 2 ^ k + m' * 2 ^ k' : Nat)) : Int) 0 = .gt := Int.compare_eq_gt.2 (by omega)
    show UnpackedFloat.normalize Format.binary64
      (((m <<< (e - min e e').toNat : Nat) : Int) + ((m' <<< (e' - min e e').toNat : Nat) : Int)) (min e e') .positive = _
    rw [Nat.shiftLeft_eq, Nat.shiftLeft_eq, ← hk, ← hk', ← Int.natCast_add]
    unfold UnpackedFloat.normalize
    rw [hgt]
    rfl
  have hleast : m.log2 + k ≤ (m * 2 ^ k + m' * 2 ^ k').log2 := by
    rw [← log2_mul_two_pow hm k, Nat.le_log2 (by omega)]
    exact Nat.le_trans (Nat.log2_self_le (Nat.ne_of_gt (Nat.mul_pos hm (Nat.two_pow_pos k)))) (Nat.le_add_right _ _)
  have hgreatest : (m * 2 ^ k + m' * 2 ^ k').log2 < 54 + max k k' := by
    have hle {n j : Nat} (hn : n < 2 ^ 53) (hj : j ≤ max k k') : n * 2 ^ j < 2 ^ (53 + max k k') := by
      calc n * 2 ^ j
          < 2 ^ 53 * 2 ^ j := Nat.mul_lt_mul_of_pos_right hn (Nat.two_pow_pos j)
        _ ≤ 2 ^ 53 * 2 ^ max k k' := Nat.mul_le_mul_left _ (Nat.pow_le_pow_right (by decide) hj)
        _ = 2 ^ (53 + max k k') := (Nat.pow_add _ _ _).symm
    have hfirst := hle hx'.1 (Nat.le_max_left k k')
    have hsecond := hle hy'.1 (Nat.le_max_right k k')
    have hdouble : 2 ^ (54 + max k k') = 2 * 2 ^ (53 + max k k') := by rw [← Nat.pow_succ']; congr 1; omega
    exact (Nat.log2_lt (by omega)).2 (by omega)
  have he := hx'.2
  have he' := hy'.2
  rw [hadd, hu, hv, hsum]
  exact reaches_round hpos (by omega) (by omega) (by omega)

/-- A quotient falls below by at most one power of two what the powers of its parts leave. -/
theorem reaches_div {x y : Float} {bound' e : Int} {m : Nat} {hm : 0 < m}
    (hy : y.toModel.unpack = .finite .positive m e hm) (hbits : m.log2 = 52) (he : -100 ≤ e ∧ e ≤ 0)
    (hx : Reaches bound' x.toModel.unpack) (hx' : Fits 900 x.toModel.unpack) (hleast : -900 ≤ bound')
    (hbound : bound + 53 + e ≤ bound') : Reaches bound (x / y).toModel.unpack := by
  obtain ⟨m', e', hm', hu, hbits', hlow⟩ := hx.exists
  rw [hu] at hx'
  have hdiv : (x / y).toModel =
      Float.Model.pack (UnpackedFloat.div Format.binary64 x.toModel.unpack y.toModel.unpack) := rfl
  have htarget : Format.binary64.targetExponent (totalExponent m' e' - totalExponent m e) = e' - e - 53 := by
    show max (((m'.log2 : Int) + 1 + e') - (m.log2 + 1 + e) - (1 + 52 : Nat)) (3 - 2 ^ 10 - (1 + 52 : Nat)) = _
    omega
  have hmin : min (e' - e) (Format.binary64.targetExponent (totalExponent m' e' - totalExponent m e)) = e' - e - 53 := by
    omega
  have hshift : (e' - e - (e' - e - 53)).toNat = 53 := by omega
  have hround : UnpackedFloat.div Format.binary64 (.finite .positive m' e' hm') (.finite .positive m e hm) =
      roundWithAccuracy Format.binary64 .positive (m' * 2 ^ 53 / m) (e' - e - 53)
        (accuracyOfFraction (m' * 2 ^ 53 % m) m) := by
    rw [← Nat.shiftLeft_eq, ← hshift, ← hmin]
    rfl
  obtain ⟨hsmall, hlarge⟩ := (Nat.log2_eq_iff (by omega)).1 hbits
  obtain ⟨hsmall', hlarge'⟩ := (Nat.log2_eq_iff (by omega)).1 hbits'
  have hquotient : 2 ^ 52 ≤ m' * 2 ^ 53 / m := by
    rw [Nat.le_div_iff_mul_le hm]
    omega
  have hquotient' : m' * 2 ^ 53 / m < 2 ^ 54 := by
    rw [Nat.div_lt_iff_lt_mul hm]
    omega
  have hlog : 52 ≤ (m' * 2 ^ 53 / m).log2 := (Nat.le_log2 (by omega)).2 hquotient
  have hlog' : (m' * 2 ^ 53 / m).log2 < 54 := (Nat.log2_lt (by omega)).2 hquotient'
  have hcut := cut_eq (m' * 2 ^ 53 / m) (e' - e - 53)
  have he' := hx'.2
  rw [hdiv, hu, hy, hround]
  exact reaches_roundWithAccuracy (by omega) (by omega) (by omega) (by omega)

end DetectorControl.Decimal
