import DetectorControl.Decimal.Literal
import DetectorControl.Proofs.Decimal.Digits
import DetectorControl.Proofs.Decimal.Rounding

/-!
# What the quick way comes to

The quick way from digits to a double yields finite doubles only (`isFinite_of_scaled`), and it yields
one whenever the number lies some way below the greatest double (`scaled_of_le`).
-/

namespace DetectorControl.Decimal

open Float.Model Float.Model.UnpackedFloat

/-! ## Powers of ten -/

theorem near_powerOfTen {n : Nat} (hn : n ≤ 308) : Near (10 ^ n) (powerOfTen n).toModel.unpack := by
  have hsmall : ∀ k ≤ 22, Near (10 ^ k) (powerOfTen k).toModel.unpack := by decide +kernel
  by_cases hle : n ≤ 22
  · exact hsmall n hle
  by_cases hlast : n = 308
  · rw [hlast]
    decide +kernel
  have hround : (powerOfTen n).toModel =
      Float.Model.pack (roundWithAccuracy Format.binary64 .positive (10 ^ n * 2 ^ 53) (-(53 : Nat)) .exact) := by
    have hmodel : (powerOfTen n).toModel =
        Float.Model.pack (UnpackedFloat.ofScientific Format.binary64 1 (n : Int)) := by
      show (Float.ofScientific 1 false n).toModel = _
      unfold Float.ofScientific
      rw [dif_neg fun h => hle h.2]
      rfl
    have hlimit : ¬ ((n : Int) > 2 ^ Format.binary64.exponentBits) := by
      show ¬ ((n : Int) > 2 ^ 11)
      omega
    have hlimit' : ¬ ((n : Int) < -((2 ^ Format.binary64.exponentBits : Int) + Nat.log2 1)) := by
      have : (0 : Int) ≤ 2 ^ Format.binary64.exponentBits := by decide
      omega
    rw [hmodel]
    unfold UnpackedFloat.ofScientific
    rw [dif_neg (by decide), if_neg hlimit, if_neg hlimit', if_pos (Int.natCast_nonneg n)]
    have hproduct : 1 <<< Format.binary64.mantissaBits * 10 ^ (n : Int).toNat = 10 ^ n * 2 ^ 53 := by
      rw [Int.toNat_natCast, Nat.mul_comm]
      rfl
    have hexponent : -(Format.binary64.mantissaBits : Int) + 0 = -(53 : Nat) := by decide
    have hmul : UnpackedFloat.mul Format.binary64
        (.finite .positive (1 <<< Format.binary64.mantissaBits) (-Format.binary64.mantissaBits) (by decide))
        (.finite .positive (10 ^ (n : Int).toNat) 0 (Nat.pow_pos (by decide))) =
      roundWithAccuracy Format.binary64 .positive (1 <<< Format.binary64.mantissaBits * 10 ^ (n : Int).toNat)
        (-(Format.binary64.mantissaBits : Int) + 0) .exact := rfl
    rw [hproduct, hexponent] at hmul
    exact congrArg Float.Model.pack hmul
  rw [hround]
  have hpos : 0 < 10 ^ n := Nat.pow_pos (by decide)
  have hbits : ∀ k < 308, (10 ^ k).log2 ≤ 1022 := by decide +kernel
  exact near_round hpos (hbits n (by omega)) (by omega)

theorem powerOfTen_finite {n : Nat} (hn : n ≤ 308) :
    ∃ m e hm, (powerOfTen n).toModel.unpack = .finite .positive m e hm ∧ m.log2 = 52 ∧ -52 ≤ e := by
  obtain ⟨m, e, hm, hunpack, hbits, hlow, -, -⟩ := (near_powerOfTen hn).exists
  exact ⟨m, e, hm, hunpack, hbits, hlow⟩

def exponent : UnpackedFloat → Int
  | .finite _ _ e _ => e
  | _ => 0

theorem powerOfTen_last : ∃ m hm, (powerOfTen 308).toModel.unpack = .finite .positive m 971 hm ∧ m.log2 = 52 := by
  obtain ⟨m, e, hm, hunpack, hbits, -⟩ := powerOfTen_finite (Nat.le_refl 308)
  have hexponent : exponent (powerOfTen 308).toModel.unpack = 971 := by decide +kernel
  rw [hunpack] at hexponent
  cases hexponent
  exact ⟨m, hm, hunpack, hbits⟩

/-! ## Scaling -/

theorem fits_scaleDown (x : Float) (n : Nat) (hx : Fits 64 x.toModel.unpack) :
    Fits 65 (scaleDown x n).toModel.unpack := by
  induction x, n using scaleDown.induct with
  | case1 x n hn =>
    obtain ⟨m, e, hm, hunpack, hbits, hlow⟩ := powerOfTen_finite hn
    obtain ⟨d, hd⟩ : ∃ d : Nat, (m.log2 : Int) + e = d := ⟨((m.log2 : Int) + e).toNat, by omega⟩
    unfold scaleDown
    rw [if_pos hn]
    exact fits_div (by decide) (by decide) hunpack hd (by omega) (by omega) hx
  | case2 x n hn hzero =>
    unfold scaleDown
    rw [if_neg hn, if_pos hzero]
    exact hx.mono (by decide)
  | case3 x n hn hzero ih =>
    obtain ⟨m, hm, hunpack, hbits⟩ := powerOfTen_last
    unfold scaleDown
    rw [if_neg hn, if_neg hzero]
    have hd : (m.log2 : Int) + 971 = (1023 : Nat) := by omega
    exact ih (fits_div (by decide) (by decide) hunpack hd (by omega) (by decide) hx)

/-- The numbers that the quick way is sure to come to are at most this. -/
def safe : Nat := (2 ^ 50 - 1) * 2 ^ 974

/-- Two significands whose product stands for at most `n`, but for their last bits. -/
theorem mul_lt_of_le_safe {n m m' : Nat} {e e' : Int} (hn : n ≤ safe) (hm : 2 ^ 52 ≤ m) (hm' : 2 ^ 52 ≤ m')
    (he : -52 ≤ e) (he' : -52 ≤ e')
    (h : m * 2 ^ (e + 52).toNat * (m' * 2 ^ (e' + 52).toNat) ≤ n * (2 ^ 52 + 1) ^ 2) :
    ∃ k : Nat, e + e' + k = 970 ∧ m * m' < (2 ^ 54 - 1) * 2 ^ k := by
  have hlt : m * m' * 2 ^ ((e + 52).toNat + (e' + 52).toNat) < (2 ^ 54 - 1) * 2 ^ 1074 := by
    have hmax : n * (2 ^ 52 + 1) ^ 2 < (2 ^ 54 - 1) * 2 ^ 1074 :=
      Nat.lt_of_le_of_lt (Nat.mul_le_mul_right _ hn) (by decide +kernel)
    rw [Nat.pow_add, ← Nat.mul_mul_mul_comm]
    exact Nat.lt_of_le_of_lt h hmax
  have hexponents : (e + 52).toNat + (e' + 52).toNat < 1024 := by
    have hpow : 2 ^ (104 + ((e + 52).toNat + (e' + 52).toNat)) < 2 ^ 1128 := by
      calc 2 ^ (104 + ((e + 52).toNat + (e' + 52).toNat))
          = 2 ^ 52 * 2 ^ 52 * 2 ^ ((e + 52).toNat + (e' + 52).toNat) := by rw [Nat.pow_add, ← Nat.pow_add 2 52]
        _ ≤ m * m' * 2 ^ ((e + 52).toNat + (e' + 52).toNat) := Nat.mul_le_mul_right _ (Nat.mul_le_mul hm hm')
        _ < (2 ^ 54 - 1) * 2 ^ 1074 := hlt
        _ < 2 ^ 1128 := by decide +kernel
    have := (Nat.pow_lt_pow_iff_right (by decide)).1 hpow
    omega
  obtain ⟨k, hk⟩ : ∃ k, 1074 = k + ((e + 52).toNat + (e' + 52).toNat) := ⟨_, (Nat.sub_add_cancel (by omega)).symm⟩
  refine ⟨k, by omega, ?_⟩
  rw [hk, Nat.pow_add 2 k, ← Nat.mul_assoc] at hlt
  exact Nat.lt_of_mul_lt_mul_right hlt

theorem not_isInf_of_isFinite {x : Float} (h : x.isFinite = true) : x.isInf = false := by
  show x.toModel.unpack.isInf = false
  have hfinite : x.toModel.unpack.isFinite = true := h
  cases hu : x.toModel.unpack with
  | infinity s => rw [hu] at hfinite; cases hfinite
  | _ => rfl

theorem isFinite_mul_powerOfTen {f : UInt64} {n : Nat} (hn : n ≤ 308) (h : f.toNat * 10 ^ n ≤ safe) :
    (f.toFloat * powerOfTen n).isFinite = true := by
  rcases Nat.eq_zero_or_pos f.toNat with hzero | hpos
  · obtain rfl : f = 0 := UInt64.toNat_inj.1 hzero
    obtain ⟨m, e, hm, hunpack, -⟩ := powerOfTen_finite hn
    have hmul : ((0 : UInt64).toFloat * powerOfTen n).toModel = Float.Model.pack (.zero .positive) := by
      show Float.Model.pack (UnpackedFloat.mul Format.binary64 (.zero .positive) (powerOfTen n).toModel.unpack) = _
      rw [hunpack]
      rfl
    show ((0 : UInt64).toFloat * powerOfTen n).toModel.unpack.isFinite = true
    rw [hmul]
    rfl
  · obtain ⟨m, e, hm, hf, hbits, hlow, -, hle⟩ := (near_toFloat hpos).exists
    obtain ⟨m', e', hm', hp, hbits', hlow', -, hle'⟩ := (near_powerOfTen hn).exists
    obtain ⟨k, hk, hlt⟩ := mul_lt_of_le_safe h ((Nat.log2_eq_iff (by omega)).1 hbits).1
      ((Nat.log2_eq_iff (by omega)).1 hbits').1 hlow hlow' (by
        calc m * 2 ^ (e + 52).toNat * (m' * 2 ^ (e' + 52).toNat)
            ≤ f.toNat * (2 ^ 52 + 1) * (10 ^ n * (2 ^ 52 + 1)) := Nat.mul_le_mul hle hle'
          _ = f.toNat * 10 ^ n * (2 ^ 52 + 1) ^ 2 := by rw [Nat.mul_mul_mul_comm, Nat.pow_two])
    exact isFinite_mul hf hp hk hlt

/-- The quick way comes to a number that is not too large. -/
theorem scaled_of_le {f : UInt64} {e : Int} (h : e ≤ 0 ∨ f.toNat * 10 ^ e.toNat ≤ safe) :
    (scaled f e).isSome = true := by
  unfold scaled
  by_cases hneg : e < 0
  · simp only [if_pos hneg, Option.isSome_some]
  have hsafe : f.toNat * 10 ^ e.toNat ≤ safe := by
    rcases h with h | h
    · have hzero : e.toNat = 0 := by omega
      have hlt := f.toNat_lt
      rw [hzero, Nat.pow_zero, Nat.mul_one]
      exact Nat.le_trans (Nat.le_of_lt hlt) (by decide +kernel)
    · exact h
  by_cases hle : e ≤ 308
  · have hfinite := isFinite_mul_powerOfTen (by omega) hsafe
    have hinf : (f.toFloat * powerOfTen e.toNat).isInf = false := not_isInf_of_isFinite hfinite
    simp only [if_neg hneg, if_pos hle, hinf]
    rfl
  · -- only zero is not too large with such an exponent
    obtain rfl : f = 0 := by
      refine UInt64.toNat_inj.1 (Nat.eq_zero_of_not_pos fun hpos => ?_)
      have hlarge : 10 ^ 154 * 10 ^ 155 ≤ f.toNat * 10 ^ e.toNat := by
        obtain ⟨k, hk⟩ : ∃ k, e.toNat = 154 + (155 + k) := ⟨e.toNat - 309, by omega⟩
        rw [hk, Nat.pow_add 10 154, Nat.pow_add 10 155, ← Nat.mul_assoc (10 ^ 154)]
        calc 10 ^ 154 * 10 ^ 155
          _ ≤ 10 ^ 154 * 10 ^ 155 * 10 ^ k := Nat.le_mul_of_pos_right _ (Nat.pow_pos (by decide))
          _ ≤ f.toNat * (10 ^ 154 * 10 ^ 155 * 10 ^ k) := Nat.le_mul_of_pos_left _ hpos
      exact absurd (Nat.le_trans hlarge hsafe) (by decide +kernel)
    simp only [if_neg hneg, if_neg hle]
    rfl

theorem isFinite_of_scaled {f : UInt64} {e : Int} {x : Float} (h : scaled f e = some x) :
    x.isFinite = true := by
  have hf : Fits 64 f.toFloat.toModel.unpack := (fits_toFloat f).mono (by decide)
  unfold scaled at h
  by_cases hneg : e < 0
  · simp only [if_pos hneg, Option.some.injEq] at h
    rw [← h]
    exact (fits_scaleDown _ _ hf).isFinite
  simp only [if_neg hneg] at h
  by_cases hle : e ≤ 308
  · obtain ⟨m, e', hm, hunpack, hbits, -⟩ := powerOfTen_finite (n := e.toNat) (by omega)
    have hpower : Fits e' (powerOfTen e.toNat).toModel.unpack := by
      rw [hunpack]
      exact ⟨((Nat.log2_eq_iff (by omega)).1 hbits).2, Int.le_refl _⟩
    simp only [if_pos hle] at h
    split at h
    · cases h
    · rename_i hinf
      cases h
      exact (isFinite_or_isInf_mul hf hpower).resolve_right hinf
  · simp only [if_neg hle] at h
    split at h
    · cases h
      exact hf.isFinite
    · cases h

/-! ## Digits -/

theorem mul_pow_le_ofDigitChars (cs : List Char) (n : Nat) :
    n * 10 ^ cs.length ≤ Nat.ofDigitChars 10 cs n := by
  rw [Nat.ofDigitChars_eq_ofDigitChars_zero, Nat.mul_comm]
  exact Nat.le_add_right _ _

theorem le_ofDigitChars (cs : List Char) (n : Nat) : n ≤ Nat.ofDigitChars 10 cs n :=
  Nat.le_trans (Nat.le_mul_of_pos_right n (Nat.pow_pos (by decide))) (mul_pow_le_ofDigitChars cs n)

theorem appendDigits_le_natural64 (ds : List Nat) {n : Nat} (hn : n ≤ Bounds.natural64) (taken : Nat) :
    (appendDigits n ds taken).1 ≤ Bounds.natural64 := by
  induction ds generalizing n taken with
  | nil => exact hn
  | cons d ds ih =>
    unfold appendDigits
    split
    · rename_i hle
      exact ih hle _
    · exact hn

/-- All digits of a number are taken if it fits into 64 bits. -/
theorem appendDigits_of_le {cs : List Char} {n : Nat}
    (h : Nat.ofDigitChars 10 cs n ≤ Bounds.natural64) (taken : Nat) :
    appendDigits n (cs.map digitValue) taken = (Nat.ofDigitChars 10 cs n, taken + cs.length, 0) := by
  induction cs generalizing n taken with
  | nil => rw [Nat.ofDigitChars_nil]; rfl
  | cons c cs ih =>
    have hswap : 10 * n + (c.toNat - '0'.toNat) = n * 10 + digitValue c := by
      rw [Nat.mul_comm]
      rfl
    rw [Nat.ofDigitChars_cons, hswap] at h ⊢
    have hle := Nat.le_trans (le_ofDigitChars cs _) h
    rw [List.map_cons, appendDigits, if_pos hle, ih h, List.length_cons]
    simp only [Prod.mk.injEq, true_and, and_true]
    omega

/-- The digits that are taken are the first ones, and each digit is taken or left. -/
theorem appendDigits_le (cs : List Char) {n : Nat} (hn : n ≤ Bounds.natural64) (taken : Nat) :
    ∃ f t left, appendDigits n (cs.map digitValue) taken = (f, t, left) ∧ f ≤ Bounds.natural64 ∧
      f * 10 ^ left ≤ Nat.ofDigitChars 10 cs n ∧ t + left = taken + cs.length := by
  induction cs generalizing n taken with
  | nil => exact ⟨n, taken, 0, rfl, hn, mul_pow_le_ofDigitChars [] n, rfl⟩
  | cons c cs ih =>
    by_cases hle : n * 10 + digitValue c ≤ Bounds.natural64
    · obtain ⟨f, t, left, heq, hf, hbelow, hsum⟩ := ih hle (taken + 1)
      refine ⟨f, t, left, ?_, hf, ?_, ?_⟩
      · rw [List.map_cons, appendDigits, if_pos hle, heq]
      · rw [Nat.ofDigitChars_cons, Nat.mul_comm 10]
        exact hbelow
      · rw [hsum, List.length_cons]
        omega
    · refine ⟨n, taken, cs.length + 1, ?_, hn, mul_pow_le_ofDigitChars (c :: cs) n, rfl⟩
      rw [List.map_cons, appendDigits, if_neg hle, List.length_map]

theorem ofDigitChars_lt {cs : List Char} (hcs : ∀ c ∈ cs, c.isDigit = true) (n : Nat) :
    Nat.ofDigitChars 10 cs n < (n + 1) * 10 ^ cs.length := by
  induction cs generalizing n with
  | nil => rw [Nat.ofDigitChars_nil, List.length_nil, Nat.pow_zero, Nat.mul_one]; exact Nat.lt_succ_self n
  | cons c cs ih =>
    have hdigit := digit_bounds (hcs c (by simp))
    have hzero : '0'.toNat = 48 := rfl
    rw [Nat.ofDigitChars_cons, List.length_cons]
    calc Nat.ofDigitChars 10 cs (10 * n + (c.toNat - '0'.toNat))
        < (10 * n + (c.toNat - '0'.toNat) + 1) * 10 ^ cs.length := ih (fun d hd => hcs d (by simp [hd])) _
      _ ≤ (n + 1) * 10 * 10 ^ cs.length := Nat.mul_le_mul_right _ (by omega)
      _ = (n + 1) * 10 ^ (cs.length + 1) := by rw [Nat.mul_assoc, Nat.pow_succ, Nat.mul_comm 10]

theorem ofDigitsUpTo_le (limit : Nat) (cs : List Char) :
    ofDigitsUpTo 10 limit (cs.map digitValue) ≤ Nat.ofDigitChars 10 cs 0 := by
  unfold ofDigitsUpTo
  suffices h : ∀ n n', n ≤ n' → (cs.map digitValue).foldl (fun n d => if n ≤ limit then n * 10 + d else n) n ≤
      Nat.ofDigitChars 10 cs n' from h 0 0 (Nat.le_refl 0)
  induction cs with
  | nil => exact fun n n' h => h
  | cons c cs ih =>
    intro n n' h
    rw [List.map_cons, List.foldl_cons, Nat.ofDigitChars_cons]
    refine ih _ _ ?_
    have hdigit : digitValue c = c.toNat - '0'.toNat := rfl
    split <;> omega

/-- No more than the leading digits of a number without an exponent are needed. -/
theorem quick_of_nonpos {whole fraction : List Char} {e : Int}
    (hwhole : Nat.ofDigitChars 10 whole 0 ≤ Bounds.natural64) (he : e ≤ 0) :
    (Spelling.quick? ⟨whole.map digitValue, fraction.map digitValue, e⟩).isSome = true := by
  obtain ⟨f, t, left, htaken, -⟩ := appendDigits_le fraction hwhole 0
  unfold Spelling.quick?
  simp only [appendDigits_of_le hwhole, htaken]
  exact scaled_of_le (.inl (by omega))

end DetectorControl.Decimal
