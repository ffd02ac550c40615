import DetectorControl.Json.Value
import DetectorControl.Proofs.Decimal.Magnitude

/-!
# Integers as floats

An integer of at most 53 significant bits (`Spans 53`) is a float. Any other one becomes the nearest one that
is, and of two equally near ones the one whose significand is even (`Rounded`): that is what the integer part
of the float is then (`truncate_toFloat`).
-/

namespace DetectorControl.Decimal

open Float.Model Float.Model.UnpackedFloat

/-! ## The nearest integer that is a float -/

/-- An integer of at most `bits` significant bits. -/
def Spans (bits : Nat) (n : Int) : Prop :=
  ∃ s k : Nat, s < 2 ^ bits ∧ n.natAbs = s * 2 ^ k

/-- `m` is nearer to `n` than `m'`, or as near, and of the two only `m'` has a 53rd bit: its significand is
odd, and that of `m` even. -/
def Nearer (n m m' : Int) : Prop :=
  (n - m).natAbs < (n - m').natAbs ∨ (n - m).natAbs = (n - m').natAbs ∧ Spans 52 m ∧ ¬ Spans 52 m'

/-- Of the integers with at most 53 significant bits, `m` is the one nearest to `n`. -/
structure Rounded (n m : Int) : Prop where
  spans : Spans 53 m
  nearer : ∀ m', Spans 53 m' → m' ≠ m → Nearer n m m'

section
variable {n m m' : Int} {bits : Nat}

theorem Spans.neg (h : Spans bits n) : Spans bits (-n) := by
  obtain ⟨s, k, hs, hn⟩ := h
  exact ⟨s, k, hs, (Int.natAbs_neg n).trans hn⟩

theorem spans_neg_iff : Spans bits (-n) ↔ Spans bits n :=
  ⟨fun h => Int.neg_neg n ▸ h.neg, Spans.neg⟩

/-- A significand of `2 ^ bits` can be halved. -/
theorem spans_of_le {s k : Nat} (hbits : 0 < bits) (hs : s ≤ 2 ^ bits) (h : n.natAbs = s * 2 ^ k) : Spans bits n := by
  rcases Nat.lt_or_eq_of_le hs with hlt | rfl
  · exact ⟨s, k, hlt, h⟩
  · exact ⟨1, bits + k, Nat.one_lt_two_pow (Nat.ne_of_gt hbits), by rw [h, ← Nat.pow_add, Nat.one_mul]⟩

theorem spans_of_natAbs_le (hbits : 0 < bits) (h : n.natAbs ≤ 2 ^ bits) : Spans bits n :=
  spans_of_le (k := 0) hbits h (Nat.mul_one _).symm

theorem Rounded.neg (h : Rounded n m) : Rounded (-n) (-m) := by
  refine ⟨h.spans.neg, fun m' hspans hne => ?_⟩
  have hdistance (k : Int) : (-n - -k).natAbs = (n - k).natAbs := by omega
  have hnearer := h.nearer (-m') hspans.neg (by omega)
  have hback := hdistance (-m')
  rw [Int.neg_neg] at hback
  unfold Nearer at hnearer ⊢
  rwa [hdistance, hback, spans_neg_iff, ← spans_neg_iff (n := m')]

theorem Rounded.unique (h : Rounded n m) (h' : Rounded n m') : m = m' := by
  refine Decidable.byContradiction fun hne => ?_
  -- each would have to be nearer than the other one
  have hnearer := h.nearer m' h'.spans fun heq => hne heq.symm
  have hnearer' := h'.nearer m h.spans hne
  rcases hnearer with hlt | ⟨heq, heven, hodd⟩
  · rcases hnearer' with hlt' | ⟨heq', -, -⟩ <;> omega
  · rcases hnearer' with hlt' | ⟨-, heven', -⟩
    · omega
    · exact hodd heven'

theorem rounded_self (h : Spans 53 n) : Rounded n n :=
  ⟨h, fun m' _ hne => .inl (by omega)⟩

end

/-! ## Rounding at the last place -/

section
variable {num den n n' q c : Nat}

/-- The bounds on a nearest integer, in units of `den`. -/
theorem nearest_iff : Nearest num den n ↔ 2 * num ≤ 2 * (n * den) + den ∧ 2 * (n * den) ≤ 2 * num + den ∧
    (2 * num = 2 * (n * den) + den ∨ 2 * (n * den) = 2 * num + den → n % 2 = 0) := by
  have hdown : 2 * n * den = 2 * (n * den) := Nat.mul_assoc ..
  have hup : (2 * n + 1) * den = 2 * (n * den) + den := by rw [Nat.add_mul, Nat.one_mul, hdown]
  constructor
  · rintro ⟨hlow, hhigh, heven⟩
    rw [hup] at hlow heven
    rw [hdown] at hhigh heven
    exact ⟨hlow, hhigh, heven⟩
  · rintro ⟨hlow, hhigh, heven⟩
    rw [← hup] at hlow heven
    rw [← hdown] at hhigh heven
    exact ⟨hlow, hhigh, heven⟩

/-- Of two multiples of `den` the nearer one, and of two equally near ones the even one. -/
theorem Nearest.nearer (h : Nearest num den n) (hden : 0 < den) (hne : n' ≠ n) :
    ((num : Int) - (n * den : Nat)).natAbs < ((num : Int) - (n' * den : Nat)).natAbs ∨
      ((num : Int) - (n * den : Nat)).natAbs = ((num : Int) - (n' * den : Nat)).natAbs ∧
        n % 2 = 0 ∧ n' % 2 = 1 := by
  obtain ⟨hlow, hhigh, heven⟩ := nearest_iff.1 h
  -- multiples that are not neighbours are more than one half of `den` away
  have hfar (d : Nat) : d = 0 ∨ den ≤ d * den := (Nat.eq_zero_or_pos d).imp_right (Nat.le_mul_of_pos_left den)
  rcases Nat.lt_or_gt_of_ne hne with hlt | hgt
  · obtain ⟨d, rfl⟩ : ∃ d, n = n' + 1 + d := ⟨n - n' - 1, by omega⟩
    have hsplit : (n' + 1 + d) * den = n' * den + den + d * den := by rw [Nat.add_mul, Nat.add_mul, Nat.one_mul]
    rw [hsplit] at hlow hhigh heven ⊢
    rcases hfar d with rfl | hd
    · rw [Nat.zero_mul] at hlow hhigh heven ⊢
      omega
    · omega
  · obtain ⟨d, rfl⟩ : ∃ d, n' = n + 1 + d := ⟨n' - n - 1, by omega⟩
    have hsplit : (n + 1 + d) * den = n * den + den + d * den := by rw [Nat.add_mul, Nat.add_mul, Nat.one_mul]
    rw [hsplit]
    rcases hfar d with rfl | hd
    · rw [Nat.zero_mul]
      omega
    · omega

theorem not_spans_of_odd (hlow : 2 ^ 52 ≤ q) (hodd : q % 2 = 1) : ¬ Spans 52 (q * 2 ^ c : Nat) := by
  rintro ⟨s, k, hs, heq⟩
  rw [Int.natAbs_natCast] at heq
  rcases Nat.lt_or_ge c k with hlt | hge
  · -- then `q` would be even
    obtain ⟨d, rfl⟩ : ∃ d, k = c + (d + 1) := ⟨k - c - 1, by omega⟩
    rw [Nat.pow_add, Nat.mul_left_comm, Nat.mul_comm] at heq
    have hq : q = s * 2 ^ (d + 1) := Nat.eq_of_mul_eq_mul_left (Nat.two_pow_pos c) heq
    rw [Nat.pow_succ, ← Nat.mul_assoc] at hq
    omega
  · obtain ⟨d, rfl⟩ : ∃ d, c = k + d := ⟨c - k, by omega⟩
    rw [Nat.add_comm k, Nat.pow_add, ← Nat.mul_assoc] at heq
    have hq : q * 2 ^ d = s := Nat.eq_of_mul_eq_mul_right (Nat.two_pow_pos k) heq
    have := Nat.le_mul_of_pos_right q (Nat.two_pow_pos d)
    omega

/-- What has 53 bits and is not below `2 ^ 52` units of the last place is whole units. -/
theorem Spans.exists_units {m : Int} (h : Spans 53 m) (hlow : ((2 ^ 52 * 2 ^ c : Nat) : Int) ≤ m) :
    ∃ q : Nat, 2 ^ 52 ≤ q ∧ m = (q * 2 ^ c : Nat) := by
  obtain ⟨s, k, hs, heq⟩ := h
  have hm : m = (s * 2 ^ k : Nat) := by rw [← heq]; omega
  have hlow' : 2 ^ 52 * 2 ^ c ≤ s * 2 ^ k := by rw [hm] at hlow; exact Int.ofNat_le.1 hlow
  rcases Nat.lt_or_ge k c with hlt | hge
  · obtain ⟨d, rfl⟩ : ∃ d, c = k + (d + 1) := ⟨c - k - 1, by omega⟩
    rw [Nat.add_comm k, Nat.pow_add, ← Nat.mul_assoc] at hlow'
    have hle := Nat.le_of_mul_le_mul_right hlow' (Nat.two_pow_pos k)
    have : 1 ≤ 2 ^ d := Nat.two_pow_pos d
    rw [Nat.pow_succ] at hle
    omega
  · obtain ⟨d, rfl⟩ : ∃ d, k = c + d := ⟨k - c, by omega⟩
    rw [Nat.add_comm c, Nat.pow_add, ← Nat.mul_assoc] at hlow' hm
    exact ⟨s * 2 ^ d, Nat.le_of_mul_le_mul_right hlow' (Nat.two_pow_pos c), hm⟩

theorem rounded_of_nearest (hn : n ≠ 0) (hbits : n.log2 = 52 + c) (h : Nearest n (2 ^ c) q) :
    Rounded n (q * 2 ^ c : Nat) := by
  have hpos : 0 < 2 ^ c := Nat.two_pow_pos c
  have hleast : 2 ^ 52 * 2 ^ c ≤ n := by
    rw [← Nat.pow_add, ← hbits]
    exact Nat.log2_self_le hn
  have hgreatest : n < 2 ^ 53 * 2 ^ c := by
    rw [← Nat.pow_add, Nat.add_right_comm 52 1, ← hbits]
    exact Nat.lt_log2_self
  have hq : 2 ^ 52 ≤ q := by
    have hle : 2 * 2 ^ 52 * 2 ^ c ≤ (2 * q + 1) * 2 ^ c :=
      Nat.le_trans (Nat.le_of_eq (Nat.mul_assoc ..)) (Nat.le_trans (Nat.mul_le_mul_left 2 hleast) h.low)
    have := Nat.le_of_mul_le_mul_right hle hpos
    omega
  have hq' : q ≤ 2 ^ 53 := h.le_of_le hpos (Nat.le_of_lt hgreatest)
  refine ⟨spans_of_le (by decide) hq' (Int.natAbs_natCast _), fun m' hm' hne => ?_⟩
  by_cases hlow : ((2 ^ 52 * 2 ^ c : Nat) : Int) ≤ m'
  · obtain ⟨q', hq', rfl⟩ := hm'.exists_units hlow
    rcases h.nearer hpos (fun heq => hne (heq ▸ rfl)) with hlt | ⟨heq, heven, hodd⟩
    · exact .inl hlt
    · -- the even significand does without its last bit
      have hhalf : q * 2 ^ c = q / 2 * 2 ^ (c + 1) := by
        rw [Nat.pow_succ', ← Nat.mul_assoc, Nat.div_mul_cancel (Nat.dvd_of_mod_eq_zero heven)]
      have hspans : Spans 52 (q * 2 ^ c : Nat) :=
        spans_of_le (by decide) (by omega : q / 2 ≤ 2 ^ 52) ((Int.natAbs_natCast _).trans hhalf)
      exact .inr ⟨heq, hspans, not_spans_of_odd hq' hodd⟩
  · -- what lies further down is further away than `2 ^ 52` units
    have hle : ((n : Int) - (q * 2 ^ c : Nat)).natAbs ≤ ((n : Int) - (2 ^ 52 * 2 ^ c : Nat)).natAbs := by
      by_cases heq : 2 ^ 52 = q
      · exact Nat.le_of_eq (heq ▸ rfl)
      · rcases h.nearer hpos heq with hlt | ⟨heq, -, -⟩ <;> omega
    exact .inl (by omega)

end

/-! ## Rounding of what is exact -/

/-- A significand and the two bits behind it, of which the second one tells whether anything follows, stand
for `num / den`. -/
def Holds (num den : Nat) : ExtendedMantissa → Prop
  | ⟨m, false, false⟩ => num = m * den
  | ⟨m, false, true⟩ => m * den < num ∧ 2 * num < 2 * (m * den) + den
  | ⟨m, true, false⟩ => 2 * num = 2 * (m * den) + den
  | ⟨m, true, true⟩ => 2 * (m * den) + den < 2 * num ∧ num < m * den + den

section
variable {num den : Nat} {em : ExtendedMantissa}

theorem Holds.shiftRightOne (h : Holds num den em) (hden : 0 < den) : Holds num (den * 2) em.shiftRightOne := by
  obtain ⟨m, r, s⟩ := em
  obtain ⟨d, hd⟩ : ∃ d, d = m / 2 := ⟨_, rfl⟩
  have hdouble : d * (den * 2) = 2 * (d * den) := by rw [← Nat.mul_assoc, Nat.mul_comm]
  rcases Nat.mod_two_eq_zero_or_one m with heven | hodd
  · have hshift : ExtendedMantissa.shiftRightOne ⟨m, r, s⟩ = ⟨d, false, r || s⟩ := by
      simp only [ExtendedMantissa.shiftRightOne, heven, ← hd]
      rfl
    have hm : m * den = 2 * (d * den) := by rw [← Nat.mul_assoc, show m = 2 * d by omega]
    rw [hshift]
    cases r <;> cases s <;> simp only [Holds, Bool.or_false, Bool.or_true, hm, hdouble] at h ⊢ <;> omega
  · have hshift : ExtendedMantissa.shiftRightOne ⟨m, r, s⟩ = ⟨d, true, r || s⟩ := by
      simp only [ExtendedMantissa.shiftRightOne, hodd, ← hd]
      rfl
    have hm : m * den = 2 * (d * den) + den := by
      rw [← Nat.mul_assoc, ← Nat.succ_mul, show m = 2 * d + 1 by omega]
    rw [hshift]
    cases r <;> cases s <;> simp only [Holds, Bool.or_false, Bool.or_true, hm, hdouble] at h ⊢ <;> omega

/-- The two bits are what it takes to round to the nearest. -/
theorem Holds.nearest (h : Holds num den em) (hden : 0 < den) : Nearest num den em.roundedMantissa := by
  obtain ⟨m, r, s⟩ := em
  have hnext : (m + 1) * den = m * den + den := Nat.succ_mul ..
  refine nearest_iff.2 ?_
  cases r <;> cases s <;>
    simp only [Holds, ExtendedMantissa.roundedMantissa, ExtendedMantissa.accuracy, Accuracy.roundToNearestEven] at h ⊢
  · omega
  · omega
  · -- one half goes to the even neighbour
    rcases Nat.mod_two_eq_zero_or_one m with heven | hodd
    · rw [heven, Nat.add_zero]
      omega
    · rw [hodd, hnext]
      omega
  · rw [hnext]
    omega

end

theorem nearest_kept (m : Nat) (e : Int) : Nearest m (2 ^ cut m e) (kept m e .exact) := by
  have hshift (k : Nat) : Holds m (2 ^ k) (ExtendedMantissa.ofMantissaAndAccuracy m .exact >>> k) := by
    -- shifting by one place loses nothing of what the bits tell
    induction k with
    | zero => exact (Nat.mul_one m).symm
    | succ k ih => exact ih.shiftRightOne (Nat.two_pow_pos k)
  exact (hshift (cut m e)).nearest (Nat.two_pow_pos _)

/-! ## Integers of 64 bits -/

def signBit (x : Float) : BitVec 1 := @unpackSign Format.binary64 x.toModel.toBits.toBitVec

theorem toNat_signBit (x : Float) : (signBit x).toNat = x.toBits.toNat / (leastNormal * 2048) % 2 := by
  show (x.toModel.toBits.toBitVec.extractLsb 63 63).toNat = _
  rw [BitVec.extractLsb_toNat, Nat.shiftRight_eq_div_pow]
  rfl

section
variable {x : Float} {s : Sign} {m : Nat} {e : Int} {hm : 0 < m} {b : Binary}

theorem sign_of_unpack (h : x.toModel.unpack = .finite s m e hm) : s = Sign.ofBitVec (signBit x) := by
  have h : UnpackedFloat.unpack Format.binary64 x.toModel.toBits.toBitVec = .finite s m e hm := h
  unfold UnpackedFloat.unpack at h
  change (if exponentBits x = -1#_ then _ else if exponentBits x = 0#_ then _ else _) = _ at h
  by_cases hones : exponentBits x = -1#_
  · rw [if_pos hones] at h
    change (if mantissaBits x = 0#_ then _ else _) = _ at h
    by_cases hnone : mantissaBits x = 0#_
    · rw [if_pos hnone] at h
      cases h
    · rw [if_neg hnone] at h
      cases h
  · rw [if_neg hones] at h
    by_cases hzero : exponentBits x = 0#_
    · rw [if_pos hzero] at h
      change (if hnone : mantissaBits x = 0#_ then _ else _) = _ at h
      by_cases hnone : mantissaBits x = 0#_
      · rw [dif_pos hnone] at h
        cases h
      · rw [dif_neg hnone] at h
        cases h
        rfl
    · rw [if_neg hzero] at h
      cases h
      rfl

theorem negative_of_ofFloat (h : Reading.ofFloat x = .finite b) : b.negative = ((signBit x).toNat == 1) := by
  unfold Reading.ofFloat Reading.ofBits at h
  dsimp only at h
  rw [← toNat_signBit] at h
  split at h
  · split at h <;> cases h
  · split at h <;> cases h <;> rfl

/-- The integer part of a float is that of its magnitude, under its sign. -/
theorem truncate_of_unpack (h : x.toModel.unpack = .finite s m e hm) :
    ∃ b, Reading.ofFloat x = .finite b ∧ b.truncate = s.apply (m * 2 ^ e.toNat / 2 ^ (-e).toNat : Nat) := by
  obtain ⟨negative, hb⟩ := ofFloat_of_unpack h
  have hnegative : negative = ((signBit x).toNat == 1) := negative_of_ofFloat hb
  refine ⟨_, hb, ?_⟩
  subst hnegative
  obtain rfl := sign_of_unpack h
  generalize signBit x = bit
  rcases BitVec.eq_zero_or_eq_one bit with rfl | rfl <;> rfl

end

/-- What is left of the significand of an integer, at the exponent that goes with it. -/
theorem rounded_of_kept {n k c q r m : Nat} {e : Int} (hn : 0 < n) (hk : k = 52 - n.log2)
    (hcut : 52 + c = n.log2 + k) (hnearest : Nearest (n * 2 ^ k) (2 ^ c) q) (hkept : m * 2 ^ r = q)
    (hcarry : q < 2 ^ 53 → r = 0) (he : e = -(k : Int) + c + r) :
    Rounded n (m * 2 ^ e.toNat / 2 ^ (-e).toNat : Nat) := by
  rcases Nat.lt_or_ge 52 n.log2 with hlarge | hsmall
  · -- places were cut off, and the exponent is theirs
    obtain rfl : k = 0 := by omega
    rw [Nat.pow_zero, Nat.mul_one] at hnearest
    have hexponent : e.toNat = r + c := by omega
    have hwhole : (-e).toNat = 0 := by omega
    rw [hexponent, hwhole, Nat.pow_zero, Nat.div_one, Nat.pow_add, ← Nat.mul_assoc, hkept]
    exact rounded_of_nearest (by omega) (by omega) hnearest
  · -- the significand was made longer at most, and nothing was rounded
    obtain rfl : c = 0 := by omega
    obtain rfl : q = n * 2 ^ k := by
      obtain ⟨hlow, hhigh, -⟩ := hnearest
      omega
    have hlt : n * 2 ^ k < 2 ^ 53 := by
      refine (Nat.log2_lt (Nat.ne_of_gt (Nat.mul_pos hn (Nat.two_pow_pos k)))).1 ?_
      rw [log2_mul_two_pow hn]
      omega
    obtain rfl : r = 0 := hcarry hlt
    have hexponent : e.toNat = 0 := by omega
    have hplaces : (-e).toNat = k := by omega
    rw [hexponent, hplaces, hkept, Nat.mul_div_cancel n (Nat.two_pow_pos k)]
    have hfits : n < 2 ^ 53 := (Nat.log2_lt (by omega)).1 (by omega)
    exact rounded_self ⟨n, 0, hfits, (Nat.mul_one n).symm⟩

theorem unpack_toFloat {n : UInt64} (hn : 0 < n.toNat) :
    ∃ m e hm, n.toFloat.toModel.unpack = .finite .positive m e hm ∧
      (-n.toFloat).toModel.unpack = .finite .negative m e hm ∧
      Rounded n.toNat (m * 2 ^ e.toNat / 2 ^ (-e).toNat : Nat) := by
  have hbits := log2_toNat_le hn
  obtain ⟨k, hk⟩ : ∃ k, k = 52 - n.toNat.log2 := ⟨_, rfl⟩
  have hpos : n.toNat * 2 ^ k ≠ 0 := Nat.ne_of_gt (Nat.mul_pos hn (Nat.two_pow_pos k))
  have hlong := log2_mul_two_pow hn k
  have hcut : 52 + cut (n.toNat * 2 ^ k) (-k) = n.toNat.log2 + k := by
    rw [cut_eq, hlong]
    omega
  obtain ⟨m, hm, hround, hlow, hhigh, hkept⟩ :=
    round_normal (s := .positive) (a := .exact) hpos (hlong.trans hcut.symm)
  obtain ⟨hcarry, hcarry'⟩ := carry_le (m := n.toNat * 2 ^ k) (e := -k) (a := .exact)
  have hrounded := rounded_of_kept hn hk hcut (nearest_kept _ _) hkept hcarry' rfl
  generalize he : -(k : Int) + cut (n.toNat * 2 ^ k) (-k) + carry (n.toNat * 2 ^ k) (-k) .exact = e at hround hrounded
  have hunpack (s : Sign) : (Float.Model.pack (.finite s m e hm)).unpack = .finite s m e hm :=
    unpack_pack hm hlow hhigh (by omega) (by omega)
  have hpositive : n.toFloat.toModel.unpack = .finite .positive m e hm := by
    rw [toModel_toFloat hn hk, hround, hunpack]
  have hneg : (-n.toFloat).toModel = Float.Model.pack n.toFloat.toModel.unpack.neg := rfl
  refine ⟨m, e, hm, hpositive, ?_, hrounded⟩
  rw [hneg, hpositive]
  exact hunpack .negative

theorem truncate_toFloat {i : Int} (h : i.natAbs < 2 ^ 64) :
    ∃ b, Reading.ofFloat (Number.int i).toFloat = .finite b ∧ Rounded i b.truncate := by
  rcases Nat.eq_zero_or_pos i.natAbs with hzero | hpos
  · obtain rfl : i = 0 := Int.natAbs_eq_zero.1 hzero
    have hnone : (Binary.mk false 0 (-1074)).truncate = 0 := by
      simp only [Binary.truncate, Binary.num, Nat.zero_mul, Nat.zero_div]
      rfl
    refine ⟨⟨false, 0, -1074⟩, by decide +kernel, ?_⟩
    rw [hnone]
    exact rounded_self ⟨0, 0, by decide, rfl⟩
  · have hnat : i.natAbs.toUInt64.toNat = i.natAbs := UInt64.toNat_ofNat_of_lt' h
    obtain ⟨m, e, hm, hpositive, hnegative, hrounded⟩ := unpack_toFloat (hnat.symm ▸ hpos)
    rw [hnat] at hrounded
    unfold Number.toFloat
    dsimp only
    by_cases hneg : i < 0
    · have habs : i = -(i.natAbs : Int) := by omega
      rw [if_pos hneg]
      obtain ⟨b, hb, htruncate⟩ := truncate_of_unpack hnegative
      refine ⟨b, hb, ?_⟩
      rw [htruncate, habs]
      exact hrounded.neg
    · have habs : i = (i.natAbs : Int) := by omega
      rw [if_neg hneg]
      obtain ⟨b, hb, htruncate⟩ := truncate_of_unpack hpositive
      refine ⟨b, hb, ?_⟩
      rw [htruncate, habs]
      exact hrounded

end DetectorControl.Decimal
