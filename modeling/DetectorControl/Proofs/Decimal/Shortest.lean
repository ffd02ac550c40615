import DetectorControl.Decimal.Layout
import DetectorControl.Proofs.Decimal.Scaling

/-!
# How large a shortest decimal is

The shortest decimal lies in the interval of what rounds to its float. So the quick way comes to a
number from its digits (`scaled_of_shortest`), also if it leaves the last of them out: for most floats
the interval ends far enough below the greatest float, and the others are only eight.
-/

namespace DetectorControl.Decimal

theorem contains_of_nearest {i : Interval} {tie : Tie} {d : Nat} (h : i.nearest? tie = some d) :
    i.contains d = true := by
  unfold Interval.nearest? at h
  dsimp only at h
  split at h
  · rename_i hlower hupper
    have heither (upper : Bool) :
        i.contains (if upper then i.value / i.den + 1 else i.value / i.den) = true := by
      cases upper
      · exact hlower
      · exact hupper
    cases h
    exact heither _
  · rename_i hlower _
    cases h
    exact hlower
  · rename_i hupper
    cases h
    exact hupper
  · cases h

theorem contains_of_coarsest {i : Interval} {tie : Tie} {tries : Nat} {k : Int} {d : Digits}
    (h : i.coarsest? tie tries k = some d) :
    0 < d.digits ∧ (i.scale d.exponent).contains d.digits = true := by
  induction tries generalizing k with
  | zero => cases h
  | succ tries ih =>
    unfold Interval.coarsest? at h
    split at h
    · rename_i n hn
      cases h
      exact ⟨Nat.succ_pos _, contains_of_nearest hn⟩
    · exact ih h

theorem le_high_of_contains {i : Interval} {d : Nat} (h : i.contains d = true) : d * i.den ≤ i.high := by
  unfold Interval.contains at h
  split at h
  · exact of_decide_eq_true (Bool.and_eq_true_iff.1 h).2
  · exact Nat.le_of_lt (of_decide_eq_true (Bool.and_eq_true_iff.1 h).2)

section
variable {b : Binary} {tie : Tie} {d : Digits}

theorem contains_of_shortest (h : shortest? b tie = some d) :
    0 < d.digits ∧ ((Interval.ofBinary b).scale d.exponent).contains d.digits = true := by
  unfold shortest? at h
  split at h
  · cases h
  · exact contains_of_coarsest h

/-- A shortest decimal is below the upper bound of its float. -/
theorem digits_le_of_shortest (h : shortest? b tie = some d) {n : Nat}
    (hn : (4 * b.m + 2) * 2 ^ (b.q - 2).toNat ≤ n) :
    d.digits * 10 ^ d.exponent.toNat ≤ n * 10 ^ (-d.exponent).toNat := by
  have hle := le_high_of_contains (contains_of_shortest h).2
  calc d.digits * 10 ^ d.exponent.toNat
      ≤ d.digits * (2 ^ (2 - b.q).toNat * 10 ^ d.exponent.toNat) :=
        Nat.mul_le_mul_left _ (Nat.le_mul_of_pos_left _ (Nat.two_pow_pos _))
    _ ≤ (4 * b.m + 2) * 2 ^ (b.q - 2).toNat * 10 ^ (-d.exponent).toNat := hle
    _ ≤ n * 10 ^ (-d.exponent).toNat := Nat.mul_le_mul_right _ hn

/-- All of the greatest eight floats are read where they are written. -/
theorem scaled_of_top (negative : Bool) : ∀ j < 8,
    (shortest? ⟨negative, 2 ^ 53 - 1 - j, 971⟩ Layout.json.tie).all (fun d =>
      decide (d.digits ≤ Bounds.natural64) && (scaled d.digits.toUInt64 d.exponent).isSome) = true := by
  cases negative <;> decide +kernel

/-- From the digits of a shortest decimal, or all but some at the end, the quick way comes to a number. -/
theorem scaled_of_shortest (h : shortest? b Layout.json.tie = some d) (hm : b.m < 2 ^ 53) (hq : b.q ≤ 971)
    {f left : Nat} {e : Int} (hf : f ≤ Bounds.natural64) (hle : f * 10 ^ left ≤ d.digits)
    (hall : d.digits ≤ Bounds.natural64 → left = 0 ∧ f = d.digits) (he : e ≤ d.exponent + left) :
    (scaled f.toUInt64 e).isSome = true := by
  have hnat : f.toUInt64.toNat = f := by
    have hlt : f < 2 ^ 64 := Nat.lt_of_le_of_lt hf (by decide)
    show f % 2 ^ 64 = f
    exact Nat.mod_eq_of_lt hlt
  by_cases hneg : e ≤ 0
  · exact scaled_of_le (.inl hneg)
  -- the digits that are taken, with their exponent, are no more than the decimal
  have hbelow {n : Nat} (hn : (4 * b.m + 2) * 2 ^ (b.q - 2).toNat ≤ n) {j : Nat} (hj : e + j ≤ d.exponent + left) :
      f * 10 ^ (e.toNat + j) ≤ n := by
    refine Nat.le_of_mul_le_mul_right ?_ (Nat.pow_pos (n := (-d.exponent).toNat) (show 0 < 10 by decide))
    calc f * 10 ^ (e.toNat + j) * 10 ^ (-d.exponent).toNat
        = f * 10 ^ (e.toNat + j + (-d.exponent).toNat) := by rw [Nat.mul_assoc, ← Nat.pow_add]
      _ ≤ f * 10 ^ (left + d.exponent.toNat) :=
          Nat.mul_le_mul_left _ (Nat.pow_le_pow_right (by decide) (by omega))
      _ = f * 10 ^ left * 10 ^ d.exponent.toNat := by rw [Nat.pow_add, Nat.mul_assoc]
      _ ≤ d.digits * 10 ^ d.exponent.toNat := Nat.mul_le_mul_right _ hle
      _ ≤ n * 10 ^ (-d.exponent).toNat := digits_le_of_shortest h hn
  by_cases htop : b.q = 971 ∧ 2 ^ 53 - 8 ≤ b.m
  · obtain ⟨hq, hm'⟩ := htop
    have hdigits := scaled_of_top b.negative (2 ^ 53 - 1 - b.m) (by omega)
    have hb : (⟨b.negative, 2 ^ 53 - 1 - (2 ^ 53 - 1 - b.m), 971⟩ : Binary) = b := by
      obtain ⟨negative, m, q⟩ := b
      cases hq
      congr
      show 2 ^ 53 - 1 - (2 ^ 53 - 1 - m) = m
      dsimp only at hm
      omega
    rw [hb, h, Option.all_some, Bool.and_eq_true, decide_eq_true_eq] at hdigits
    obtain ⟨rfl, rfl⟩ := hall hdigits.1
    by_cases heq : e = d.exponent
    · rw [heq]
      exact hdigits.2
    · -- one digit less is small enough
      refine scaled_of_le (.inr ?_)
      have htenth := hbelow (n := 10 * safe) ?_ (j := 1) (by omega)
      · rw [Nat.pow_succ, ← Nat.mul_assoc, Nat.mul_comm] at htenth
        rw [hnat]
        exact Nat.le_of_mul_le_mul_left htenth (by decide)
      · have hlt : 4 * b.m + 2 ≤ 2 ^ 55 := by omega
        rw [hq]
        exact Nat.le_trans (Nat.mul_le_mul_right _ hlt) (by decide +kernel)
  · refine scaled_of_le (.inr ?_)
    rw [hnat]
    refine hbelow (j := 0) ?_ (by omega)
    by_cases hq' : b.q = 971
    · have hlt : 4 * b.m + 2 ≤ 2 ^ 55 - 34 := by omega
      rw [hq']
      exact Nat.le_trans (Nat.mul_le_mul_right _ hlt) (by decide +kernel)
    · have hlt : 4 * b.m + 2 ≤ 2 ^ 55 := by omega
      have hsafe : ∀ x ≤ 968, 2 ^ 55 * 2 ^ x ≤ safe := by decide +kernel
      exact Nat.le_trans (Nat.mul_le_mul_right _ hlt) (hsafe _ (by omega))

/-- The digits of a shortest decimal behind its point, with an exponent that is no greater. -/
theorem quick_of_shortest (h : shortest? b Layout.json.tie = some d) (hm : b.m < 2 ^ 53) (hq : b.q ≤ 971)
    {whole fraction : List Char} (hdigits : whole ++ fraction = Nat.toDigits 10 d.digits)
    (hwhole : Nat.ofDigitChars 10 whole 0 ≤ Bounds.natural64) {e : Int}
    (he : e ≤ 0 ∨ e ≤ d.exponent + fraction.length) :
    (Spelling.quick? ⟨whole.map digitValue, fraction.map digitValue, e⟩).isSome = true := by
  rcases he with he | he
  · exact quick_of_nonpos hwhole he
  have hvalue : Nat.ofDigitChars 10 fraction (Nat.ofDigitChars 10 whole 0) = d.digits := by
    rw [← Nat.ofDigitChars_append, hdigits]
    exact Nat.ofDigitChars_ten_toDigits
  obtain ⟨f, t, left, htaken, hf, hbelow, hsum⟩ := appendDigits_le fraction hwhole 0
  have hall : d.digits ≤ Bounds.natural64 → left = 0 ∧ f = d.digits := by
    intro hle
    have hfits := appendDigits_of_le (hvalue.symm ▸ hle) 0
    rw [htaken, hvalue] at hfits
    cases hfits
    exact ⟨rfl, rfl⟩
  rw [hvalue] at hbelow
  unfold Spelling.quick?
  simp only [appendDigits_of_le hwhole, htaken]
  exact scaled_of_shortest h hm hq hf hbelow hall (by omega)

end

end DetectorControl.Decimal
