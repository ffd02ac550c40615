import DetectorControl.Decimal.Layout

/-!
# Digits

The decimal digits that a number is written with. Only the number zero begins with the digit `0`.
-/

namespace DetectorControl.Decimal

def digitValue (c : Char) : Nat := c.toNat - '0'.toNat

theorem digit_bounds {c : Char} (h : c.isDigit = true) : 48 ≤ c.toNat ∧ c.toNat ≤ 57 := by
  simp only [Char.isDigit, Bool.and_eq_true, decide_eq_true_eq] at h
  exact ⟨h.1, h.2⟩

/-- The digits of a whole number: more than one do not begin with a zero. -/
inductive IsWhole : List Char → Prop
  | zero : IsWhole ['0']
  | digits {c : Char} {cs : List Char} (hc : c.isDigit = true) (hne : c ≠ '0')
    (hcs : ∀ d ∈ cs, d.isDigit = true) : IsWhole (c :: cs)

namespace IsWhole

theorem isDigit {cs : List Char} (h : IsWhole cs) : ∀ c ∈ cs, c.isDigit = true := by
  cases h with
  | zero => simp
  | digits hc _ hcs =>
    intro d hd
    rcases List.mem_cons.1 hd with rfl | hd
    · exact hc
    · exact hcs d hd

theorem ne_nil {cs : List Char} (h : IsWhole cs) : cs ≠ [] := by
  cases h <;> simp

theorem append {cs ds : List Char} (h : IsWhole cs) (hne : cs ≠ ['0']) (hds : ∀ d ∈ ds, d.isDigit = true) :
    IsWhole (cs ++ ds) := by
  cases h with
  | zero => exact absurd rfl hne
  | digits hc hc0 hcs =>
    refine .digits hc hc0 fun d hd => ?_
    rcases List.mem_append.1 hd with hd | hd
    · exact hcs d hd
    · exact hds d hd

/-- The leading digits of a positive number. -/
theorem take {cs : List Char} (h : IsWhole cs) (hne : cs ≠ ['0']) {n : Nat} (hn : 0 < n) :
    IsWhole (cs.take n) := by
  cases h with
  | zero => exact absurd rfl hne
  | digits hc hc0 hcs =>
    obtain ⟨n, rfl⟩ : ∃ m, n = m + 1 := ⟨n - 1, by omega⟩
    exact .digits hc hc0 fun d hd => hcs d (List.mem_of_mem_take hd)

end IsWhole

theorem toDigits_ne_zero {n : Nat} (h : 0 < n) : Nat.toDigits 10 n ≠ ['0'] := by
  intro hz
  have hvalue : Nat.ofDigitChars 10 (Nat.toDigits 10 n) 0 = n := Nat.ofDigitChars_ten_toDigits
  rw [hz] at hvalue
  have hzero : Nat.ofDigitChars 10 ['0'] 0 = 0 := rfl
  omega

theorem isDigit_toDigits {n : Nat} : ∀ c ∈ Nat.toDigits 10 n, c.isDigit = true :=
  fun _ hc => Nat.isDigit_of_mem_toDigits (by decide) (by decide) hc

theorem isWhole_toDigits (n : Nat) : IsWhole (Nat.toDigits 10 n) := by
  induction n using Nat.base_induction 10 (by decide) with
  | single d hd =>
    rw [Nat.toDigits_of_lt_base hd]
    by_cases hzero : d = 0
    · subst hzero
      exact .zero
    · refine .digits ?_ ?_ (by simp)
      · exact isDigit_toDigits _ (by rw [Nat.toDigits_of_lt_base hd]; simp)
      · intro hchar
        have := toDigits_ne_zero (Nat.pos_of_ne_zero hzero)
        rw [Nat.toDigits_of_lt_base hd, hchar] at this
        exact this rfl
  | digit d n hd hn ih =>
    rw [← Nat.toDigits_append_toDigits (by decide) hn hd]
    exact ih.append (toDigits_ne_zero hn) isDigit_toDigits

theorem toList_toString (n : Nat) : (toString n).toList = Nat.toDigits 10 n :=
  Nat.toList_repr

theorem toString_inj {m n : Nat} : toString m = toString n ↔ m = n := by
  refine ⟨fun h => ?_, fun h => congrArg toString h⟩
  have hdigits : Nat.toDigits 10 m = Nat.toDigits 10 n := by
    rw [← toList_toString, h, toList_toString]
  rw [← Nat.ofDigitChars_toDigits (n := m) (by decide) (Nat.le_refl 10), hdigits,
    Nat.ofDigitChars_toDigits (by decide) (Nat.le_refl 10)]

end DetectorControl.Decimal
