/-!
# The order of floats

Floats are compared as IEEE 754 says: what is not a number is below nothing and above nothing, of two
numbers one is at most the other, and neither of two floats is both at most and greater than the other; what
lies between two finite floats is finite.
-/

namespace DetectorControl.Decimal

open Float.Model

/-- Numbers of one sign are compared by exponent and significand. -/
theorem compare_then_swap (m m' : Nat) (e e' : Int) :
    (compare e e').then (compare m m') = ((compare e' e).then (compare m' m)).swap := by
  rw [Ordering.swap_then, Int.compare_swap, Nat.compare_swap]

theorem compare_swap (a b : UnpackedFloat) :
    a.compare b = (b.compare a).map Ordering.swap := by
  rcases a with ⟨_ | _⟩ | _ | ⟨_ | _⟩ | ⟨_ | _, m, e, _⟩ <;>
    rcases b with ⟨_ | _⟩ | _ | ⟨_ | _⟩ | ⟨_ | _, m', e', _⟩ <;> try rfl
  · exact congrArg (fun o => some o.swap) (compare_then_swap m m' e e')
  · exact congrArg some (compare_then_swap m m' e e')

theorem isSome_compare {a b : UnpackedFloat} (ha : a.isNaN = false) (hb : b.isNaN = false) :
    (a.compare b).isSome = true := by
  have hnan : UnpackedFloat.notANumber.isNaN ≠ false := nofun
  rcases a with ⟨_ | _⟩ | _ | ⟨_ | _⟩ | ⟨_ | _, m, e, _⟩ <;>
    rcases b with ⟨_ | _⟩ | _ | ⟨_ | _⟩ | ⟨_ | _, m', e', _⟩ <;>
    first | rfl | exact absurd ha hnan | exact absurd hb hnan

section
variable {x y : Float}

theorem le_iff : x ≤ y ↔ (x.toModel.unpack.compare y.toModel.unpack).any (·.isLE) = true :=
  show decide (x.toModel ≤ y.toModel) = true ↔ _ from decide_eq_true_iff

theorem lt_iff : x < y ↔ x.toModel.unpack.compare y.toModel.unpack = some .lt := by
  show decide (x.toModel < y.toModel) = true ↔ _
  rw [decide_eq_true_iff]
  show (_ == _) = true ↔ _
  rw [beq_iff_eq]

theorem not_lt_of_le (h : x ≤ y) : ¬ y < x := by
  intro hlt
  rw [le_iff, compare_swap, lt_iff.mp hlt] at h
  cases h

theorem not_isNaN_of_le (h : x ≤ y) : x.isNaN = false := by
  show x.toModel.unpack.isNaN = false
  rw [le_iff] at h
  cases hx : x.toModel.unpack with
  | notANumber =>
    rw [hx] at h
    cases h
  | _ => rfl

theorem not_isNaN_of_le_right (h : x ≤ y) : y.isNaN = false := by
  show y.toModel.unpack.isNaN = false
  rw [le_iff, compare_swap] at h
  cases hy : y.toModel.unpack with
  | notANumber =>
    rw [hy] at h
    cases h
  | _ => rfl

theorem not_lt_self (x : Float) : ¬ x < x := by
  intro h
  have hswap := compare_swap x.toModel.unpack x.toModel.unpack
  rw [lt_iff.1 h] at hswap
  cases hswap

/-- Of two numbers one is at most the other. -/
theorem le_of_not_lt (hx : x.isNaN = false) (hy : y.isNaN = false) (h : ¬ y < x) : x ≤ y := by
  have hx : x.toModel.unpack.isNaN = false := hx
  have hy : y.toModel.unpack.isNaN = false := hy
  obtain ⟨o, ho⟩ := Option.isSome_iff_exists.1 (isSome_compare hx hy)
  rw [lt_iff, compare_swap, ho] at h
  rw [le_iff, ho]
  cases o with
  | gt => exact absurd rfl h
  | lt => rfl
  | eq => rfl

end

/-- What lies between two finite floats is finite. -/
theorem isFinite_of_le_of_le {x y z : Float} (hx : x.isFinite = true) (hz : z.isFinite = true) (hxy : x ≤ y)
    (hyz : y ≤ z) : y.isFinite = true := by
  have hx : x.toModel.unpack.isFinite = true := hx
  have hz : z.toModel.unpack.isFinite = true := hz
  show y.toModel.unpack.isFinite = true
  rw [le_iff] at hxy hyz
  generalize x.toModel.unpack = u at hx hxy
  generalize z.toModel.unpack = v at hz hyz
  generalize y.toModel.unpack = m at hxy hyz
  cases m with
  | zero | finite => rfl
  | notANumber => cases u <;> cases hxy
  | infinity sign =>
    cases sign with
    | positive =>
      cases v with
      | zero | finite => cases hyz
      | infinity | notANumber => cases hz
    | negative =>
      cases u with
      | zero | finite => cases hxy
      | infinity | notANumber => cases hx

end DetectorControl.Decimal
