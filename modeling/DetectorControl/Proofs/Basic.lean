import DetectorControl.Config.Validated

/-!
# Basics

What is known of a chain of checks that has come to a result, an item of a vector replaced by its
number, and a configuration to try things out with.
-/

namespace DetectorControl

universe u v

theorem bind_eq_ok_iff {ε : Type u} {α β : Type v} {x : Except ε α} {f : α → Except ε β} {b : β} :
    (x >>= f) = .ok b ↔ ∃ a, x = .ok a ∧ f a = .ok b := by
  cases x with
  | error e => exact ⟨fun h => (nomatch h), fun ⟨_, h, _⟩ => (nomatch h)⟩
  | ok a => exact ⟨fun h => ⟨a, rfl, h⟩, fun ⟨_, h, hf⟩ => by cases h; exact hf⟩

theorem ok_bind {ε : Type u} {α β : Type v} {a : α} {f : α → Except ε β} : (Except.ok a >>= f) = f a := rfl

theorem toOption_eq_some_iff {ε : Type u} {α : Type v} {x : Except ε α} {a : α} : x.toOption = some a ↔ x = .ok a := by
  cases x with
  | error e => exact ⟨nofun, nofun⟩
  | ok b => exact ⟨fun h => congrArg _ (Option.some.inj h), fun h => congrArg some (Except.ok.inj h)⟩

section
variable {α : Type} {n : Nat}

def putAt (v : Vector α n) (i : Fin n) (a : α) : Vector α n := v.set i a i.isLt

theorem get_putAt_self (v : Vector α n) (i : Fin n) (a : α) : (putAt v i a).get i = a := by
  show (v.set i a i.isLt)[i] = a
  simp

theorem get_putAt_of_ne (v : Vector α n) {i j : Fin n} (h : i ≠ j) (a : α) :
    (putAt v i a).get j = v.get j := by
  have hval : (i : Nat) ≠ j := fun he => h (Fin.ext he)
  show (v.set i a i.isLt)[j] = v[j]
  simp [hval]

end

/-- A configuration that allows 700 V on channel 0, on which 1 mV sets a quarter of a volt. -/
def Config.bench : Config where
  detectorId := "bench"
  repository := none
  logLevel := .info
  defaults := [(0, 1000)]
  conversion := some [(0, [0, 0.25])]
  limits := some [(0, 700)]
  temperature := some {}
  autorun := {}

end DetectorControl
