import DetectorControl.Hardware.Board
import DetectorControl.Proofs.Basic
import DetectorControl.Proofs.Decimal.Order

/-!
# The supply of a simulated board

A write to one of the two channels replaces what the board holds for that channel, and nothing else
(`setLevel_eq`, `setOutput_eq`).
-/

namespace DetectorControl.Board

theorem zero_le_zero : (0 : Float) ≤ 0 := by decide

theorem zero_le_highest : (0 : Float) ≤ 3300 := by decide

theorem clamp_eq_self {low high x : Float} (hlow : low ≤ x) (hhigh : x ≤ high) :
    clamp low high x = x := by
  unfold clamp
  rw [if_neg (Decimal.not_lt_of_le hlow), if_neg (Decimal.not_lt_of_le hhigh)]

def withLevel (b : Board) (ch : Fin 2) (level : Float) : Board :=
  { b with levels := putAt b.levels ch level }

def withOutput (b : Board) (ch : Fin 2) (on : Bool) : Board :=
  { b with outputs := putAt b.outputs ch on }

section
variable (b : Board) {ch ch' : Fin 2}

theorem levels_withLevel_self (level : Float) : (b.withLevel ch level).levels.get ch = level :=
  get_putAt_self ..

theorem levels_withLevel_of_ne (hne : ch ≠ ch') (level : Float) :
    (b.withLevel ch level).levels.get ch' = b.levels.get ch' :=
  get_putAt_of_ne _ hne level

theorem outputs_withOutput_self (on : Bool) : (b.withOutput ch on).outputs.get ch = on :=
  get_putAt_self ..

theorem outputs_withOutput_of_ne (hne : ch ≠ ch') (on : Bool) :
    (b.withOutput ch on).outputs.get ch' = b.outputs.get ch' :=
  get_putAt_of_ne _ hne on

/-- A channel whose output is off, and which is set to no voltage. -/
def IsOff (b : Board) (ch : Fin 2) : Prop := b.outputs.get ch = false ∧ b.levels.get ch = 0

def withOff (ch : Fin 2) : Board := (b.withLevel ch 0).withOutput ch false

theorem isOff_withOff (ch : Fin 2) : (b.withOff ch).IsOff ch :=
  ⟨outputs_withOutput_self _ false, b.levels_withLevel_self 0⟩

theorem isOff_withOff_of_isOff (ch : Fin 2) (h : b.IsOff ch') : (b.withOff ch).IsOff ch' := by
  by_cases hne : ch = ch'
  · subst hne
    exact b.isOff_withOff ch
  · refine ⟨?_, ?_⟩
    · exact (outputs_withOutput_of_ne _ hne false).trans h.1
    · exact (b.levels_withLevel_of_ne hne 0).trans h.2

end

theorem setLevel_eq (b : Board) (ch : Fin 2) {level : Float} (hlow : 0 ≤ level) (hhigh : level ≤ 3300) :
    setLevel ch level b =
      if b.spiFault then (.error (.communication "SPI transfer failed"), b)
      else (.ok (), b.withLevel ch level) := by
  have hclamp : clamp levelMin levelMax level = level := clamp_eq_self hlow hhigh
  unfold setLevel
  rw [dif_pos ch.isLt, hclamp]
  rfl

theorem setOutput_eq (b : Board) (ch : Fin 2) (on : Bool) :
    setOutput ch on b = (.ok (), b.withOutput ch on) := by
  unfold setOutput
  rw [dif_pos ch.isLt]
  rfl

end DetectorControl.Board
