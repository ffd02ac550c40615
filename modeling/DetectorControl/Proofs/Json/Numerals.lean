import DetectorControl.Json.Token
import DetectorControl.Proofs.Decimal.Digits
import DetectorControl.Proofs.Text.Utf8

/-!
# How the reader gets through a number

`Reads s cs s'`: the characters lead the reader from the state `s` to `s'`, and no token ends among
them. The parts of a number are read one after the other, and what they leave behind is the numeral
with their digits (`reads_whole`, `reads_fraction`, `reads_exponent`).
-/

namespace DetectorControl.Json

open Decimal

namespace Scanner

/-- The characters lead from one state to another, within a token. -/
def Reads (s : Scanner) (cs : List Char) (s' : Scanner) : Prop :=
  ∀ tokens rest, s.run? tokens (Bytes.encode cs ++ rest) = s'.run? tokens rest

namespace Reads
variable {s s' s'' : Scanner} {cs cs' : List Char}

theorem nil (s : Scanner) : Reads s [] s := fun _ _ => rfl

theorem trans (h : Reads s cs s') (h' : Reads s' cs' s'') : Reads s (cs ++ cs') s'' := by
  intro tokens rest
  rw [Bytes.encode_append, List.append_assoc, h, h']

theorem of_step {c : Char} (hc : c.toNat < 128) (h : s.step? (UInt8.ofNat c.toNat) = some (s', [])) :
    Reads s [c] s' := by
  intro tokens rest
  rw [Bytes.encode_cons_of_lt hc, List.cons_append, run?, h]
  rfl

end Reads

theorem ofNat_toNat {c : Char} (hc : c.toNat < 128) : (UInt8.ofNat c.toNat).toNat = c.toNat := by
  rw [UInt8.toNat_ofNat']
  omega

theorem digit?_of_isDigit {c : Char} (h : c.isDigit = true) :
    digit? (UInt8.ofNat c.toNat) = some (digitValue c) := by
  have hbounds := digit_bounds h
  have hvalue : (UInt8.ofNat c.toNat).toNat = c.toNat := ofNat_toNat (by omega)
  have hlow : (0x30 : UInt8) ≤ UInt8.ofNat c.toNat := by
    rw [UInt8.le_iff_toNat_le, hvalue]
    exact hbounds.1
  have hhigh : UInt8.ofNat c.toNat ≤ (0x39 : UInt8) := by
    rw [UInt8.le_iff_toNat_le, hvalue]
    exact hbounds.2
  unfold digit?
  rw [decide_eq_true hlow, decide_eq_true hhigh, hvalue]
  rfl

def values (cs : List Char) : List Nat := (cs.map digitValue).reverse

theorem values_cons (c : Char) (cs : List Char) : values (c :: cs) = values cs ++ [digitValue c] := by
  rw [values, List.map_cons, List.reverse_cons, values]

/-- A place behind a digit stays there for more digits, which are added one after the other. -/
theorem reads_digits (place : Place) {f : List Nat → Numeral}
    (hf : ∀ ds b d, digit? b = some d → extend place (f ds) b = some (place, f (d :: ds)))
    {cs : List Char} (hcs : ∀ c ∈ cs, c.isDigit = true) (ds : List Nat) :
    Reads (.number place (f ds)) cs (.number place (f (values cs ++ ds))) := by
  induction cs generalizing ds with
  | nil => exact .nil _
  | cons c cs ih =>
    have hc := hcs c (by simp)
    have hstep : (Scanner.number place (f ds)).step? (UInt8.ofNat c.toNat) =
        some (.number place (f (digitValue c :: ds)), []) := by
      simp only [step?, hf ds _ _ (digit?_of_isDigit hc)]
    have hlt : c.toNat < 128 := by have := digit_bounds hc; omega
    rw [values_cons, List.append_assoc]
    exact (Reads.of_step hlt hstep).trans (ih (fun d hd => hcs d (by simp [hd])) _)

theorem exists_digitChar {c : Char} (h : c.isDigit = true) : ∃ d < 10, c = Nat.digitChar d := by
  have hbounds := digit_bounds h
  refine ⟨c.toNat - 48, by omega, Char.toNat_inj.1 ?_⟩
  rw [Nat.toNat_digitChar_of_lt_ten (by omega)]
  omega

theorem start?_of_isDigit {c : Char} (h : c.isDigit = true) :
    start? (UInt8.ofNat c.toNat) =
      some (.number (if c = '0' then .zero else .whole) { whole := [digitValue c] }, none) := by
  obtain ⟨d, hd, rfl⟩ := exists_digitChar h
  match d, hd with
  | 0, _ | 1, _ | 2, _ | 3, _ | 4, _ | 5, _ | 6, _ | 7, _ | 8, _ | 9, _ => rfl

theorem extend_sign_of_isDigit {c : Char} (h : c.isDigit = true) (n : Numeral) :
    extend .sign n (UInt8.ofNat c.toNat) =
      some (if c = '0' then .zero else .whole, { n with whole := [digitValue c] }) := by
  obtain ⟨d, hd, rfl⟩ := exists_digitChar h
  match d, hd with
  | 0, _ | 1, _ | 2, _ | 3, _ | 4, _ | 5, _ | 6, _ | 7, _ | 8, _ | 9, _ => rfl

def signOf (negative : Bool) : List Char := if negative then ['-'] else []

/-- A number begins with its sign and its whole digits. -/
theorem reads_whole (negative : Bool) {cs : List Char} (h : IsWhole cs) :
    ∃ place, (place = .zero ∨ place = .whole) ∧
      Reads .between (signOf negative ++ cs) (.number place { negative, whole := values cs }) := by
  -- the first digit decides whether more of them may follow
  have hfirst (c : Char) (hc : c.isDigit = true) : Reads .between (signOf negative ++ [c])
      (.number (if c = '0' then .zero else .whole) { negative, whole := [digitValue c] }) := by
    have hlt : c.toNat < 128 := by have := digit_bounds hc; omega
    cases negative with
    | false =>
      refine .of_step hlt ?_
      rw [step?, start?_of_isDigit hc]
      rfl
    | true =>
      have hsign : Reads .between ['-'] (.number .sign { negative := true }) := .of_step (by decide) rfl
      refine hsign.trans (.of_step hlt ?_)
      rw [step?, extend_sign_of_isDigit hc]
  cases h with
  | zero => exact ⟨.zero, .inl rfl, hfirst '0' rfl⟩
  | @digits c cs hc hne hcs =>
    refine ⟨.whole, .inr rfl, ?_⟩
    have hdigits := reads_digits .whole (f := fun ds => { negative, whole := ds })
      (fun ds b d hd => by simp only [extend, hd]) hcs [digitValue c]
    have h := hfirst c hc
    rw [if_neg hne] at h
    rw [values_cons, ← List.singleton_append, ← List.append_assoc]
    exact h.trans hdigits

theorem reads_fraction {place : Place} (hplace : place = .zero ∨ place = .whole) (n : Numeral)
    {cs : List Char} (hne : cs ≠ []) (hcs : ∀ c ∈ cs, c.isDigit = true) :
    Reads (.number place n) ('.' :: cs)
      (.number .fraction { n with fractional := true, fraction := values cs }) := by
  obtain ⟨c, cs, rfl⟩ := List.exists_cons_of_ne_nil hne
  have hc := hcs c (by simp)
  have hlt : c.toNat < 128 := by have := digit_bounds hc; omega
  have hpoint : Reads (.number place n) ['.'] (.number .point { n with fractional := true }) := by
    rcases hplace with rfl | rfl <;> exact .of_step (by decide) rfl
  have hfirst : Reads (.number .point { n with fractional := true }) [c]
      (.number .fraction { n with fractional := true, fraction := [digitValue c] }) := by
    refine .of_step hlt ?_
    simp only [step?, extend, digit?_of_isDigit hc]
  have hcs' : ∀ d ∈ cs, d.isDigit = true := fun d hd => hcs d (by simp [hd])
  have hdigits := reads_digits .fraction (f := fun ds => { n with fractional := true, fraction := ds })
    (fun ds b d hd => by simp only [extend, hd]) hcs' [digitValue c]
  rw [values_cons]
  exact hpoint.trans (hfirst.trans hdigits)

theorem reads_exponent {place : Place} {n : Numeral}
    (hplace : place = .zero ∨ place = .whole ∨ place = .fraction ∧ n.fractional = true)
    (negative : Bool) {cs : List Char} (hne : cs ≠ []) (hcs : ∀ c ∈ cs, c.isDigit = true)
    (hn : n.exponentNegative = false) :
    Reads (.number place n) ('e' :: (if negative then '-' else '+') :: cs)
      (.number .exponent
        { n with fractional := true, exponentNegative := negative, exponent := values cs }) := by
  obtain ⟨c, cs, rfl⟩ := List.exists_cons_of_ne_nil hne
  have hc := hcs c (by simp)
  have hlt : c.toNat < 128 := by have := digit_bounds hc; omega
  have hmark : Reads (.number place n) ['e'] (.number .mark { n with fractional := true }) := by
    rcases hplace with rfl | rfl | ⟨rfl, hfractional⟩
    · exact .of_step (by decide) rfl
    · exact .of_step (by decide) rfl
    · have heq : { n with fractional := true } = n := by
        cases n
        cases hfractional
        rfl
      rw [heq]
      exact .of_step (by decide) rfl
  have hsign : Reads (.number .mark { n with fractional := true }) [if negative then '-' else '+']
      (.number .markSign { n with fractional := true, exponentNegative := negative }) := by
    cases negative with
    | true => exact .of_step (by decide) rfl
    | false =>
      have heq : { n with fractional := true, exponentNegative := false } = { n with fractional := true } := by
        cases n
        cases hn
        rfl
      rw [heq]
      exact .of_step (by decide) rfl
  have hfirst : Reads (.number .markSign { n with fractional := true, exponentNegative := negative }) [c]
      (.number .exponent
        { n with fractional := true, exponentNegative := negative, exponent := [digitValue c] }) := by
    refine .of_step hlt ?_
    simp only [step?, extend, digit?_of_isDigit hc]
  have hcs' : ∀ d ∈ cs, d.isDigit = true := fun d hd => hcs d (by simp [hd])
  have hdigits := reads_digits .exponent
    (f := fun ds => { n with fractional := true, exponentNegative := negative, exponent := ds })
    (fun ds b d hd => by simp only [extend, hd]) hcs' [digitValue c]
  rw [values_cons]
  exact hmark.trans (hsign.trans (hfirst.trans hdigits))

end Scanner

end DetectorControl.Json
