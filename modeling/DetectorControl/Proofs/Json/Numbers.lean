import DetectorControl.Json.Printer
import DetectorControl.Proofs.Decimal.Shortest
import DetectorControl.Proofs.Json.Numerals

/-!
# Written numbers are read

Every number is written as one token, and none that a comma or a bracket behind it could prolong
(`run?_number`). An integer of 64 bits is read as itself (`token_int`); a float may come back with
another last bit, and one that is not finite is written as `null`.
-/

namespace DetectorControl

namespace Decimal

theorem isDigit_replicate (n : Nat) : ∀ c ∈ List.replicate n '0', c.isDigit = true := by
  intro c hc
  rw [List.eq_of_mem_replicate hc]
  rfl

theorem toList_zeros (n : Nat) : (Layout.zeros n).toList = List.replicate n '0' := String.toList_ofList

end Decimal

namespace Json

open Decimal

namespace Scanner

/-- The characters make up a number. -/
def Spells (cs : List Char) (n : Numeral) : Prop :=
  ∃ place ∈ [Place.zero, .whole, .fraction, .exponent], Reads .between cs (.number place n)

section
variable (negative : Bool) {whole fraction exponent : List Char}

theorem spells_whole (h : IsWhole whole) :
    Spells (signOf negative ++ whole) { negative, whole := values whole } := by
  obtain ⟨place, hplace, hreads⟩ := reads_whole negative h
  refine ⟨place, ?_, hreads⟩
  rcases hplace with rfl | rfl <;> simp

theorem spells_fraction (h : IsWhole whole) (hne : fraction ≠ [])
    (hfraction : ∀ c ∈ fraction, c.isDigit = true) :
    Spells (signOf negative ++ (whole ++ '.' :: fraction))
      { negative, whole := values whole, fractional := true, fraction := values fraction } := by
  obtain ⟨place, hplace, hreads⟩ := reads_whole negative h
  rw [← List.append_assoc]
  exact ⟨.fraction, by simp, hreads.trans (reads_fraction hplace _ hne hfraction)⟩

theorem spells_exponent (h : IsWhole whole) (hfraction : ∀ c ∈ fraction, c.isDigit = true)
    (below : Bool) (hne : exponent ≠ []) (hexponent : ∀ c ∈ exponent, c.isDigit = true) :
    Spells (signOf negative ++ (whole ++ ((if fraction = [] then [] else '.' :: fraction) ++
        'e' :: (if below then '-' else '+') :: exponent)))
      { negative, whole := values whole, fractional := true, fraction := values fraction,
        exponentNegative := below, exponent := values exponent } := by
  obtain ⟨place, hplace, hreads⟩ := reads_whole negative h
  rw [← List.append_assoc]
  by_cases hf : fraction = []
  · subst hf
    rw [if_pos rfl, List.nil_append]
    refine ⟨.exponent, by simp, hreads.trans (reads_exponent ?_ below hne hexponent rfl)⟩
    rcases hplace with rfl | rfl
    · exact .inl rfl
    · exact .inr (.inl rfl)
  · rw [if_neg hf]
    exact ⟨.exponent, by simp, hreads.trans ((reads_fraction hplace _ hf hfraction).trans
      (reads_exponent (.inr (.inr ⟨rfl, rfl⟩)) below hne hexponent rfl))⟩

end

/-- The quick way from the digits of a numeral decides whether it has a value. -/
theorem isSome_value? (negative below : Bool) (whole fraction exponent : List Char)
    (h : (Spelling.quick? ⟨whole.map digitValue, fraction.map digitValue,
      if below then -(ofDigitsUpTo 10 Numeral.exponentLimit (exponent.map digitValue) : Int)
      else ofDigitsUpTo 10 Numeral.exponentLimit (exponent.map digitValue)⟩).isSome = true) :
    (Numeral.value?
      { negative, whole := values whole, fractional := true, fraction := values fraction,
        exponentNegative := below, exponent := values exponent }).isSome = true := by
  unfold Numeral.value? values
  simp only [List.reverse_reverse, Bool.not_true, Bool.false_and, Bool.false_eq_true, if_false,
    Option.isSome_map]
  exact h

/-- The characters make up a number that has a value. -/
def SpellsValue (cs : List Char) : Prop := ∃ n, Spells cs n ∧ n.value?.isSome = true

section
variable (negative : Bool) {whole fraction : List Char}

theorem spellsValue_fraction (h : IsWhole whole) (hne : fraction ≠ [])
    (hfraction : ∀ c ∈ fraction, c.isDigit = true) (hshort : whole.length ≤ 16) :
    SpellsValue (signOf negative ++ (whole ++ '.' :: fraction)) := by
  have hvalue : Nat.ofDigitChars 10 whole 0 ≤ Bounds.natural64 := by
    calc Nat.ofDigitChars 10 whole 0
        ≤ (0 + 1) * 10 ^ whole.length := Nat.le_of_lt (ofDigitChars_lt h.isDigit 0)
      _ ≤ (0 + 1) * 10 ^ 16 := Nat.mul_le_mul_left _ (Nat.pow_le_pow_right (by decide) hshort)
      _ ≤ Bounds.natural64 := by decide
  exact ⟨_, spells_fraction negative h hne hfraction,
    isSome_value? negative false whole fraction [] (quick_of_nonpos hvalue (Int.le_refl 0))⟩

theorem spellsValue_pointZero (h : IsWhole whole) (hshort : whole.length ≤ 16) :
    SpellsValue (signOf negative ++ (whole ++ ['.', '0'])) := by
  refine spellsValue_fraction negative h (List.cons_ne_nil _ _) (fun c hc => ?_) hshort
  rw [List.mem_singleton.1 hc]
  rfl

theorem spells_positional {d : Digits} (hd : 0 < d.digits)
    (hshort : d.exponent + (Nat.toDigits 10 d.digits).length ≤ 16) :
    SpellsValue (signOf negative ++ (Layout.json.writePositional d).toList) := by
  have hwhole := isWhole_toDigits d.digits
  have hne := toDigits_ne_zero hd
  unfold Layout.writePositional
  simp only [toList_toString]
  split
  · -- zeros behind the digits
    rename_i hexponent
    rw [String.toList_append, String.toList_append, toList_toString, toList_zeros]
    refine spellsValue_pointZero negative (hwhole.append hne (isDigit_replicate d.exponent.toNat)) ?_
    rw [List.length_append, List.length_replicate]
    omega
  · split
    · -- the point among the digits
      rename_i hexponent hplaces
      have hdrop : (Nat.toDigits 10 d.digits).drop
          ((Nat.toDigits 10 d.digits).length - (-d.exponent).toNat) ≠ [] := by
        rw [Ne, List.drop_eq_nil_iff]
        omega
      simp only [String.toList_append, String.toList_ofList, List.append_assoc]
      refine spellsValue_fraction negative (hwhole.take hne (Nat.sub_pos_of_lt hplaces)) hdrop
        (fun c hc => isDigit_toDigits c (List.mem_of_mem_drop hc)) ?_
      rw [List.length_take]
      omega
    · -- zeros between the point and the digits
      rename_i hexponent hplaces
      have hdigits : ∀ n, ∀ c ∈ List.replicate n '0' ++ Nat.toDigits 10 d.digits, c.isDigit = true := by
        intro n c hc
        rcases List.mem_append.1 hc with hc | hc
        · exact isDigit_replicate n c hc
        · exact isDigit_toDigits c hc
      have hnonempty : ∀ n, List.replicate n '0' ++ Nat.toDigits 10 d.digits ≠ [] := fun n =>
        List.append_ne_nil_of_right_ne_nil _ hwhole.ne_nil
      simp only [String.toList_append, toList_toString, toList_zeros, List.append_assoc]
      exact spellsValue_fraction negative .zero (hnonempty _) (hdigits _) (by decide)

/-- A shortest decimal that is written with its exponent. -/
theorem spells_scientific {b : Binary} {d : Digits} (hd : shortest? b Layout.json.tie = some d)
    (hm : b.m < 2 ^ 53) (hq : b.q ≤ 971) :
    SpellsValue (signOf negative ++ (Layout.writeScientific d
      (d.exponent + (Nat.toDigits 10 d.digits).length - 1)).toList) := by
  have hwhole := isWhole_toDigits d.digits
  have hne := toDigits_ne_zero (contains_of_shortest hd).1
  generalize he : d.exponent + (Nat.toDigits 10 d.digits).length - 1 = e
  have hrest : ∀ c ∈ (Nat.toDigits 10 d.digits).drop 1, c.isDigit = true :=
    fun c hc => isDigit_toDigits c (List.mem_of_mem_drop hc)
  have h := spells_exponent negative (hwhole.take hne Nat.one_pos) hrest
    (decide (e < 0)) (isWhole_toDigits e.natAbs).ne_nil isDigit_toDigits
  refine ⟨_, ?_, isSome_value? negative (decide (e < 0)) ((Nat.toDigits 10 d.digits).take 1)
    ((Nat.toDigits 10 d.digits).drop 1) (Nat.toDigits 10 e.natAbs) ?_⟩
  · unfold Layout.writeScientific
    simp only [toList_toString, String.toList_append, List.append_assoc]
    rw [String.toList_ofList]
    have hsign : (if e < 0 then "-" else "+").toList = [if decide (e < 0) then '-' else '+'] := by
      by_cases he : e < 0
      · rw [if_pos he, decide_eq_true he]; rfl
      · rw [if_neg he, decide_eq_false he]; rfl
    rw [hsign]
    by_cases hlength : (Nat.toDigits 10 d.digits).length ≤ 1
    · rw [if_pos (List.drop_eq_nil_iff.2 hlength)] at h
      rw [if_pos hlength]
      exact h
    · rw [if_neg fun hdrop => hlength (List.drop_eq_nil_iff.1 hdrop)] at h
      rw [if_neg hlength]
      simp only [String.toList_append, String.toList_ofList, List.append_assoc]
      exact h
  · refine quick_of_shortest hd hm hq (List.take_append_drop 1 _) ?_ ?_
    · have hdigit := hwhole.take hne Nat.one_pos
      calc Nat.ofDigitChars 10 ((Nat.toDigits 10 d.digits).take 1) 0
          ≤ (0 + 1) * 10 ^ ((Nat.toDigits 10 d.digits).take 1).length := Nat.le_of_lt (ofDigitChars_lt hdigit.isDigit 0)
        _ ≤ (0 + 1) * 10 ^ 1 := Nat.mul_le_mul_left _ (Nat.pow_le_pow_right (by decide) (List.length_take_le 1 _))
        _ ≤ Bounds.natural64 := by decide
    · have hle := ofDigitsUpTo_le Numeral.exponentLimit (Nat.toDigits 10 e.natAbs)
      rw [Nat.ofDigitChars_ten_toDigits] at hle
      have hlength := List.length_pos_iff.2 hwhole.ne_nil
      rw [List.length_drop]
      by_cases hbelow : e < 0
      · rw [decide_eq_true hbelow, if_pos rfl]
        exact .inl (by omega)
      · rw [decide_eq_false hbelow, if_neg Bool.false_ne_true]
        exact .inr (by omega)

end

theorem spells_binary {b : Binary} (hm : b.m < 2 ^ 53) (hq : b.q ≤ 971) :
    SpellsValue (Layout.json.write b).toList := by
  have hmagnitude : SpellsValue (signOf b.negative ++ (Layout.json.writeMagnitude b).toList) := by
    unfold Layout.writeMagnitude
    cases hd : shortest? b Layout.json.tie with
    | none =>
      rw [String.toList_append]
      exact spellsValue_pointZero b.negative .zero (by decide)
    | some d =>
      dsimp only
      have hlength : (toString d.digits).length = (Nat.toDigits 10 d.digits).length := by
        rw [← String.length_toList, toList_toString]
      rw [hlength]
      split
      · rename_i hpositional
        refine spells_positional b.negative (contains_of_shortest hd).1 ?_
        have hbounds := of_decide_eq_true (Bool.and_eq_true_iff.1 hpositional).2
        omega
      · exact spells_scientific b.negative hd hm hq
  unfold Layout.write
  cases hb : b.negative with
  | false =>
    rw [hb] at hmagnitude
    exact hmagnitude
  | true =>
    rw [hb] at hmagnitude
    rw [if_pos rfl, String.toList_append]
    exact hmagnitude

theorem spells_int (i : Int) :
    Spells (toString i).toList
      { negative := decide (i < 0), whole := values (Nat.toDigits 10 i.natAbs) } := by
  cases i with
  | ofNat n =>
    have h := spells_whole false (isWhole_toDigits n)
    have hsign : decide (Int.ofNat n < 0) = false := decide_eq_false (Int.not_lt.2 (Int.natCast_nonneg n))
    rw [hsign]
    show Spells (toString n).toList _
    rw [toList_toString]
    exact h
  | negSucc n =>
    have h := spells_whole true (isWhole_toDigits (n + 1))
    rw [decide_eq_true (Int.negSucc_lt_zero n)]
    show Spells ("-" ++ toString (n + 1)).toList _
    rw [String.toList_append, toList_toString]
    exact h

/-- What ends a token: a comma, a closing bracket, or the end of the text. -/
def Ends : Bytes → Prop
  | [] => True
  | b :: _ => b = 0x2C ∨ b = 0x5D ∨ b = 0x7D

theorem run?_of_spells {cs : List Char} {n : Numeral} (h : Spells cs n) (tokens : List Token)
    {rest : Bytes} (hrest : Ends rest) :
    Scanner.between.run? tokens (Bytes.encode cs ++ rest) =
      Scanner.between.run? (.number n.value? :: tokens) rest := by
  obtain ⟨place, hplace, hreads⟩ := h
  rw [hreads]
  simp only [List.mem_cons, List.not_mem_nil, or_false] at hplace
  cases rest with
  | nil => rcases hplace with rfl | rfl | rfl | rfl <;> rfl
  | cons b rest =>
    rcases hrest with rfl | rfl | rfl <;> rcases hplace with rfl | rfl | rfl | rfl <;> rfl

theorem tokens?_of_spells {cs : List Char} {n : Numeral} (h : Spells cs n) :
    tokens? (Bytes.encode cs) = some [.number n.value?] := by
  have hends : Ends [] := trivial
  have hrun := run?_of_spells h [] hends
  rw [List.append_nil] at hrun
  exact hrun

theorem run?_null (tokens : List Token) (rest : Bytes) :
    Scanner.between.run? tokens (Bytes.ofString "null" ++ rest) =
      Scanner.between.run? (.null :: tokens) rest := rfl

end Scanner

end Json

namespace Number

open Json Scanner Decimal

/-- An integer that is written is read as itself, if it has 64 bits. -/
theorem value?_int {i : Int} (hlow : Bounds.least64 ≤ i) (hhigh : i ≤ Bounds.natural64) :
    Numeral.value? { negative := decide (i < 0), whole := values (Nat.toDigits 10 i.natAbs) } =
      some (.int i) := by
  have hvalues : (values (Nat.toDigits 10 i.natAbs)).reverse = (Nat.toDigits 10 i.natAbs).map digitValue :=
    List.reverse_reverse _
  have hnumber : Nat.ofDigitChars 10 (Nat.toDigits 10 i.natAbs) 0 = i.natAbs :=
    Nat.ofDigitChars_ten_toDigits
  have hle : i.natAbs ≤ Bounds.natural64 := by
    unfold Bounds.least64 at hlow
    unfold Bounds.natural64 at hhigh ⊢
    omega
  have htaken := appendDigits_of_le (hnumber.symm ▸ hle) 0
  rw [hnumber] at htaken
  unfold Numeral.value?
  simp only [hvalues, htaken]
  by_cases hneg : i < 0
  · have hpos : 0 < i.natAbs ∧ i.natAbs ≤ Bounds.least64.natAbs := by
      unfold Bounds.least64 at hlow ⊢
      omega
    have hself : -(i.natAbs : Int) = i := by omega
    rw [if_pos (by simp [hneg, hpos]), if_pos (decide_eq_true hneg), hself]
  · have hself : (i.natAbs : Int) = i := by omega
    rw [if_pos (by simp [hneg]), if_neg (by simp [hneg]), hself]

/-- The token that the text of a number is read as. -/
def token (n : Number) : Token :=
  match tokens? (Bytes.ofString n.write) with
  | some [t] => t
  | _ => .null

theorem token_of_spells {n : Number} {m : Numeral} (h : Spells n.write.toList m) :
    n.token = .number m.value? := by
  rw [token, Bytes.ofString_eq, tokens?_of_spells h]

theorem token_int {i : Int} (hlow : Bounds.least64 ≤ i) (hhigh : i ≤ Bounds.natural64) :
    (int i).token = .number (some (.int i)) := by
  have h : Spells (int i).write.toList _ := spells_int i
  rw [token_of_spells h, value?_int hlow hhigh]

theorem write_cases (n : Number) : (∃ m, Spells n.write.toList m) ∨ n.write = "null" := by
  cases n with
  | int i => exact .inl ⟨_, spells_int i⟩
  | float x =>
    cases h : Reading.ofFloat x with
    | finite b =>
      have hwrite : (Number.float x).write = Layout.json.write b := by simp only [write, h]
      obtain ⟨hm, hq⟩ := bounds_of_ofFloat h
      obtain ⟨m, hspells, -⟩ := spells_binary hm hq
      rw [hwrite]
      exact .inl ⟨m, hspells⟩
    | infinite negative => exact .inr (by simp only [write, h])
    | nan => exact .inr (by simp only [write, h])

theorem run?_write (n : Number) (tokens : List Token) {rest : Bytes} (hrest : Ends rest) :
    Scanner.between.run? tokens (Bytes.ofString n.write ++ rest) =
      Scanner.between.run? (n.token :: tokens) rest := by
  rcases write_cases n with ⟨m, h⟩ | h
  · rw [token_of_spells h, Bytes.ofString_eq, run?_of_spells h tokens hrest]
  · have htoken : n.token = .null := by
      rw [token, h]
      rfl
    rw [htoken, h, run?_null]

theorem token_cases (n : Number) : (∃ m, n.token = .number m) ∨ n.token = .null := by
  rcases write_cases n with ⟨m, h⟩ | h
  · exact .inl ⟨_, token_of_spells h⟩
  · refine .inr ?_
    rw [token, h]
    rfl

/-- A number that a text can hold: an integer of 64 bits or a finite float. -/
def Proper : Number → Prop
  | .int i => Bounds.least64 ≤ i ∧ i ≤ Bounds.natural64
  | .float x => x.isFinite = true

theorem proper_of_value? {m : Numeral} {n : Number} (h : m.value? = some n) : n.Proper := by
  unfold Numeral.value? at h
  dsimp only at h
  split at h
  · rename_i hint
    have hlimit := appendDigits_le_natural64 m.whole.reverse (Nat.zero_le _) 0
    generalize (appendDigits 0 m.whole.reverse 0).1 = i at h hint hlimit
    simp only [Bool.and_eq_true, Bool.or_eq_true, decide_eq_true_eq] at hint
    cases h
    cases hnegative : m.negative with
    | false =>
      rw [if_neg Bool.false_ne_true]
      unfold Proper Bounds.least64
      omega
    | true =>
      have hleast := (hint.2.resolve_left (by rw [hnegative]; exact Bool.false_ne_true)).2
      rw [if_pos rfl]
      unfold Bounds.least64 at hleast
      unfold Proper Bounds.least64 Bounds.natural64
      omega
  · obtain ⟨x, hx, rfl⟩ := Option.map_eq_some_iff.1 h
    have hfinite : x.isFinite = true := isFinite_of_scaled hx
    show (if m.negative then -x else x).isFinite = true
    split
    · exact isFinite_neg hfinite
    · exact hfinite

/-- Where a proper number is written, a proper number is read. -/
theorem token_of_proper {n : Number} (h : n.Proper) : ∃ m, n.token = .number (some m) ∧ m.Proper := by
  cases n with
  | int i => exact ⟨_, token_int h.1 h.2, h⟩
  | float x =>
    obtain ⟨b, hb⟩ := ofFloat_of_isFinite h
    obtain ⟨hm, hq⟩ := bounds_of_ofFloat hb
    obtain ⟨m, hspells, hvalue⟩ := spells_binary hm hq
    obtain ⟨n, hn⟩ := Option.isSome_iff_exists.1 hvalue
    have hwrite : (float x).write = Layout.json.write b := by simp only [write, hb]
    refine ⟨n, ?_, proper_of_value? hn⟩
    rw [token_of_spells (hwrite ▸ hspells), hn]

end Number

end DetectorControl
