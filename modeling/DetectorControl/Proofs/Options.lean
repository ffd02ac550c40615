import DetectorControl.Options
import DetectorControl.Proofs.Basic
import DetectorControl.Proofs.Decimal.Integers
import DetectorControl.Proofs.Json.Numbers

/-!
# Whole numbers among the options

Every numeric option is a float before it is anything else. A whole number is the integer part of that
float, where 64 bits hold it, and is refused elsewhere: it is never brought into the range
(`integer_of_value`). So an integer of more than 53 significant bits is rounded to the nearest float, and
may come out as another integer (`integer_not_exact`).
-/

namespace DetectorControl.Options

open Decimal

variable {o : Options} {key : String} {n : Int}

/-- An integer that 64 bits hold, one of which is the sign. -/
def Within (n : Int) : Prop :=
  Bounds.least64 ≤ n ∧ n ≤ Bounds.greatest64

/-- The whole number that a value stands for. -/
inductive Stands : Json → Int → Prop
  | int {i n : Int} (h : Rounded i n) : Stands (.number (.int i)) n
  | float {x : Float} {b : Binary} (h : Reading.ofFloat x = .finite b) : Stands (.number (.float x)) b.truncate
  | text {s : String} {x : Float} {b : Binary} (hx : readText? (Text.trim s) = some x)
      (h : Reading.ofFloat x = .finite b) : Stands (.string s) b.truncate

theorem get?_eq_none_iff :
    o.get? key = none ↔ Entries.get? o.map key = none ∨ Entries.get? o.map key = some .null := by
  unfold get?
  cases Entries.get? o.map key with
  | none => exact iff_of_true rfl (.inl rfl)
  | some v => cases v <;> simp [Option.filter, Json.isNull]

/-! ## From a value to a float, and to an integer -/

theorem natAbs_lt_of_proper {i : Int} (h : (Number.int i).Proper) : i.natAbs < 2 ^ 64 := by
  obtain ⟨hlow, hhigh⟩ := h
  unfold Bounds.least64 at hlow
  unfold Bounds.natural64 at hhigh
  omega

theorem numberOf?_number (m : Number) (h : m.toFloat.isFinite = true) : numberOf? (.number m) = some m.toFloat :=
  Option.filter_eq_some_iff.2 ⟨rfl, h⟩

theorem numberOf?_string (s : String) : numberOf? (.string s) = (readText? (Text.trim s)).filter Float.isFinite := rfl

/-- What a value stands for is the integer part of the float that it is read as. -/
theorem stands_iff {v : Json} (hproper : ∀ m, v = .number m → m.Proper) :
    Stands v n ↔ ∃ x b, numberOf? v = some x ∧ Reading.ofFloat x = .finite b ∧ b.truncate = n := by
  constructor
  · intro h
    cases h with
    | @int i n h =>
      obtain ⟨b, hb, hrounded⟩ := truncate_toFloat (natAbs_lt_of_proper (hproper (.int i) rfl))
      exact ⟨_, b, numberOf?_number (.int i) (isFinite_of_ofFloat hb), hb, hrounded.unique h⟩
    | @float x b hb => exact ⟨x, b, numberOf?_number (.float x) (isFinite_of_ofFloat hb), hb, rfl⟩
    | @text s x b hx hb =>
      refine ⟨x, b, ?_, hb, rfl⟩
      rw [numberOf?_string, hx]
      exact Option.filter_eq_some_iff.2 ⟨rfl, isFinite_of_ofFloat hb⟩
  · rintro ⟨x, b, hx, hb, rfl⟩
    obtain ⟨hread, -⟩ := Option.filter_eq_some_iff.1 hx
    cases v with
    | number m =>
      obtain rfl := Option.some.inj hread
      cases m with
      | int i =>
        obtain ⟨b', hb', hrounded⟩ := truncate_toFloat (natAbs_lt_of_proper (hproper (.int i) rfl))
        obtain rfl := Reading.finite.inj (hb'.symm.trans hb)
        exact .int hrounded
      | float y => exact .float hb
    | string s => exact .text hread hb
    | null => cases hread
    | bool => cases hread
    | array => cases hread
    | object => cases hread

theorem integerOf?_eq_some_iff {x : Float} :
    integerOf? x = some n ↔ ∃ b, Reading.ofFloat x = .finite b ∧ b.truncate = n ∧ Within n := by
  unfold integerOf?
  cases Reading.ofFloat x with
  | finite b =>
    dsimp only
    constructor
    · intro h
      split at h
      · rename_i hwithin
        cases h
        exact ⟨b, rfl, rfl, hwithin⟩
      · cases h
    · rintro ⟨b', hb', rfl, hwithin⟩
      cases hb'
      exact if_pos hwithin
  | infinite negative => exact iff_of_false (fun h => by cases h) (fun ⟨b, hb, _⟩ => by cases hb)
  | nan => exact iff_of_false (fun h => by cases h) (fun ⟨b, hb, _⟩ => by cases hb)

/-! ## What is answered -/

theorem number_eq_ok_iff {x : Float} :
    o.number key = .ok x ↔ ∃ v, o.get? key = some v ∧ numberOf? v = some x := by
  unfold number
  cases o.get? key with
  | none => exact iff_of_false (fun h => by cases h) (fun ⟨v, hv, _⟩ => by cases hv)
  | some v =>
    dsimp only
    cases hx : numberOf? v with
    | none =>
      refine iff_of_false (fun h => by cases h) ?_
      rintro ⟨v', hv', hx'⟩
      cases hv'
      cases hx.symm.trans hx'
    | some y =>
      constructor
      · intro h
        cases h
        exact ⟨v, rfl, hx⟩
      · rintro ⟨v', hv', hx'⟩
        cases hv'
        exact congrArg Except.ok (Option.some.inj (hx.symm.trans hx'))

theorem integer_eq_ok_iff : o.integer key = .ok n ↔ ∃ x, o.number key = .ok x ∧ integerOf? x = some n := by
  refine bind_eq_ok_iff.trans (exists_congr fun x => and_congr_right fun _ => ?_)
  cases integerOf? x with
  | none => exact iff_of_false (fun h => by cases h) (fun h => by cases h)
  | some i => exact ⟨fun h => congrArg some (Except.ok.inj h), fun h => congrArg Except.ok (Option.some.inj h)⟩

theorem integer_cases (o : Options) (key : String) :
    o.get? key = none ∧ o.integer key = .error (.missing key) ∨
      (∃ v, o.get? key = some v) ∧
        ((∃ n, o.integer key = .ok n) ∨ ∃ text, o.integer key = .error (.invalid key text)) := by
  unfold integer number
  cases o.get? key with
  | none => exact .inl ⟨rfl, rfl⟩
  | some v =>
    refine .inr ⟨⟨v, rfl⟩, ?_⟩
    dsimp only
    cases numberOf? v with
    | none => exact .inr ⟨_, rfl⟩
    | some x =>
      simp only [ok_bind]
      cases integerOf? x with
      | none => exact .inr ⟨_, rfl⟩
      | some i => exact .inl ⟨i, rfl⟩

theorem integer_of_stands (h : ∀ m, o.get? key = some (.number m) → m.Proper) :
    o.integer key = .ok n ↔ Within n ∧ ∃ v, o.get? key = some v ∧ Stands v n := by
  constructor
  · intro hok
    obtain ⟨x, hx, hinteger⟩ := integer_eq_ok_iff.1 hok
    obtain ⟨v, hv, hread⟩ := number_eq_ok_iff.1 hx
    obtain ⟨b, hb, htruncate, hwithin⟩ := integerOf?_eq_some_iff.1 hinteger
    exact ⟨hwithin, v, hv, (stands_iff fun m hm => h m (hm ▸ hv)).2 ⟨x, b, hread, hb, htruncate⟩⟩
  · rintro ⟨hwithin, v, hv, hstands⟩
    obtain ⟨x, b, hread, hb, htruncate⟩ := (stands_iff fun m hm => h m (hm ▸ hv)).1 hstands
    exact integer_eq_ok_iff.2 ⟨x, number_eq_ok_iff.2 ⟨v, hv, hread⟩,
      integerOf?_eq_some_iff.2 ⟨b, hb, htruncate, hwithin⟩⟩

/-- A whole number is answered where 64 bits hold what the value stands for: an integer is rounded to the
nearest float, which is itself up to `2 ^ 53` and wherever it has at most 53 significant bits. Everything else is
missing, if it is absent or `null`, or invalid. -/
theorem integer_of_value (h : ∀ m, o.get? key = some (.number m) → m.Proper) :
    (∀ n, o.integer key = .ok n ↔ Within n ∧ ∃ v, o.get? key = some v ∧ Stands v n) ∧
      (∀ i, o.get? key = some (.number (.int i)) → (∃ n, Rounded i n) ∧
        (i.natAbs ≤ 2 ^ 53 ∨ Spans 53 i ∧ Within i → o.integer key = .ok i)) ∧
      (o.integer key = .error (.missing key) ↔
        Entries.get? o.map key = none ∨ Entries.get? o.map key = some .null) ∧
      ∀ e, o.integer key = .error e → e = .missing key ∨ ∃ text, e = .invalid key text := by
  refine ⟨fun n => integer_of_stands h, fun i hi => ⟨?_, fun hexact => ?_⟩, ?_, fun e he => ?_⟩
  · obtain ⟨b, -, hrounded⟩ := truncate_toFloat (natAbs_lt_of_proper (h (.int i) hi))
    exact ⟨b.truncate, hrounded⟩
  · obtain ⟨hspans, hwithin⟩ : Spans 53 i ∧ Within i := by
      refine hexact.elim (fun hle => ⟨spans_of_natAbs_le (by decide) hle, ?_⟩) id
      unfold Within Bounds.least64 Bounds.greatest64
      omega
    exact (integer_of_stands h).2 ⟨hwithin, _, hi, .int (rounded_self hspans)⟩
  · rw [← get?_eq_none_iff]
    rcases integer_cases o key with ⟨hnone, herror⟩ | ⟨⟨v, hv⟩, ⟨n, hok⟩ | ⟨text, herror⟩⟩
    · exact iff_of_true herror hnone
    · rw [hok, hv]
      exact iff_of_false (fun h => by cases h) (fun h => by cases h)
    · rw [herror, hv]
      exact iff_of_false (fun h => by cases h) (fun h => by cases h)
  · rcases integer_cases o key with ⟨-, herror⟩ | ⟨-, ⟨n, hok⟩ | ⟨text, herror⟩⟩
    · exact .inl (Except.error.inj (he.symm.trans herror))
    · cases he.symm.trans hok
    · exact .inr ⟨text, Except.error.inj (he.symm.trans herror)⟩

/-- The least integer of 64 bits is a float, and is answered as it is. -/
theorem integer_least :
    (∀ m, (ofPairs [("ch", .int Bounds.least64)]).get? "ch" = some (.number m) → m.Proper) ∧
      (ofPairs [("ch", .int Bounds.least64)]).integer "ch" = .ok Bounds.least64 := by
  have hproper : ∀ m, (ofPairs [("ch", .int Bounds.least64)]).get? "ch" = some (.number m) → m.Proper := by
    intro m hm
    obtain rfl : Number.int Bounds.least64 = m := Json.number.inj (Option.some.inj hm)
    exact ⟨by decide, by decide⟩
  have hspans : Spans 53 Bounds.least64 := ⟨1, 63, by decide, by decide⟩
  exact ⟨hproper, ((integer_of_value hproper).2.1 Bounds.least64 rfl).2 (.inr ⟨hspans, by decide, by decide⟩)⟩

/-- `2 ^ 53 + 1` is no float, and its neighbour is answered. -/
theorem integer_not_exact :
    ¬ ∀ (o : Options) (key : String) (i : Int),
      o.get? key = some (.number (.int i)) → Within i → o.integer key = .ok i := by
  intro hexact
  have hneighbour : (ofPairs [("ch", .int 9007199254740993)]).integer "ch" = .ok 9007199254740992 :=
    toOption_eq_some_iff.1 (by decide +kernel)
  have hsame := hexact (ofPairs [("ch", .int 9007199254740993)]) "ch" 9007199254740993 rfl ⟨by decide, by decide⟩
  cases hneighbour.symm.trans hsame

end DetectorControl.Options
