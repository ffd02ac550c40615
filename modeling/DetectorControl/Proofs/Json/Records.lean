import DetectorControl.Json.Record
import DetectorControl.Proofs.Json.Rereading

/-!
# Records after their texts

The parts of a record that stands in a map are the entries of that map (`record?_ofValue`), and each
way to read a part reads it as before once its text was written and read.
-/

namespace DetectorControl.Json

namespace Tree

theorem ofMembers_eq_map (done : List (Option String × Tree)) (ms : List (String × Json)) :
    ofMembers done ms = done.reverse ++ ms.map fun m => (some m.1, ofValue m.2) := by
  induction ms generalizing done with
  | nil => rw [ofMembers, List.map_nil, List.append_nil]
  | cons m ms ih =>
    rw [ofMembers, ih, List.map_cons, List.reverse_cons, List.append_assoc]
    rfl

/-- What one name picks out of the members of an object. -/
theorem mapM_parts {names : List String} {f : String → Option (Option Tree)}
    {g : String → Option Tree} (h : ∀ name ∈ names, f name = some (g name)) :
    names.mapM f = some (names.map g) := by
  induction names with
  | nil => rfl
  | cons name rest ih =>
    rw [List.mapM_cons, h name (by simp), ih fun n hn => h n (by simp [hn])]
    rfl

theorem record?_ofValue {fields : Fields} (h : fields.Sorted) (names : List String) :
    record? names (ofValue (.object fields)) =
      some (names.map fun name => (fields.get? name).map ofValue) := by
  have hmembers : ofMembers [] fields = fields.map fun m => (some m.1, ofValue m.2) := by
    rw [ofMembers_eq_map, List.reverse_nil, List.nil_append]
  rw [ofValue, hmembers, record?, if_pos (by simp)]
  refine mapM_parts fun name _ => ?_
  have hfilter : (fields.map fun m => (some m.1, ofValue m.2)).filter (·.1 == some name) =
      (((fields.get? name).map fun v => (name, v)).toList).map fun m => (some m.1, ofValue m.2) := by
    rw [List.filter_map, ← Entries.filter_key h]
    exact congrArg _ (List.filter_congr fun m _ => rfl)
  rw [hfilter]
  cases fields.get? name <;> rfl

section
variable {v : Json}

theorem string?_again (v : Json) : string? (ofValue v.again) = string? (ofValue v) := by
  cases v <;> rfl

theorem choice?_again (v : Json) : choice? (ofValue v.again) = choice? (ofValue v) := by
  match v with
  | .null | .bool _ | .number _ | .string _ | .array _ | .object [] => rfl
  | .object ((k, u) :: m :: ms) =>
    obtain ⟨k', u'⟩ := m
    simp only [again, membersAgain, ofValue, ofMembers_eq_map]
    cases u <;> rfl
  | .object [(k, u)] =>
    cases u <;> rfl

theorem float?_again {x : Float} (h : float? (ofValue v) = some x) :
    ∃ y, float? (ofValue v.again) = some y := by
  cases v with
  | number n => exact ⟨n.again.toFloat, rfl⟩
  | _ => cases h

theorem int?_again {low high i : Int} (hlow : Bounds.least64 ≤ low) (hhigh : high ≤ Bounds.natural64)
    (h : int? low high (ofValue v) = some i) : int? low high (ofValue v.again) = some i := by
  cases v with
  | number n =>
    cases n with
    | float x => cases h
    | int j =>
      have hbounds : low ≤ j ∧ j ≤ high := by
        unfold int? at h
        simp only [ofValue] at h
        split at h
        · assumption
        · cases h
      have hagain : (Number.int j).again = .int j :=
        Number.again_eq (Number.token_int (by omega) (by omega))
      rw [again, hagain]
      exact h
  | _ => cases h

theorem nat?_again {high n : Nat} (hhigh : high ≤ Bounds.natural64)
    (h : nat? high (ofValue v) = some n) : nat? high (ofValue v.again) = some n := by
  obtain ⟨i, hi, rfl⟩ := Option.map_eq_some_iff.1 h
  rw [nat?, int?_again (by decide) (Int.ofNat_le.2 hhigh) hi]
  rfl

end

end Tree

end DetectorControl.Json
