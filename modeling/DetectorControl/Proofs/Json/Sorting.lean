import DetectorControl.Proofs.Json.Records

/-!
# Values in order

A value that is handed on without a text has its members in order. It is the same value if they were
(`sorted_of_shaped`), what was put in under its name is found under its name (`record?_sorted`), and a value
that has its shape is read from its tree as it is (`value?_ofValue`).
-/

namespace DetectorControl.Json

theorem sortedItems_eq_map (vs : List Json) : sortedItems vs = vs.map sorted := by
  induction vs with
  | nil => rfl
  | cons v vs ih => rw [sortedItems, ih, List.map_cons]

section
variable {done : Fields} {ms : List (String × Json)} {depth : Nat}

theorem sorted_sortedMembers (h : done.Sorted) (ms : List (String × Json)) : (sortedMembers done ms).Sorted := by
  induction ms generalizing done with
  | nil => exact h
  | cons m ms ih => exact ih (Entries.sorted_insert h)

theorem mem_sortedMembers {e : String × Json} (h : e ∈ sortedMembers done ms) :
    e ∈ done ∨ ∃ m ∈ ms, e = (m.1, m.2.sorted) := by
  induction ms generalizing done with
  | nil => exact .inl h
  | cons m ms ih =>
    rcases ih h with hdone | ⟨m', hm', he⟩
    · rcases Entries.mem_insert hdone with rfl | hdone
      · exact .inr ⟨m, by simp, rfl⟩
      · exact .inl hdone
    · exact .inr ⟨m', by simp [hm'], he⟩

theorem sortedMembers_of_sorted (hsorted : Entries.Sorted ms) (hdone : ∀ e ∈ done, ∀ m ∈ ms, e.1 < m.1) :
    sortedMembers done ms = done ++ ms.map fun m => (m.1, m.2.sorted) := by
  induction ms generalizing done with
  | nil => rw [List.map_nil, List.append_nil]; rfl
  | cons m ms ih =>
    have hms : Entries.Sorted ms := (List.pairwise_cons.1 hsorted).2
    rw [sortedMembers, Entries.insert_eq_append fun e he => hdone e he m (by simp),
      ih hms (Entries.forall_lt_concat hsorted hdone m.2.sorted), List.append_assoc]
    rfl

theorem filter_sortedMembers (p : String → Bool) (h : done.Sorted) (ms : List (String × Json)) :
    (sortedMembers done ms).filter (fun e => p e.1) =
      sortedMembers (done.filter fun e => p e.1) (ms.filter fun m => p m.1) := by
  induction ms generalizing done with
  | nil => rfl
  | cons m ms ih =>
    rw [sortedMembers, ih (Entries.sorted_insert h), Entries.filter_insert p h]
    by_cases hm : p m.1 = true
    · rw [if_pos hm, List.filter_cons, if_pos hm]
      rfl
    · rw [if_neg hm, List.filter_cons, if_neg hm]

/-- Of members with different keys each is found in the order, whatever it was put in front of. -/
theorem get?_sortedMembers (hdistinct : (ms.map (·.1)).Nodup) (key : String) :
    (sortedMembers done ms).get? key = ((Entries.get? ms key).map sorted).or (done.get? key) := by
  induction ms generalizing done with
  | nil => rfl
  | cons m ms ih =>
    obtain ⟨k, v⟩ := m
    obtain ⟨hk, hms⟩ := List.nodup_cons.1 hdistinct
    rw [sortedMembers, ih hms]
    by_cases hkey : k = key
    · subst hkey
      have hnone : Entries.get? ms k = none := by
        refine Entries.get?_eq_none ?_
        rintro e he rfl
        exact hk (List.mem_map.2 ⟨e, he, rfl⟩)
      rw [hnone, Entries.get?_insert_self]
      simp [Entries.get?]
    · rw [Entries.get?_insert_of_ne _ _ (Ne.symm hkey)]
      simp [Entries.get?, hkey]

theorem shaped_sorted_object (h : ∀ m ∈ ms, Shaped depth m.2.sorted) :
    Shaped (depth + 1) (Json.object ms).sorted := by
  refine .object (sorted_sortedMembers .nil ms) ?_
  intro e he
  rcases mem_sortedMembers he with hnil | ⟨m, hm, rfl⟩
  · cases hnil
  · exact h m hm

theorem sorted_of_shaped {v : Json} (h : Shaped depth v) : v.sorted = v := by
  induction h with
  | null => rfl
  | bool b => rfl
  | number hn => rfl
  | string s => rfl
  | @array _ items _ ih =>
    have hitems : items.map sorted = items := (List.map_congr_left (g := id) ih).trans (List.map_id items)
    rw [sorted, sortedItems_eq_map, hitems]
  | @object _ members hsorted _ ih =>
    have hmembers : (members.map fun m => (m.1, m.2.sorted)) = members := by
      refine (List.map_congr_left fun m hm => ?_).trans (List.map_id members)
      rw [ih m hm]
      rfl
    rw [sorted, sortedMembers_of_sorted hsorted (by simp), hmembers]
    rfl

end

namespace Tree
variable {depth : Nat} {v : Json}

theorem ofValues_eq_map (done : List Tree) (vs : List Json) : ofValues done vs = done.reverse ++ vs.map ofValue := by
  induction vs generalizing done with
  | nil => rw [ofValues, List.map_nil, List.append_nil]
  | cons v vs ih =>
    rw [ofValues, ih, List.map_cons, List.reverse_cons, List.append_assoc]
    rfl

theorem value?_ofValue (h : Shaped depth v) : (ofValue v).value? depth = some v := by
  induction h with
  | null => rfl
  | bool b => rfl
  | number hn => rfl
  | string s => rfl
  | array _ ih =>
    rw [ofValue, ofValues_eq_map, List.reverse_nil, List.nil_append, value?, values?_map (g := id) ih]
    simp
  | object hsorted _ ih =>
    rw [ofValue, ofMembers_eq_map, List.reverse_nil, List.nil_append, value?,
      fields?_map (g := id) hsorted ih (by simp)]
    simp

/-- The parts of a record that is handed on in order. -/
theorem record?_sorted {ms : List (String × Json)} (hdistinct : (ms.map (·.1)).Nodup) (names : List String) :
    record? names (ofValue (Json.object ms).sorted) =
      some (names.map fun name => (Entries.get? ms name).map fun v => ofValue v.sorted) := by
  rw [sorted, record?_ofValue (sorted_sortedMembers .nil ms)]
  refine congrArg some (List.map_congr_left fun name _ => ?_)
  rw [get?_sortedMembers hdistinct, Entries.get?_nil, Option.or_none, Option.map_map]
  rfl

/-! ## Answers -/

/-- There is an answer if the condition holds, and then it is this one. -/
def AnsweredIf {α : Type} (P : Prop) (a : α) (answer : Option α) : Prop :=
  (P → answer = some a) ∧ (¬ P → answer = none)

namespace AnsweredIf
variable {α β : Type} {P Q : Prop} {a : α} {b : β} {answer : Option α}

theorem congr (h : AnsweredIf P a answer) (hiff : Q ↔ P) : AnsweredIf Q a answer :=
  ⟨fun hq => h.1 (hiff.1 hq), fun hq => h.2 (mt hiff.2 hq)⟩

theorem some (a : α) : AnsweredIf True a (some a) := ⟨fun _ => rfl, fun h => absurd trivial h⟩

theorem map (h : AnsweredIf P a answer) (f : α → β) : AnsweredIf P (f a) (answer.map f) := by
  refine ⟨fun hp => ?_, fun hp => ?_⟩
  · rw [h.1 hp]
    rfl
  · rw [h.2 hp]
    rfl

theorem bind (h : AnsweredIf P a answer) {f : α → Option β} (hf : AnsweredIf Q b (f a)) :
    AnsweredIf (P ∧ Q) b (answer.bind f) := by
  refine ⟨fun ⟨hp, hq⟩ => ?_, fun hpq => ?_⟩
  · rw [h.1 hp]
    exact hf.1 hq
  · by_cases hp : P
    · rw [h.1 hp]
      exact hf.2 fun hq => hpq ⟨hp, hq⟩
    · rw [h.2 hp]
      rfl

end AnsweredIf

theorem float?_float (x : Float) : AnsweredIf (x.isFinite = true) x (float? (ofValue (Json.float x).sorted)) := by
  refine ⟨fun hx => ?_, fun hx => ?_⟩
  · rw [Json.float, if_pos hx]
    rfl
  · rw [Json.float, if_neg hx]
    rfl

theorem nat?_nat {n high : Nat} (h : n ≤ high) : nat? high (ofValue (Json.nat n).sorted) = some n := by
  show Option.map Int.toNat (if (0 : Int) ≤ n ∧ (n : Int) ≤ high then some (n : Int) else none) = _
  rw [if_pos ⟨Int.natCast_nonneg n, Int.ofNat_le.2 h⟩]
  rfl

theorem members?_sorted {α : Type} {read? : Tree → Option α} {write : α → Json} {P : α → Prop}
    {entries : Entries String α} (hsorted : entries.Sorted)
    (h : ∀ e ∈ entries, AnsweredIf (P e.2) e.2 (read? (ofValue (write e.2).sorted))) :
    AnsweredIf (∀ e ∈ entries, P e.2) entries
      (members? read? (ofValue (Json.object (entries.map fun e => (e.1, write e.2))).sorted)) := by
  have hmembers : (Json.object (entries.map fun e => (e.1, write e.2))).sorted =
      .object (entries.map fun e => (e.1, (write e.2).sorted)) := by
    rw [sorted, sortedMembers_of_sorted (Entries.sorted_map write hsorted) (by simp), List.map_map]
    rfl
  -- those that are read stand in front
  suffices hgo : ∀ done : Entries String α, (∀ e ∈ done, ∀ e' ∈ entries, e.1 < e'.1) →
      AnsweredIf (∀ e ∈ entries, P e.2) (done ++ entries)
        (members?.go read? done (entries.map fun e => (some e.1, ofValue (write e.2).sorted))) by
    have hall := hgo [] (by simp)
    rw [hmembers, ofValue, ofMembers_eq_map, List.map_map]
    exact hall
  clear hmembers
  induction entries with
  | nil =>
    intro done _
    rw [List.append_nil]
    exact ⟨fun _ => rfl, fun hall => absurd (by simp) hall⟩
  | cons e rest ih =>
    intro done hdone
    have hrest : Entries.Sorted rest := (List.pairwise_cons.1 hsorted).2
    have hread := h e (by simp)
    by_cases hp : P e.2
    · have hlater := ih hrest (fun e' he' => h e' (by simp [he'])) (done ++ [e])
        (Entries.forall_lt_concat hsorted hdone e.2)
      rw [List.append_assoc] at hlater
      simp only [List.map_cons, members?.go, hread.1 hp,
        Entries.insert_eq_append fun e' he' => hdone e' he' e (by simp)]
      exact hlater.congr (by simp [hp])
    · simp only [List.map_cons, members?.go, hread.2 hp]
      exact ⟨fun hall => absurd (hall e (by simp)) hp, fun _ => rfl⟩

end Tree

end DetectorControl.Json
