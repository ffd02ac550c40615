import DetectorControl.Entries

/-!
# Maps by text

The operations on maps whose keys are texts keep the keys increasing, so that each key stands in one
place (`filter_key`). A map built up in the order of its keys is the list of what was added.
-/

universe u v

namespace DetectorControl.Entries
variable {α : Type u} {β : Type v} {m : Entries String α} {k : String} {a : α}

theorem mem_insert {κ : Type} [LT κ] [DecidableLT κ] [DecidableEq κ] {m : Entries κ α} {k : κ} {a : α} {e : κ × α}
    (h : e ∈ m.insert k a) : e = (k, a) ∨ e ∈ m := by
  induction m with
  | nil => exact .inl (List.mem_singleton.1 h)
  | cons p rest ih =>
    unfold insert at h
    split at h
    · exact List.mem_cons.1 h
    · split at h
      · rcases List.mem_cons.1 h with h | h
        · exact .inl h
        · exact .inr (List.mem_cons_of_mem _ h)
      · rcases List.mem_cons.1 h with h | h
        · exact .inr (h ▸ List.mem_cons_self)
        · exact (ih h).imp_right (List.mem_cons_of_mem _)

section
variable {κ : Type} [LT κ] [DecidableLT κ] [DecidableEq κ] [LE κ] [Std.IsLinearOrder κ] [Std.LawfulOrderLT κ]
  {m : Entries κ α} {k k' : κ}

omit [DecidableLT κ] [DecidableEq κ] in
theorem lt_of_not_lt_of_ne (h : ¬ k < k') (hne : k ≠ k') : k' < k :=
  Std.lt_of_le_of_ne (Std.not_lt.1 h) hne.symm

theorem sorted_insert (h : m.Sorted) : (m.insert k a).Sorted := by
  induction m with
  | nil => exact List.pairwise_singleton ..
  | cons p rest ih =>
    obtain ⟨hp, hrest⟩ := List.pairwise_cons.1 h
    unfold insert
    split
    · rename_i hlt
      refine List.pairwise_cons.2 ⟨fun e he => ?_, h⟩
      rcases List.mem_cons.1 he with rfl | he
      · exact hlt
      · exact Std.lt_trans hlt (hp e he)
    · split
      · rename_i heq
        exact List.pairwise_cons.2 ⟨fun e he => heq ▸ hp e he, hrest⟩
      · rename_i hlt hne
        refine List.pairwise_cons.2 ⟨fun e he => ?_, ih hrest⟩
        rcases mem_insert he with rfl | he
        · exact lt_of_not_lt_of_ne hlt hne
        · exact hp e he

omit [DecidableLT κ] [Std.IsLinearOrder κ] in
/-- In a map whose keys increase every entry is found under its key. -/
theorem get?_of_mem (h : m.Sorted) {e : κ × α} (he : e ∈ m) : m.get? e.1 = some e.2 := by
  induction m with
  | nil => cases he
  | cons p rest ih =>
    obtain ⟨hp, hrest⟩ := List.pairwise_cons.1 h
    unfold get? at ih ⊢
    rcases List.mem_cons.1 he with rfl | he
    · simp
    · have hne : p.1 ≠ e.1 := fun heq => Std.lt_irrefl (heq ▸ hp e he)
      rw [List.find?_cons_of_neg (by simpa using hne)]
      exact ih hrest he

end

theorem sorted_ofList (pairs : List (String × α)) : (ofList pairs).Sorted := by
  suffices hfold : ∀ m : Entries String α, m.Sorted → (pairs.foldl (fun m p => m.insert p.1 p.2) m).Sorted from
    hfold [] .nil
  induction pairs with
  | nil => exact fun m hm => hm
  | cons p rest ih => exact fun m hm => ih _ (sorted_insert hm)

theorem insert_insert (m : Entries String α) (k : String) (a b : α) : (m.insert k a).insert k b = m.insert k b := by
  have hself : ¬ k < k := String.lt_irrefl k
  induction m with
  | nil => simp only [insert, hself, if_false, if_true]
  | cons p rest ih =>
    obtain ⟨k', a'⟩ := p
    by_cases hlt : k < k'
    · simp only [insert, hlt, hself, if_false, if_true]
    · by_cases heq : k = k'
      · subst heq
        simp only [insert, hself, if_false, if_true]
      · simp only [insert, hlt, heq, if_false, ih]

theorem insert_comm {k k' : String} (h : k ≠ k') (m : Entries String α) (a b : α) :
    (m.insert k a).insert k' b = (m.insert k' b).insert k a := by
  induction m with
  | nil =>
    by_cases hlt : k < k'
    · have hnlt := String.lt_asymm hlt
      simp [insert, hlt, hnlt, h.symm]
    · have hlt' := lt_of_not_lt_of_ne hlt h
      simp [insert, hlt, hlt', h]
  | cons p rest ih =>
    obtain ⟨k₁, a₁⟩ := p
    grind [insert, String.lt_trans, String.lt_asymm, lt_of_not_lt_of_ne]

/-- What is put in the place of an entry stands there as if it had come in that entry's turn. -/
theorem insert_foldl_insert {back : List (String × α)} (h : ∀ p ∈ back, p.1 ≠ k) (m : Entries String α) (a b : α) :
    (back.foldl (fun m p => m.insert p.1 p.2) (m.insert k a)).insert k b =
      back.foldl (fun m p => m.insert p.1 p.2) (m.insert k b) := by
  induction back generalizing m with
  | nil => exact insert_insert ..
  | cons p rest ih =>
    have hp : p.1 ≠ k := h p List.mem_cons_self
    rw [List.foldl_cons, List.foldl_cons, insert_comm hp.symm, insert_comm hp.symm,
      ih fun q hq => h q (List.mem_cons_of_mem p hq)]

theorem get?_foldl_insert {back : List (String × α)} (h : ∀ p ∈ back, p.1 ≠ k) (m : Entries String α) :
    (back.foldl (fun m p => m.insert p.1 p.2) m).get? k = m.get? k := by
  induction back generalizing m with
  | nil => rfl
  | cons p rest ih =>
    rw [List.foldl_cons, ih fun q hq => h q (List.mem_cons_of_mem p hq),
      get?_insert_of_ne m p.2 (h p List.mem_cons_self).symm]

theorem insert_eq_append (h : ∀ e ∈ m, e.1 < k) : m.insert k a = m ++ [(k, a)] := by
  induction m with
  | nil => rfl
  | cons p rest ih =>
    have hp : p.1 < k := h p (by simp)
    obtain ⟨k', a'⟩ := p
    rw [insert, if_neg (String.lt_asymm hp), if_neg (String.ne_of_lt hp).symm,
      ih fun e he => h e (by simp [he])]
    rfl

/-- In a map whose keys increase a key stands once. -/
theorem filter_key (h : m.Sorted) : m.filter (·.1 = k) = ((m.get? k).map fun a => (k, a)).toList := by
  induction m with
  | nil => rfl
  | cons p rest ih =>
    obtain ⟨k', a'⟩ := p
    obtain ⟨hp, hrest⟩ := List.pairwise_cons.1 h
    by_cases hk : k' = k
    · subst hk
      have hnone : rest.filter (·.1 = k') = [] := by
        rw [List.filter_eq_nil_iff]
        intro e he heq
        exact String.ne_of_lt (hp e he) (of_decide_eq_true heq).symm
      rw [List.filter_cons, if_pos (by simp), hnone]
      simp [get?]
    · rw [List.filter_cons, if_neg (by simp [hk]), ih hrest]
      simp [get?, hk]

theorem get?_mapWithKey (f : String → α → β) (m : Entries String α) (k : String) :
    get? (m.map fun e => (e.1, f e.1 e.2)) k = (m.get? k).map (f k) := by
  induction m with
  | nil => rfl
  | cons p rest ih =>
    unfold get? at ih ⊢
    by_cases hk : p.1 = k
    · simp [hk]
    · simpa [hk] using ih

theorem get?_map (f : α → β) (m : Entries String α) (k : String) :
    get? (m.map fun e => (e.1, f e.2)) k = (m.get? k).map f :=
  get?_mapWithKey (fun _ => f) m k

theorem insert_mapWithKey (f : String → α → β) (m : Entries String α) (k : String) (a : α) :
    (m.insert k a).map (fun e => (e.1, f e.1 e.2)) = insert k (f k a) (m.map fun e => (e.1, f e.1 e.2)) := by
  induction m with
  | nil => rfl
  | cons p rest ih =>
    rw [List.map_cons, insert, insert]
    split
    · rfl
    · split
      · rfl
      · rw [List.map_cons, ih]

/-- Other keys for the same entries. -/
theorem get?_mapKey {κ : Type} [DecidableEq κ] {f : κ → String} (hf : ∀ {k k'}, f k = f k' ↔ k = k')
    (m : List (κ × α)) (k : κ) : get? (m.map fun e => (f e.1, e.2)) (f k) = get? m k := by
  induction m with
  | nil => rfl
  | cons e rest ih =>
    unfold get? at ih ⊢
    by_cases hk : e.1 = k
    · simp [hk]
    · simpa [hk, hf] using ih

theorem get?_append (m m' : Entries String α) (k : String) : get? (m ++ m') k = (m.get? k).or (m'.get? k) := by
  unfold get?
  rw [List.find?_append]
  cases m.find? (·.1 = k) <;> rfl

theorem get?_eq_none (h : ∀ e ∈ m, e.1 ≠ k) : m.get? k = none := by
  rw [get?, Option.map_eq_none_iff, List.find?_eq_none]
  intro e he heq
  exact h e he (of_decide_eq_true heq)

/-- The first of sorted entries is put behind those in front of them all, which stay in front of the rest. -/
theorem forall_lt_concat {done : Entries String β} {e : String × α} {rest : Entries String α}
    (h : Sorted (e :: rest)) (hdone : ∀ d ∈ done, ∀ e' ∈ e :: rest, d.1 < e'.1) (b : β) :
    ∀ d ∈ done ++ [(e.1, b)], ∀ e' ∈ rest, d.1 < e'.1 := by
  intro d hd e' he'
  rcases List.mem_append.1 hd with hd | hd
  · exact hdone d hd e' (List.mem_cons_of_mem e he')
  · rw [List.mem_singleton.1 hd]
    exact (List.pairwise_cons.1 h).1 e' he'

theorem ofList_of_sorted (h : m.Sorted) : ofList m = m := by
  suffices hfold : ∀ done : Entries String α, (∀ e ∈ done, ∀ e' ∈ m, e.1 < e'.1) →
      m.foldl (fun m p => m.insert p.1 p.2) done = done ++ m from hfold [] (by simp)
  induction m with
  | nil =>
    intro done _
    rw [List.append_nil]
    rfl
  | cons e rest ih =>
    intro done hdone
    have hrest : Sorted rest := (List.pairwise_cons.1 h).2
    rw [List.foldl_cons, insert_eq_append fun d hd => hdone d hd e (by simp),
      ih hrest _ (forall_lt_concat h hdone e.2), List.append_assoc]
    rfl

theorem sorted_map (f : α → β) (h : m.Sorted) : Sorted (m.map fun e => (e.1, f e.2)) :=
  List.pairwise_map.2 h

theorem insert_of_forall_lt (h : ∀ e ∈ m, k < e.1) : m.insert k a = (k, a) :: m := by
  cases m with
  | nil => rfl
  | cons e rest => exact if_pos (h e (by simp))

/-- What is left out of a map by its key is left out before or after anything is added. -/
theorem filter_insert (p : String → Bool) (h : m.Sorted) :
    (m.insert k a).filter (fun e => p e.1) =
      if p k then insert k a (m.filter fun e => p e.1) else m.filter fun e => p e.1 := by
  induction m with
  | nil => simp [insert, List.filter_cons]
  | cons e rest ih =>
    obtain ⟨k', a'⟩ := e
    obtain ⟨hfirst, hrest⟩ := List.pairwise_cons.1 h
    by_cases hlt : k < k'
    · -- what comes in front of all comes in front of those that are left
      have hall : ∀ e ∈ (k', a') :: rest, k < e.1 := by
        intro e he
        rcases List.mem_cons.1 he with rfl | he
        · exact hlt
        · exact String.lt_trans hlt (hfirst e he)
      rw [insert_of_forall_lt hall, insert_of_forall_lt fun e he => hall e (List.mem_filter.1 he).1]
      exact List.filter_cons
    · by_cases heq : k = k'
      · subst heq
        rw [insert, if_neg hlt, if_pos rfl]
        by_cases hk : p k = true
        · simp [hk, insert]
        · simp [hk]
      · rw [insert, if_neg hlt, if_neg heq]
        by_cases hk' : p k' = true
        · by_cases hk : p k = true
          · simp [hk', ih hrest, hk, insert, hlt, heq]
          · simp [hk', ih hrest, hk]
        · simp [hk', ih hrest]

end DetectorControl.Entries
