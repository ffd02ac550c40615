import DetectorControl.Text.Split

/-!
# Parts of a text

A text is cut at the first separator (`cut_cases`, `cut_append`) or at every one (`split_eq_splitOn`).
-/

namespace DetectorControl.Text
variable {separator : Char}

theorem cut_cases (separator : Char) (cs : List Char) :
    separator ∉ cs ∧ cs.dropWhile (· != separator) = [] ∨
      ∃ front back, separator ∉ front ∧ cs = front ++ separator :: back ∧
        cs.dropWhile (· != separator) = separator :: back ∧ cs.takeWhile (· != separator) = front := by
  induction cs with
  | nil => exact .inl ⟨List.not_mem_nil, rfl⟩
  | cons c cs ih =>
    by_cases hc : c = separator
    · subst hc
      exact .inr ⟨[], cs, List.not_mem_nil, rfl, by simp, by simp⟩
    · have hne : (c != separator) = true := by simpa using hc
      rw [List.dropWhile_cons, List.takeWhile_cons, if_pos hne, if_pos hne]
      rcases ih with ⟨hnone, hdrop⟩ | ⟨front, back, hfront, hsplit, hdrop, htake⟩
      · exact .inl ⟨by simp [Ne.symm hc, hnone], hdrop⟩
      · exact .inr ⟨c :: front, back, by simp [Ne.symm hc, hfront], by rw [hsplit]; rfl, hdrop,
          by rw [htake]⟩

theorem cut_append {front : List Char} (h : separator ∉ front) (back : List Char) :
    (front ++ separator :: back).dropWhile (· != separator) = separator :: back ∧
      (front ++ separator :: back).takeWhile (· != separator) = front := by
  have hall : ∀ c ∈ front, (c != separator) = true := by
    intro c hc
    rw [bne_iff_ne]
    rintro rfl
    exact h hc
  rw [List.dropWhile_append_of_pos hall, List.takeWhile_append_of_pos hall]
  simp

theorem splitList_eq (part cs : List Char) :
    splitList separator part cs = (cs.splitOnPPrepend (· == separator) part).map String.ofList := by
  induction cs generalizing part with
  | nil => rfl
  | cons c cs ih =>
    rw [splitList, List.splitOnPPrepend_cons_eq_if]
    by_cases hc : c = separator
    · rw [if_pos hc, if_pos (beq_iff_eq.2 hc), List.map_cons, ih]
      rfl
    · rw [if_neg hc, if_neg (by simpa using hc), ih]

theorem split_eq_splitOn (s : String) : split separator s = (s.toList.splitOn separator).map String.ofList :=
  splitList_eq [] s.toList

end DetectorControl.Text
