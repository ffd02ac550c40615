import DetectorControl.Text.Blank
import Mathlib.Data.List.TakeWhile

/-!
# Trimming

A text is trimmed to what has no blank at either end and has nothing but blanks around it
(`trimList_eq_iff`): one that begins and ends with something else is left as it is, and trimming twice is
trimming once.
-/

namespace DetectorControl.Text
variable {cs ds : List Char} {s : String}

theorem dropWhile_eq_self {p : Char → Bool} {cs : List Char} (h : ∀ c ∈ cs.head?, p c = false) :
    cs.dropWhile p = cs := by
  cases cs with
  | nil => rfl
  | cons c cs => rw [List.dropWhile_cons, if_neg (by simp [h c rfl])]

theorem head?_dropWhile (p : Char → Bool) (cs : List Char) : ∀ c ∈ (cs.dropWhile p).head?, p c = false := by
  intro c hc
  have hhead := List.head?_dropWhile_not p cs
  rwa [Option.mem_def.1 hc] at hhead

/-- Every character is blank. -/
def Blank (cs : List Char) : Prop :=
  ∀ c ∈ cs, isBlank c = true

/-- There is no blank at either end. -/
structure Trimmed (cs : List Char) : Prop where
  first : ∀ c ∈ cs.head?, isBlank c = false
  last : ∀ c ∈ cs.getLast?, isBlank c = false

namespace Trimmed

theorem nil : Trimmed [] := ⟨nofun, nofun⟩

theorem of_forall (h : ∀ c ∈ cs, isBlank c = false) : Trimmed cs :=
  ⟨fun c hc => h c (List.mem_of_mem_head? hc), fun c hc => h c (List.mem_of_mem_getLast? hc)⟩

theorem trimList (h : Trimmed cs) : trimList cs = cs := by
  have hreverse : ∀ c ∈ cs.reverse.head?, isBlank c = false := by
    rw [List.head?_reverse]
    exact h.last
  rw [Text.trimList, dropWhile_eq_self h.first, dropWhile_eq_self hreverse, List.reverse_reverse]

theorem append (h : Trimmed cs) (h' : Trimmed ds) : Trimmed (cs ++ ds) := by
  refine ⟨fun c hc => ?_, fun c hc => ?_⟩
  · rw [List.head?_append] at hc
    rcases Option.or_eq_some_iff.1 hc with hc | ⟨-, hc⟩
    · exact h.first c hc
    · exact h'.first c hc
  · rw [List.getLast?_append] at hc
    rcases Option.or_eq_some_iff.1 hc with hc | ⟨-, hc⟩
    · exact h'.last c hc
    · exact h.last c hc

end Trimmed

theorem trimmed_trimList (cs : List Char) : Trimmed (trimList cs) := by
  refine ⟨fun c hc => ?_, fun c hc => ?_⟩
  · -- what is cut off the back leaves the first character where it is
    obtain ⟨rest, hrest⟩ := List.dropWhile_suffix isBlank (l := (cs.dropWhile isBlank).reverse)
    have hprefix : trimList cs ++ rest.reverse = cs.dropWhile isBlank := by
      rw [← List.reverse_inj, List.reverse_append, List.reverse_reverse, trimList, List.reverse_reverse, hrest]
    refine head?_dropWhile isBlank cs c ?_
    rw [← hprefix, List.head?_append, Option.mem_def.1 hc]
    rfl
  · rw [trimList, List.getLast?_reverse] at hc
    exact head?_dropWhile isBlank _ c hc

theorem trimList_pad {front back : List Char} (hfront : Blank front) (hback : Blank back) (h : Trimmed cs) :
    trimList (front ++ cs ++ back) = cs := by
  have hreverse : ∀ c ∈ back.reverse, isBlank c = true := fun c hc => hback c (List.mem_reverse.1 hc)
  rw [trimList, List.append_assoc, List.dropWhile_append_of_pos hfront]
  cases cs with
  | nil =>
    rw [List.nil_append, List.dropWhile_eq_nil_iff.2 hback]
    rfl
  | cons c cs =>
    have hlast : ∀ c' ∈ (c :: cs).reverse.head?, isBlank c' = false := by
      rw [List.head?_reverse]
      exact h.last
    have hfirst : ∀ c' ∈ (c :: cs ++ back).head?, isBlank c' = false := h.first
    rw [dropWhile_eq_self hfirst, List.reverse_append, List.dropWhile_append_of_pos hreverse,
      dropWhile_eq_self hlast, List.reverse_reverse]

theorem exists_trimList (cs : List Char) :
    ∃ front back, Blank front ∧ Blank back ∧ cs = front ++ trimList cs ++ back := by
  refine ⟨cs.takeWhile isBlank, ((cs.dropWhile isBlank).reverse.takeWhile isBlank).reverse, ?_, ?_, ?_⟩
  · exact fun c hc => List.mem_takeWhile_imp hc
  · exact fun c hc => List.mem_takeWhile_imp (List.mem_reverse.1 hc)
  · have hback : trimList cs ++ ((cs.dropWhile isBlank).reverse.takeWhile isBlank).reverse = cs.dropWhile isBlank := by
      rw [trimList, ← List.reverse_append, List.takeWhile_append_dropWhile, List.reverse_reverse]
    rw [List.append_assoc, hback, List.takeWhile_append_dropWhile]

theorem trimList_eq_iff : trimList cs = ds ↔
    Trimmed ds ∧ ∃ front back, Blank front ∧ Blank back ∧ cs = front ++ ds ++ back := by
  constructor
  · rintro rfl
    exact ⟨trimmed_trimList cs, exists_trimList cs⟩
  · rintro ⟨h, front, back, hfront, hback, rfl⟩
    exact trimList_pad hfront hback h

/-! ## Texts -/

theorem trim_eq_self (hfirst : ∀ c ∈ s.toList.head?, isBlank c = false)
    (hlast : ∀ c ∈ s.toList.getLast?, isBlank c = false) : trim s = s := by
  rw [trim, Trimmed.trimList ⟨hfirst, hlast⟩, String.ofList_toList]

theorem toList_trim (s : String) : (trim s).toList = trimList s.toList := String.toList_ofList

theorem trimmed_trim (s : String) : Trimmed (trim s).toList := by
  rw [toList_trim]
  exact trimmed_trimList s.toList

theorem trim_ne_empty_iff : trim s ≠ "" ↔ ∃ c ∈ s.toList, isBlank c = false := by
  have hempty : trim s = "" ↔ Blank s.toList := by
    rw [← String.toList_inj, toList_trim, trimList_eq_iff]
    constructor
    · rintro ⟨-, front, back, hfront, hback, hs⟩ c hc
      rw [hs, String.toList_empty, List.append_nil] at hc
      exact (List.mem_append.1 hc).elim (hfront c) (hback c)
    · exact fun h => ⟨.nil, s.toList, [], h, nofun, by simp⟩
  rw [Ne, hempty]
  simp [Blank]

end DetectorControl.Text
