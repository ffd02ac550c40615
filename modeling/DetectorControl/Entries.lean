/-!
# Sorted association lists

Maps whose order shows: lists of pairs with strictly increasing keys. Texts are ordered by code
points, which is the order of their UTF-8 bytes.
-/

universe u

namespace DetectorControl

/-- A map as the list of its entries. The operations keep the keys strictly increasing. -/
abbrev Entries (κ : Type) (α : Type u) := List (κ × α)

namespace Entries

variable {κ : Type} {α : Type u} [LT κ] [DecidableLT κ] [DecidableEq κ]

/-- Adds an entry, or replaces the one with the same key. -/
def insert (k : κ) (a : α) : Entries κ α → Entries κ α
  | [] => [(k, a)]
  | (k', a') :: rest =>
    if k < k' then (k, a) :: (k', a') :: rest
    else if k = k' then (k, a) :: rest
    else (k', a') :: insert k a rest

def get? (m : Entries κ α) (k : κ) : Option α :=
  (m.find? (·.1 = k)).map (·.2)

def erase (m : Entries κ α) (k : κ) : Entries κ α :=
  m.filter (·.1 ≠ k)

/-- The map of the pairs of a list; of pairs with the same key the last one counts. -/
def ofList (pairs : List (κ × α)) : Entries κ α :=
  pairs.foldl (fun m p => m.insert p.1 p.2) []

/-- Keys increase strictly. -/
def Sorted (m : Entries κ α) : Prop :=
  m.Pairwise (·.1 < ·.1)

omit [LT κ] [DecidableLT κ] in
@[simp] theorem get?_nil (k : κ) : get? ([] : Entries κ α) k = none := rfl

theorem get?_insert_self (m : Entries κ α) (k : κ) (a : α) : (m.insert k a).get? k = some a := by
  induction m with
  | nil => simp [insert, get?]
  | cons p rest ih =>
    obtain ⟨k', a'⟩ := p
    simp only [insert]
    split
    · simp [get?]
    · split
      · simp [get?]
      · rename_i hne
        simp only [get?, List.find?_cons, decide_eq_false (Ne.symm hne)] at ih ⊢
        exact ih

theorem get?_insert_of_ne (m : Entries κ α) {k k' : κ} (a : α) (h : k' ≠ k) :
    (m.insert k a).get? k' = m.get? k' := by
  induction m with
  | nil => simp [insert, get?, Ne.symm h]
  | cons p rest ih =>
    obtain ⟨k₁, a₁⟩ := p
    simp only [insert]
    split
    · simp [get?, List.find?_cons, Ne.symm h]
    · split
      · rename_i heq
        subst heq
        simp [get?, Ne.symm h]
      · simp only [get?, List.find?_cons] at ih ⊢
        split
        · rfl
        · exact ih

end Entries

end DetectorControl
