import DetectorControl.Json.Tree
import DetectorControl.Proofs.Json.Numbers
import DetectorControl.Proofs.Json.Strings

/-!
# Written values are read

The text of a value has the tree of that value (`parse?_compact`), with the numbers as they are read.
The tokens of a value stand between: the scanner makes them of the text (`run?_spell`), and the
builder makes the tree of them (`run?_tokens`).
-/

namespace DetectorControl

def Number.tree (n : Number) : Json.Tree :=
  match n.token with
  | .number m => .number m
  | _ => .null

namespace Json

mutual

def tokens : Json → List Token
  | .null => [.null]
  | .bool b => [.bool b]
  | .number n => [n.token]
  | .string s => [.string (some s)]
  | .array [] => [.open false, .close false]
  | .array (v :: vs) => .open false :: (tokens v ++ (tokensOfItems vs ++ [.close false]))
  | .object [] => [.open true, .close true]
  | .object ((k, v) :: ms) =>
    .open true :: .string (some k) :: .colon :: (tokens v ++ (tokensOfMembers ms ++ [.close true]))

def tokensOfItems : List Json → List Token
  | [] => []
  | v :: vs => .comma :: (tokens v ++ tokensOfItems vs)

def tokensOfMembers : List (String × Json) → List Token
  | [] => []
  | (k, v) :: ms => .comma :: .string (some k) :: .colon :: (tokens v ++ tokensOfMembers ms)

end

mutual

def tree : Json → Tree
  | .null => .null
  | .bool b => .bool b
  | .number n => n.tree
  | .string s => .string (some s)
  | .array items => .array (treesOfItems items)
  | .object members => .object (treesOfMembers members)

def treesOfItems : List Json → List Tree
  | [] => []
  | v :: vs => tree v :: treesOfItems vs

def treesOfMembers : List (String × Json) → List (Option String × Tree)
  | [] => []
  | (k, v) :: ms => (some k, tree v) :: treesOfMembers ms

end

/-! ## From characters to tokens -/

namespace Scanner

theorem run?_of_start? {c : Char} (hc : c.toNat < 128) {t : Token}
    (h : start? (UInt8.ofNat c.toNat) = some (.between, some t)) (tokens : List Token) (cs : List Char)
    (rest : Bytes) :
    between.run? tokens (Bytes.encode (c :: cs) ++ rest) =
      between.run? (t :: tokens) (Bytes.encode cs ++ rest) := by
  rw [Bytes.encode_cons_of_lt hc, List.cons_append, run?, step?, h]
  rfl

theorem ends_items (vs : List Json) (rest : Bytes) :
    Ends (Bytes.encode (spellItems vs ++ [']']) ++ rest) := by
  cases vs with
  | nil => exact .inr (.inl rfl)
  | cons v vs => exact .inl rfl

theorem ends_members (ms : List (String × Json)) (rest : Bytes) :
    Ends (Bytes.encode (spellMembers ms ++ ['\x7d']) ++ rest) := by
  cases ms with
  | nil => exact .inr (.inr rfl)
  | cons m ms => exact .inl rfl

mutual

/-- The text of a value is read as its tokens. -/
theorem run?_spell (v : Json) (ts : List Token) {rest : Bytes} (hrest : Ends rest) :
    between.run? ts (Bytes.encode (spell v) ++ rest) = between.run? ((tokens v).reverse ++ ts) rest := by
  cases v with
  | null => rfl
  | bool b => cases b <;> rfl
  | number n =>
    rw [spell, ← Bytes.ofString_eq, n.run?_write ts hrest, tokens]
    rfl
  | string s =>
    rw [spell, run?_spellString, tokens]
    rfl
  | array items =>
    cases items with
    | nil => rfl
    | cons v vs =>
      have hitems := ends_items vs rest
      have hclose : Ends (Bytes.encode [']'] ++ rest) := .inr (.inl rfl)
      rw [spell, run?_of_start? (t := .open false) (by decide) rfl, Bytes.encode_append,
        List.append_assoc, run?_spell v _ hitems, Bytes.encode_append, List.append_assoc,
        run?_spellItems vs _ hclose, run?_of_start? (t := .close false) (by decide) rfl,
        tokens]
      simp
  | object members =>
    cases members with
    | nil => rfl
    | cons m ms =>
      obtain ⟨k, v⟩ := m
      have hmembers := ends_members ms rest
      have hclose : Ends (Bytes.encode ['\x7d'] ++ rest) := .inr (.inr rfl)
      rw [spell, run?_of_start? (t := .open true) (by decide) rfl, Bytes.encode_append,
        List.append_assoc, run?_spellString, run?_of_start? (t := .colon) (by decide) rfl,
        Bytes.encode_append, List.append_assoc, run?_spell v _ hmembers, Bytes.encode_append,
        List.append_assoc, run?_spellMembers ms _ hclose,
        run?_of_start? (t := .close true) (by decide) rfl, tokens]
      simp

theorem run?_spellItems (vs : List Json) (ts : List Token) {rest : Bytes} (hrest : Ends rest) :
    between.run? ts (Bytes.encode (spellItems vs) ++ rest) =
      between.run? ((tokensOfItems vs).reverse ++ ts) rest := by
  cases vs with
  | nil => rfl
  | cons v vs =>
    have hitems : Ends (Bytes.encode (spellItems vs) ++ rest) := by
      cases vs with
      | nil => exact hrest
      | cons v vs => exact .inl rfl
    rw [spellItems, run?_of_start? (t := .comma) (by decide) rfl, Bytes.encode_append,
      List.append_assoc, run?_spell v _ hitems, run?_spellItems vs _ hrest, tokensOfItems]
    simp

theorem run?_spellMembers (ms : List (String × Json)) (ts : List Token) {rest : Bytes}
    (hrest : Ends rest) :
    between.run? ts (Bytes.encode (spellMembers ms) ++ rest) =
      between.run? ((tokensOfMembers ms).reverse ++ ts) rest := by
  cases ms with
  | nil => rfl
  | cons m ms =>
    obtain ⟨k, v⟩ := m
    have hmembers : Ends (Bytes.encode (spellMembers ms) ++ rest) := by
      cases ms with
      | nil => exact hrest
      | cons m ms => exact .inl rfl
    rw [spellMembers, run?_of_start? (t := .comma) (by decide) rfl, Bytes.encode_append,
      List.append_assoc, run?_spellString, run?_of_start? (t := .colon) (by decide) rfl,
      Bytes.encode_append, List.append_assoc, run?_spell v _ hmembers, run?_spellMembers ms _ hrest,
      tokensOfMembers]
    simp

end

end Scanner

theorem tokens?_compact (v : Json) : tokens? (Bytes.ofString v.compact) = some (tokens v) := by
  have hends : Scanner.Ends [] := trivial
  have h := Scanner.run?_spell v [] hends
  rw [List.append_nil, List.append_nil] at h
  rw [tokens?, Bytes.ofString_eq, toList_compact, h]
  show some (([] ++ (tokens v).reverse).reverse) = _
  rw [List.nil_append, List.reverse_reverse]

/-! ## From tokens to a tree -/

namespace Builder

theorem tokens_eq_cons (v : Json) : ∃ t ts, tokens v = t :: ts ∧ t ≠ .close false := by
  match v with
  | .number n =>
    refine ⟨n.token, [], by rw [tokens], ?_⟩
    rcases n.token_cases with ⟨m, h⟩ | h <;> rw [h] <;> nofun
  | .null | .bool _ | .string _ | .array [] | .array (_ :: _) | .object [] | .object (_ :: _) =>
    rw [tokens]
    exact ⟨_, _, rfl, nofun⟩

theorem run?_firstItem (around : List Enclosing) (v : Json) (rest : List Token) :
    (firstItem around).run? (tokens v ++ rest) =
      (value (.items [] :: around)).run? (tokens v ++ rest) := by
  obtain ⟨t, ts, ht, hne⟩ := tokens_eq_cons v
  have hstep : (firstItem around).step? t = (value (.items [] :: around)).step? t := by
    cases t with
    | close object =>
      cases object with
      | false => exact absurd rfl hne
      | true => rfl
    | _ => rfl
  rw [ht, List.cons_append, run?, run?, hstep]

mutual

/-- The tokens of a value complete its tree. -/
theorem run?_tokens (v : Json) (around : List Enclosing) (rest : List Token) :
    (value around).run? (tokens v ++ rest) = (complete (tree v) around).run? rest := by
  cases v with
  | null => rw [tokens, tree]; rfl
  | bool b => rw [tokens, tree]; rfl
  | number n =>
    rw [tokens, tree, Number.tree]
    rcases n.token_cases with ⟨m, h⟩ | h <;> rw [h] <;> rfl
  | string s => rw [tokens, tree]; rfl
  | array items =>
    cases items with
    | nil => rw [tokens, tree, treesOfItems]; rfl
    | cons v vs =>
      have hopen : (value around).step? (.open false) = some (firstItem around) := rfl
      rw [tokens, tree, treesOfItems, List.cons_append, run?, hopen]
      simp only [List.append_assoc]
      rw [run?_firstItem, run?_tokens v, complete, run?_items vs]
      show (complete (.array (_ ++ [_]).reverse) around).run? rest = _
      rw [List.reverse_append, List.reverse_reverse]
      rfl
  | object members =>
    cases members with
    | nil => rw [tokens, tree, treesOfMembers]; rfl
    | cons m ms =>
      obtain ⟨k, v⟩ := m
      rw [tokens, tree, treesOfMembers]
      simp only [List.cons_append, List.append_assoc]
      show (value (.member [] (some k) :: around)).run? (tokens v ++ _) = _
      rw [run?_tokens v, complete, run?_members ms]
      show (complete (.object (_ ++ [_]).reverse) around).run? rest = _
      rw [List.reverse_append, List.reverse_reverse]
      rfl

theorem run?_items (vs : List Json) (done : List Tree) (around : List Enclosing) (rest : List Token) :
    (separator (.items done) around).run? (tokensOfItems vs ++ rest) =
      (separator (.items ((treesOfItems vs).reverse ++ done)) around).run? rest := by
  cases vs with
  | nil => rfl
  | cons v vs =>
    rw [tokensOfItems, treesOfItems, List.cons_append, List.append_assoc]
    show (value (.items done :: around)).run? (tokens v ++ _) = _
    rw [run?_tokens v, complete, run?_items vs, List.reverse_cons, List.append_assoc]
    rfl

theorem run?_members (ms : List (String × Json)) (done : List (Option String × Tree))
    (around : List Enclosing) (rest : List Token) :
    (separator (.members done) around).run? (tokensOfMembers ms ++ rest) =
      (separator (.members ((treesOfMembers ms).reverse ++ done)) around).run? rest := by
  cases ms with
  | nil => rfl
  | cons m ms =>
    obtain ⟨k, v⟩ := m
    rw [tokensOfMembers, treesOfMembers]
    simp only [List.cons_append, List.append_assoc]
    show (value (.member done (some k) :: around)).run? (tokens v ++ _) = _
    rw [run?_tokens v, complete, run?_members ms, List.reverse_cons, List.append_assoc]
    rfl

end

end Builder

theorem parse?_compact (v : Json) : Tree.parse? (Bytes.ofString v.compact) = some (tree v) := by
  have hbuild := Builder.run?_tokens v [] []
  rw [List.append_nil] at hbuild
  have hfinished : (Builder.complete (tree v) []).run? [] = some (.finished (tree v)) := rfl
  unfold Tree.parse?
  rw [tokens?_compact]
  show ((Builder.value []).run? (tokens v)).bind _ = _
  rw [hbuild, hfinished]
  rfl

end Json

end DetectorControl
