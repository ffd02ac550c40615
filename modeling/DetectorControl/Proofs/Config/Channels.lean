import DetectorControl.Proofs.Config.Accepted
import DetectorControl.Proofs.Decimal.Scaling
import DetectorControl.Proofs.Entries
import DetectorControl.Proofs.Text.Blank
import Mathlib.Data.List.Induction

/-!
# Channels and their keys

A channel is written as a number in decimal, and there are many ways to write it (`Denotes`). A section is
taken over if every key denotes one of the channels, and says of a channel what stands with the last key that
denotes it (`byChannel_isOk_iff`, `get?_byChannel`). So what stands with any other key for the same channel is
dropped.
-/

namespace DetectorControl

open Decimal

namespace Config
variable {α : Type} {key sectionName : String} {channel channel' : Nat} {cs : List Char} {n n' : Nat}

/-! ## Keys -/

/-- The ways to write a number in decimal. -/
inductive Spells : List Char → Nat → Prop
  | digits {cs : List Char} (hne : cs ≠ []) (hcs : ∀ c ∈ cs, c.isDigit = true) : Spells cs (Nat.ofDigitChars 10 cs 0)
  | plus {cs : List Char} (hne : cs ≠ []) (hcs : ∀ c ∈ cs, c.isDigit = true) :
    Spells ('+' :: cs) (Nat.ofDigitChars 10 cs 0)

/-- The key is a number, with blanks around it at most. -/
def Denotes (key : String) (channel : Nat) : Prop :=
  ∃ front cs back, Text.Blank front ∧ Text.Blank back ∧ key.toList = front ++ cs ++ back ∧ Spells cs channel

theorem isBlank_of_isDigit {c : Char} (h : c.isDigit = true) : Text.isBlank c = false := by
  obtain ⟨hlow, hhigh⟩ := digit_bounds h
  simp only [Text.isBlank, Text.blankRanges, List.any_cons, List.any_nil, Bool.or_eq_false_iff,
    Bool.and_eq_false_iff, decide_eq_false_iff_not, and_true]
  omega

/-- The digits behind a plus sign, if there is one. -/
def unsigned (cs : List Char) : List Char :=
  if cs.head? = some '+' then cs.tail else cs

theorem spells_iff : Spells cs n ↔
    unsigned cs ≠ [] ∧ (∀ c ∈ unsigned cs, c.isDigit = true) ∧ Nat.ofDigitChars 10 (unsigned cs) 0 = n := by
  constructor
  · intro h
    cases h with
    | digits hne hcs =>
      have hsign : cs.head? ≠ some '+' := by
        intro hplus
        exact absurd (hcs '+' (List.mem_of_mem_head? hplus)) (by decide)
      rw [unsigned, if_neg hsign]
      exact ⟨hne, hcs, rfl⟩
    | plus hne hcs => exact ⟨hne, hcs, rfl⟩
  · rintro ⟨hne, hcs, rfl⟩
    cases cs with
    | nil => exact absurd rfl hne
    | cons c cs =>
      by_cases hc : c = '+'
      · subst hc
        exact .plus hne hcs
      · have hunsigned : unsigned (c :: cs) = c :: cs := if_neg (by simpa using hc)
        rw [hunsigned] at hne hcs ⊢
        exact .digits hne hcs

theorem Spells.trimmed (h : Spells cs n) : Text.Trimmed cs := by
  have hdigits {ds : List Char} (hds : ∀ c ∈ ds, c.isDigit = true) : Text.Trimmed ds :=
    .of_forall fun c hc => isBlank_of_isDigit (hds c hc)
  cases h with
  | digits _ hcs => exact hdigits hcs
  | plus _ hcs =>
    have hplus : Text.Trimmed ['+'] := .of_forall fun c hc => by
      rw [List.mem_singleton.1 hc]
      decide
    exact hplus.append (hdigits hcs)

theorem denotes_iff : Denotes key channel ↔ Spells (Text.trimList key.toList) channel := by
  constructor
  · rintro ⟨front, cs, back, hfront, hback, hkey, h⟩
    rwa [Text.trimList_eq_iff.2 ⟨h.trimmed, front, back, hfront, hback, hkey⟩]
  · intro h
    obtain ⟨front, back, hfront, hback, hkey⟩ := Text.exists_trimList key.toList
    exact ⟨front, _, back, hfront, hback, hkey, h⟩

theorem Denotes.unique (h : Denotes key channel) (h' : Denotes key channel') : channel = channel' := by
  rw [denotes_iff, spells_iff] at h h'
  exact h.2.2.symm.trans h'.2.2

/-- What is left out of a number too large to be a channel does not make a channel of it. -/
theorem ofDigitsUpTo_cases (limit : Nat) (cs : List Char) :
    ofDigitsUpTo 10 limit (cs.map digitValue) = Nat.ofDigitChars 10 cs 0 ∨
      limit < ofDigitsUpTo 10 limit (cs.map digitValue) := by
  unfold ofDigitsUpTo
  suffices h : ∀ n n', n = n' ∨ limit < n →
      (cs.map digitValue).foldl (fun n d => if n ≤ limit then n * 10 + d else n) n = Nat.ofDigitChars 10 cs n' ∨
        limit < (cs.map digitValue).foldl (fun n d => if n ≤ limit then n * 10 + d else n) n from h 0 0 (.inl rfl)
  induction cs with
  | nil => exact fun n n' h => h
  | cons c cs ih =>
    intro n n' h
    rw [List.map_cons, List.foldl_cons, Nat.ofDigitChars_cons]
    refine ih _ _ ?_
    have hdigit : digitValue c = c.toNat - '0'.toNat := rfl
    split <;> omega

theorem ofDigitsUpTo_eq_iff (limit : Nat) (cs : List Char) (hn : n < limit) :
    ofDigitsUpTo 10 limit (cs.map digitValue) = n ↔ Nat.ofDigitChars 10 cs 0 = n := by
  have hle := ofDigitsUpTo_le limit cs
  rcases ofDigitsUpTo_cases limit cs with h | h <;> omega

theorem channelOf?_eq_some_iff : channelOf? key = some channel ↔ Denotes key channel ∧ channel < channelCount := by
  rw [denotes_iff, spells_iff]
  have hchannel : channelOf? key =
      if (unsigned (Text.trimList key.toList)).isEmpty ||
          (unsigned (Text.trimList key.toList)).any fun c => !c.isDigit then none
      else if ofDigitsUpTo 10 channelCount ((unsigned (Text.trimList key.toList)).map digitValue) < channelCount then
        some (ofDigitsUpTo 10 channelCount ((unsigned (Text.trimList key.toList)).map digitValue))
      else none := rfl
  rw [hchannel]
  generalize unsigned (Text.trimList key.toList) = ds
  constructor
  · intro h
    split at h
    · cases h
    · rename_i hdigits
      split at h
      · rename_i hlt
        have hvalue := Option.some.inj h
        rw [hvalue] at hlt
        simp only [Bool.or_eq_true, List.isEmpty_iff, List.any_eq_true, Bool.not_eq_true', not_or, not_exists,
          not_and, Bool.not_eq_false] at hdigits
        exact ⟨⟨hdigits.1, hdigits.2, (ofDigitsUpTo_eq_iff _ _ hlt).1 hvalue⟩, hlt⟩
      · cases h
  · rintro ⟨⟨hne, hdigits, hvalue⟩, hlt⟩
    have hall : ¬ (ds.isEmpty || ds.any fun c => !c.isDigit) = true := by
      simp only [Bool.or_eq_true, List.isEmpty_iff, List.any_eq_true, Bool.not_eq_true', not_or, not_exists, not_and,
        Bool.not_eq_false]
      exact ⟨hne, hdigits⟩
    rw [if_neg hall, (ofDigitsUpTo_eq_iff _ _ hlt).2 hvalue, if_pos hlt]

/-! ## Sections -/

variable {entries : Entries String α} {m : Entries Nat α} {e : String × α} {v : α}

theorem byChannel_concat : byChannel sectionName (entries ++ [e]) = .ok m ↔
    ∃ m' channel, byChannel sectionName entries = .ok m' ∧ channelOf? e.1 = some channel ∧
      m = m'.insert channel e.2 := by
  unfold byChannel
  rw [List.foldlM_append, bind_eq_ok_iff]
  refine exists_congr fun m' => ?_
  rw [List.foldlM_cons, bind_eq_ok_iff]
  cases channelOf? e.1 with
  | none => simp
  | some channel => simp [pure, Except.pure, eq_comm]

/-- Every key denotes a channel. -/
def Keyed (entries : Entries String α) : Prop :=
  ∀ e ∈ entries, Denotes e.1 0 ∨ Denotes e.1 1

theorem channelOf?_isSome_iff : (channelOf? key).isSome = true ↔ Denotes key 0 ∨ Denotes key 1 := by
  rw [Option.isSome_iff_exists]
  constructor
  · rintro ⟨channel, h⟩
    obtain ⟨hdenotes, hlt⟩ := channelOf?_eq_some_iff.1 h
    have hchannel : channel = 0 ∨ channel = 1 := by
      unfold channelCount at hlt
      omega
    rcases hchannel with rfl | rfl
    · exact .inl hdenotes
    · exact .inr hdenotes
  · rintro (h | h)
    · exact ⟨0, channelOf?_eq_some_iff.2 ⟨h, by decide⟩⟩
    · exact ⟨1, channelOf?_eq_some_iff.2 ⟨h, by decide⟩⟩

theorem keyed_iff : Keyed entries ↔ ∀ e ∈ entries, (channelOf? e.1).isSome = true :=
  forall₂_congr fun _ _ => channelOf?_isSome_iff.symm

theorem byChannel_isOk_iff (sectionName : String) : (∃ m, byChannel sectionName entries = .ok m) ↔ Keyed entries := by
  induction entries using List.reverseRecOn with
  | nil => exact ⟨fun _ => nofun, fun _ => ⟨[], rfl⟩⟩
  | append_singleton entries e ih =>
    constructor
    · rintro ⟨m, hm⟩ e' he'
      obtain ⟨m', channel, hm', hchannel, -⟩ := byChannel_concat.1 hm
      rcases List.mem_append.1 he' with he' | he'
      · exact ih.1 ⟨m', hm'⟩ e' he'
      · obtain rfl := List.mem_singleton.1 he'
        exact channelOf?_isSome_iff.1 (by rw [hchannel]; rfl)
    · intro h
      obtain ⟨m', hm'⟩ := ih.2 fun e' he' => h e' (List.mem_append_left _ he')
      obtain ⟨channel, hchannel⟩ := Option.isSome_iff_exists.1 (channelOf?_isSome_iff.2 (h e (by simp)))
      exact ⟨_, byChannel_concat.2 ⟨m', channel, hm', hchannel, rfl⟩⟩

/-- Every channel has one entry. -/
theorem sorted_byChannel (h : byChannel sectionName entries = .ok m) : m.Sorted := by
  induction entries using List.reverseRecOn generalizing m with
  | nil =>
    cases h
    exact .nil
  | append_singleton entries e ih =>
    obtain ⟨m', channel, hm', -, rfl⟩ := byChannel_concat.1 h
    exact Entries.sorted_insert (ih hm')

/-- The last entry for a channel. -/
def last? (entries : Entries String α) (channel : Nat) : Option (String × α) :=
  entries.reverse.find? fun e => channelOf? e.1 = some channel

theorem get?_byChannel (h : byChannel sectionName entries = .ok m) (channel : Nat) :
    m.get? channel = (last? entries channel).map (·.2) := by
  induction entries using List.reverseRecOn generalizing m with
  | nil =>
    cases h
    rfl
  | append_singleton entries e ih =>
    obtain ⟨m', channel', hm', hchannel, rfl⟩ := byChannel_concat.1 h
    rw [last?, List.reverse_append, List.reverse_singleton, List.singleton_append, List.find?_cons, hchannel]
    by_cases heq : channel' = channel
    · subst heq
      rw [Entries.get?_insert_self, decide_eq_true rfl]
      rfl
    · rw [Entries.get?_insert_of_ne _ _ (Ne.symm heq), decide_eq_false (fun h => heq (Option.some.inj h))]
      exact ih hm'

theorem last?_isSome_iff {channel : Nat} :
    (last? entries channel).isSome = true ↔ ∃ e ∈ entries, channelOf? e.1 = some channel := by
  simp [last?, List.find?_isSome]

theorem of_last? (h : last? entries channel = some e) : e ∈ entries ∧ channelOf? e.1 = some channel := by
  have hchannel := List.find?_some h
  exact ⟨List.mem_reverse.1 (List.mem_of_find?_eq_some h), of_decide_eq_true hchannel⟩

/-- No other entry is for the same channel. -/
def Alone (entries : Entries String α) (e : String × α) : Prop :=
  ∀ e' ∈ entries, ∀ channel, Denotes e.1 channel → Denotes e'.1 channel → e' = e

theorem last?_of_alone (he : e ∈ entries) (halone : Alone entries e) (hchannel : channelOf? e.1 = some channel) :
    last? entries channel = some e := by
  obtain ⟨e', he'⟩ := Option.isSome_iff_exists.1 (last?_isSome_iff.2 ⟨e, he, hchannel⟩)
  obtain ⟨hmem, hchannel'⟩ := of_last? he'
  rw [he', halone e' hmem channel (channelOf?_eq_some_iff.1 hchannel).1 (channelOf?_eq_some_iff.1 hchannel').1]

/-- What a section says of a channel: what stands with the last key, in the order of keys, that denotes it. -/
def Says (entries : Entries String α) (channel : Nat) (v : α) : Prop :=
  ∃ key, (key, v) ∈ entries ∧ Denotes key channel ∧ ∀ e ∈ entries, Denotes e.1 channel → e.1 ≤ key

theorem channelOf?_of_mem (h : Keyed entries) (he : e ∈ entries) (hdenotes : Denotes e.1 channel) :
    channelOf? e.1 = some channel := by
  obtain ⟨channel', hchannel⟩ := Option.isSome_iff_exists.1 (keyed_iff.1 h e he)
  rwa [hdenotes.unique (channelOf?_eq_some_iff.1 hchannel).1]

theorem last?_le (hsorted : entries.Sorted) (hkeyed : Keyed entries) (h : last? entries channel = some e) :
    ∀ e' ∈ entries, Denotes e'.1 channel → e'.1 ≤ e.1 := by
  obtain ⟨-, later, earlier, hreverse, hlater⟩ := List.find?_eq_some_iff_append.1 h
  intro e' he' hdenotes
  have hdecreasing : entries.reverse.Pairwise fun e e' => e'.1 < e.1 := List.pairwise_reverse.2 hsorted
  have hmem : e' ∈ later ++ e :: earlier := hreverse ▸ List.mem_reverse.2 he'
  rw [hreverse] at hdecreasing
  rcases List.mem_append.1 hmem with hmem | hmem
  · have hnot := hlater e' hmem
    rw [channelOf?_of_mem hkeyed he' hdenotes] at hnot
    simp at hnot
  · rcases List.mem_cons.1 hmem with rfl | hmem
    · exact String.le_refl _
    · exact Std.le_of_lt ((List.pairwise_cons.1 (List.pairwise_append.1 hdecreasing).2.1).1 e' hmem)

theorem last?_iff (hsorted : entries.Sorted) (hkeyed : Keyed entries) :
    (last? entries channel).map (·.2) = some v ↔ Says entries channel v := by
  constructor
  · intro h
    obtain ⟨e, he, rfl⟩ := Option.map_eq_some_iff.1 h
    obtain ⟨hmem, hchannel⟩ := of_last? he
    exact ⟨e.1, hmem, (channelOf?_eq_some_iff.1 hchannel).1, last?_le hsorted hkeyed he⟩
  · rintro ⟨key, hmem, hdenotes, hgreatest⟩
    have hchannel := channelOf?_of_mem hkeyed hmem hdenotes
    obtain ⟨e, he⟩ := Option.isSome_iff_exists.1 (last?_isSome_iff.2 ⟨_, hmem, hchannel⟩)
    obtain ⟨hmem', hchannel'⟩ := of_last? he
    have hkey : e.1 = key := String.le_antisymm (hgreatest e hmem' (channelOf?_eq_some_iff.1 hchannel').1)
      (last?_le hsorted hkeyed he (key, v) hmem hdenotes)
    -- with the same key they are the same entry
    have hget := Entries.get?_of_mem hsorted hmem'
    rw [hkey, Entries.get?_of_mem hsorted hmem] at hget
    rw [he, Option.map_some, hget]

/-! ## Sections that may be missing -/

theorem byChannel?_some : byChannel? sectionName (some entries) = (byChannel sectionName entries).map some := rfl

theorem byChannel?_isOk_iff (sectionName : String) {section? : Option (Entries String α)} :
    (∃ m?, byChannel? sectionName section? = .ok m?) ↔ Keyed (section?.getD []) := by
  cases section? with
  | none => exact ⟨fun _ => nofun, fun _ => ⟨none, rfl⟩⟩
  | some entries =>
    rw [Option.getD_some, ← byChannel_isOk_iff sectionName, byChannel?_some]
    cases byChannel sectionName entries with
    | error flaw => exact ⟨nofun, nofun⟩
    | ok m => exact ⟨fun _ => ⟨m, rfl⟩, fun _ => ⟨some m, rfl⟩⟩

theorem byChannel?_eq_ok {section? : Option (Entries String α)} {m? : Option (Entries Nat α)}
    (h : byChannel? sectionName section? = .ok m?) :
    ∃ m, byChannel sectionName (section?.getD []) = .ok m ∧
      ∀ channel, (m?.bind fun m => m.get? channel) = m.get? channel := by
  cases section? with
  | none =>
    cases h
    exact ⟨[], rfl, fun _ => rfl⟩
  | some entries =>
    rw [byChannel?_some] at h
    cases hm : byChannel sectionName entries with
    | error flaw =>
      rw [hm] at h
      cases h
    | ok m =>
      rw [hm] at h
      cases h
      exact ⟨m, hm, fun _ => rfl⟩

end Config

end DetectorControl
