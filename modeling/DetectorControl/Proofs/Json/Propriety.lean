import DetectorControl.Json.Tree
import DetectorControl.Proofs.Json.Numbers

/-!
# The numbers of a text are proper

Each number that is read from a text is an integer of 64 bits or a finite float: so it is in the tokens
(`proper_of_tokens?`), in the tree that is built from them (`proper_of_parse?`) and in the value that is
taken out of the tree.
-/

namespace DetectorControl.Json

def Token.Proper : Token → Prop
  | .number n => ∀ m ∈ n, m.Proper
  | _ => True

/-! ## Tokens -/

namespace Scanner

/-- The name that is being read stands for a proper token. -/
def Proper : Scanner → Prop
  | .name _ token => token.Proper
  | _ => True

/-- The state and the token behind a first byte. -/
def Starts (o : Option (Scanner × Option Token)) : Prop := ∀ x ∈ o, x.1.Proper ∧ ∀ t ∈ x.2, t.Proper

namespace Starts
variable {o o' : Option (Scanner × Option Token)}

theorem begins {s : Scanner} (hs : s.Proper) : Starts (some (s, none)) := by
  intro x hx
  cases hx
  exact ⟨hs, fun t ht => by cases ht⟩

theorem whole {t : Token} (ht : t.Proper) : Starts (some (.between, some t)) := by
  intro x hx
  cases hx
  exact ⟨trivial, fun u hu => by cases hu; exact ht⟩

theorem ite {c : Prop} [Decidable c] (h : Starts o) (h' : Starts o') : Starts (if c then o else o') := by
  by_cases hc : c
  · rw [if_pos hc]
    exact h
  · rw [if_neg hc]
    exact h'

end Starts

theorem starts_start? (b : UInt8) : Starts (start? b) := by
  unfold start?
  -- one after the other of the bytes that a token may begin with
  refine .ite (.begins trivial) (.ite (.whole trivial) (.ite (.whole trivial) (.ite (.whole trivial)
    (.ite (.whole trivial) (.ite (.whole trivial) (.ite (.whole trivial) (.ite (.begins trivial)
    (.ite (.begins trivial) (.ite (.begins trivial) (.ite (.begins trivial) (.ite (.begins trivial) ?_)))))))))))
  match digit? b with
  | some 0 => exact .begins trivial
  | some (d + 1) => exact .begins trivial
  | none =>
    intro x hx
    cases hx

theorem proper_finish? {place : Place} {n : Numeral} {t : Token} (h : finish? place n = some t) :
    t.Proper := by
  have hnumber : Token.Proper (.number n.value?) := fun m hm => Number.proper_of_value? hm
  cases place <;> cases h <;> exact hnumber

theorem proper_step? {s s' : Scanner} {b : UInt8} {ts : List Token} (h : s.step? b = some (s', ts))
    (hs : s.Proper) : s'.Proper ∧ ∀ t ∈ ts, t.Proper := by
  have hnone : ∀ t ∈ ([] : List Token), t.Proper := fun t ht => absurd ht List.not_mem_nil
  unfold step? at h
  split at h
  · obtain ⟨⟨s, t⟩, hstart, heq⟩ := Option.map_eq_some_iff.1 h
    cases heq
    obtain ⟨hs, ht⟩ := starts_start? b _ hstart
    exact ⟨hs, fun u hu => ht u (Option.mem_toList.1 hu)⟩
  · cases h
  · split at h
    · split at h
      · cases h
        refine ⟨trivial, fun t ht => ?_⟩
        rw [List.mem_singleton.1 ht]
        exact hs
      · cases h
        exact ⟨hs, hnone⟩
    · cases h
  · repeat' split at h
    all_goals cases h
    · refine ⟨trivial, fun t ht => ?_⟩
      rw [List.mem_singleton.1 ht]
      trivial
    · exact ⟨trivial, hnone⟩
    · exact ⟨trivial, hnone⟩
  · dsimp only at h
    repeat' split at h
    all_goals cases h
    all_goals exact ⟨trivial, hnone⟩
  · repeat' split at h
    all_goals cases h
    all_goals exact ⟨trivial, hnone⟩
  · split at h
    · cases h
      exact ⟨trivial, hnone⟩
    · -- the number ends, and another token begins
      obtain ⟨token, hfinish, h⟩ := Option.bind_eq_some_iff.1 h
      obtain ⟨⟨s, t⟩, hstart, h⟩ := Option.bind_eq_some_iff.1 h
      cases h
      obtain ⟨hs, ht⟩ := starts_start? b _ hstart
      refine ⟨hs, fun u hu => ?_⟩
      rcases List.mem_cons.1 hu with rfl | hu
      · exact proper_finish? hfinish
      · exact ht u (Option.mem_toList.1 hu)

theorem proper_run? {s : Scanner} {done : List Token} {text : Bytes} {ts : List Token}
    (h : s.run? done text = some ts) (hs : s.Proper) (hdone : ∀ t ∈ done, t.Proper) :
    ∀ t ∈ ts, t.Proper := by
  induction text generalizing s done with
  | nil =>
    obtain ⟨us, hstop, rfl⟩ := Option.map_eq_some_iff.1 h
    have hus : ∀ u ∈ us, u.Proper := by
      cases s with
      | between =>
        cases hstop
        exact fun u hu => absurd hu List.not_mem_nil
      | number place n =>
        obtain ⟨token, hfinish, rfl⟩ := Option.map_eq_some_iff.1 hstop
        intro u hu
        rw [List.mem_singleton.1 hu]
        exact proper_finish? hfinish
      | _ => cases hstop
    intro t ht
    rw [List.mem_reverse] at ht
    rcases List.mem_append.1 ht with ht | ht
    · exact hus t (List.mem_reverse.1 ht)
    · exact hdone t ht
  | cons b text ih =>
    unfold run? at h
    split at h
    · cases h
    · rename_i s' us hstep
      obtain ⟨hs', hus⟩ := proper_step? hstep hs
      refine ih h hs' fun t ht => ?_
      rcases List.mem_append.1 ht with ht | ht
      · exact hus t (List.mem_reverse.1 ht)
      · exact hdone t ht

end Scanner

theorem proper_of_tokens? {text : Bytes} {ts : List Token} (h : tokens? text = some ts) :
    ∀ t ∈ ts, t.Proper :=
  Scanner.proper_run? h trivial fun _ ht => absurd ht List.not_mem_nil

/-! ## Trees -/

/-- The numbers of a tree are proper. -/
inductive Tree.Proper : Tree → Prop
  | null : Proper .null
  | bool (b : Bool) : Proper (.bool b)
  | number {n : Option Number} (h : ∀ m ∈ n, m.Proper) : Proper (.number n)
  | string (s : Option String) : Proper (.string s)
  | array {items : List Tree} (h : ∀ t ∈ items, Proper t) : Proper (.array items)
  | object {members : List (Option String × Tree)} (h : ∀ m ∈ members, Proper m.2) : Proper (.object members)

def Enclosing.Proper : Enclosing → Prop
  | .items done => ∀ t ∈ done, t.Proper
  | .members done => ∀ m ∈ done, m.2.Proper
  | .member done _ => ∀ m ∈ done, m.2.Proper

namespace Builder

/-- All that is built so far. -/
def Proper : Builder → Prop
  | .value around | .firstItem around | .firstKey around => ∀ e ∈ around, e.Proper
  | .nextKey done around | .colon done _ around => (∀ m ∈ done, m.2.Proper) ∧ ∀ e ∈ around, e.Proper
  | .separator inner around => inner.Proper ∧ ∀ e ∈ around, e.Proper
  | .finished t => t.Proper

theorem proper_complete {t : Tree} (ht : t.Proper) {around : List Enclosing} (h : ∀ e ∈ around, e.Proper) :
    (complete t around).Proper := by
  cases around with
  | nil => exact ht
  | cons e around =>
    obtain ⟨he, haround⟩ := List.forall_mem_cons.1 h
    cases e with
    | items done => exact ⟨List.forall_mem_cons.2 ⟨ht, he⟩, haround⟩
    | members done => exact ⟨he, haround⟩
    | member done key => exact ⟨List.forall_mem_cons.2 ⟨ht, he⟩, haround⟩

theorem proper_begin? {around : List Enclosing} {token : Token} {s : Builder}
    (h : begin? around token = some s) (ht : token.Proper) (haround : ∀ e ∈ around, e.Proper) :
    s.Proper := by
  unfold begin? at h
  split at h
  · cases h; exact haround
  · cases h; exact haround
  · cases h; exact proper_complete .null haround
  · cases h; exact proper_complete (.bool _) haround
  · cases h; exact proper_complete (.number ht) haround
  · cases h; exact proper_complete (.string _) haround
  · cases h

theorem proper_step? {s s' : Builder} {token : Token} (h : s.step? token = some s') (hs : s.Proper)
    (ht : token.Proper) : s'.Proper := by
  have hnone : ∀ m ∈ ([] : List (Option String × Tree)), m.2.Proper :=
    fun m hm => absurd hm List.not_mem_nil
  have hempty : ∀ t ∈ ([] : List Tree), t.Proper := fun t ht => absurd ht List.not_mem_nil
  unfold step? at h
  split at h
  · exact proper_begin? h ht hs
  · cases h
    exact proper_complete (.array hempty) hs
  · exact proper_begin? h ht (List.forall_mem_cons.2 ⟨hempty, hs⟩)
  · cases h
    exact proper_complete (.object hnone) hs
  · cases h
    exact ⟨hnone, hs⟩
  · cases h
    exact hs
  · cases h
    exact List.forall_mem_cons.2 hs
  · cases h
    exact List.forall_mem_cons.2 hs
  · cases h
    exact proper_complete (.array fun t ht => hs.1 t (List.mem_reverse.1 ht)) hs.2
  · cases h
    exact hs
  · cases h
    exact proper_complete (.object fun m hm => hs.1 m (List.mem_reverse.1 hm)) hs.2
  · cases h

theorem proper_run? {s s' : Builder} {ts : List Token} (h : s.run? ts = some s') (hs : s.Proper)
    (hts : ∀ t ∈ ts, t.Proper) : s'.Proper := by
  induction ts generalizing s with
  | nil =>
    cases h
    exact hs
  | cons t ts ih =>
    obtain ⟨ht, hts⟩ := List.forall_mem_cons.1 hts
    unfold run? at h
    split at h
    · cases h
    · rename_i s'' hstep
      exact ih h (proper_step? hstep hs ht) hts

end Builder

theorem Tree.proper_of_parse? {text : Bytes} {t : Tree} (h : parse? text = some t) : t.Proper := by
  unfold parse? at h
  obtain ⟨ts, hts, h⟩ := Option.bind_eq_some_iff.1 h
  obtain ⟨s, hs, h⟩ := Option.bind_eq_some_iff.1 h
  have hbegin : (Builder.value []).Proper := fun e he => absurd he List.not_mem_nil
  have hproper := Builder.proper_run? hs hbegin (proper_of_tokens? hts)
  split at h
  · cases h
    exact hproper
  · cases h

end DetectorControl.Json
