import DetectorControl.Wire.Frame

/-!
# What a write leaves on a stream

Whether a write succeeds or not, the stream has taken a first part of what was written, and all of it if
the write succeeds (`Takes`). A write that fails on the way leaves a stream that takes nothing more as long
as no room is made on it (`Stuck`).
-/

namespace DetectorControl.Wire.Sink
variable {s s' : Sink} {bs body : Bytes}

/-- Between `s` and `s'` a first part of the bytes was taken, and all of them if `done`. -/
def Takes (bs : Bytes) (done : Prop) (s s' : Sink) : Prop :=
  ∃ part, part <+: bs ∧ s'.taken = part.reverse ++ s.taken ∧ (done → part = bs)

namespace Takes
variable {done done' : Prop} {s'' : Sink}

theorem nothing (h : s'.taken = s.taken) (hdone : done → bs = []) : Takes bs done s s' :=
  ⟨[], List.nil_prefix, h, fun hd => (hdone hd).symm⟩

theorem mono (h : Takes bs done s s') (hdone : done' → done) : Takes bs done' s s' := by
  obtain ⟨part, hpart, htaken, hall⟩ := h
  exact ⟨part, hpart, htaken, fun hd => hall (hdone hd)⟩

theorem congr (h : Takes bs done s s') (htaken : s''.taken = s'.taken) : Takes bs done s s'' := by
  unfold Takes
  rw [htaken]
  exact h

theorem cut {rest : Bytes} (h : Takes bs done s s') (hdone : ¬ done') : Takes (bs ++ rest) done' s s' := by
  obtain ⟨part, hpart, htaken, -⟩ := h
  exact ⟨part, hpart.trans (List.prefix_append bs rest), htaken, fun hd => absurd hd hdone⟩

theorem append {rest : Bytes} (h : Takes bs True s s') (h' : Takes rest done s' s'') :
    Takes (bs ++ rest) done s s'' := by
  obtain ⟨part, -, htaken, hall⟩ := h
  obtain ⟨part', hpart', htaken', hall'⟩ := h'
  refine ⟨bs ++ part', (List.prefix_append_right_inj bs).2 hpart', ?_, fun hd => by rw [hall' hd]⟩
  rw [htaken', htaken, hall trivial, List.reverse_append, List.append_assoc]

end Takes

theorem cut_eq_take (limit : Option Nat) (bs : Bytes) : ∃ n, cut limit bs = bs.take n := by
  cases limit with
  | none => exact ⟨bs.length, (List.take_length).symm⟩
  | some n => exact ⟨n, rfl⟩

theorem cut_eq_nil_iff {limit : Option Nat} : cut limit bs = [] ↔ limit = some 0 ∨ bs = [] := by
  cases limit with
  | none => simp [cut]
  | some n => simp [cut, List.take_eq_nil_iff]

/-- One offer: a first part is taken, of the length that is answered. -/
theorem write_eq_ok {n : Nat} (h : s.write bs = (.ok n, s')) :
    n ≤ bs.length ∧ s'.taken = (bs.take n).reverse ++ s.taken := by
  have hpart : ∃ m, cut s.room (cut s.step bs) = bs.take m := by
    obtain ⟨k, hk⟩ := cut_eq_take s.step bs
    obtain ⟨m, hm⟩ := cut_eq_take s.room (cut s.step bs)
    exact ⟨min m k, by rw [hm, hk, List.take_take]⟩
  obtain ⟨m, hm⟩ := hpart
  unfold write at h
  split at h
  · cases h
  · rw [hm] at h
    cases h
    have htake : bs.take (bs.take m).length = bs.take m := by
      rw [List.length_take, List.take_eq_take_iff]
      omega
    exact ⟨List.length_take_le' .., by rw [htake]⟩

theorem write_eq_error {f : IoFault} (h : s.write bs = (.error f, s')) : s' = s := by
  unfold write at h
  split at h <;> cases h
  rfl

theorem takes_writeAll (s : Sink) (bs : Bytes) :
    Takes bs ((s.writeAll bs).1 = .ok ()) s (s.writeAll bs).2 := by
  fun_induction writeAll s bs with
  | case1 s => exact .nothing rfl fun _ => rfl
  | case2 s b rest f s' hwrite =>
    rw [write_eq_error hwrite]
    exact .nothing rfl nofun
  | case3 s b rest s' hwrite =>
    obtain ⟨-, htaken⟩ := write_eq_ok hwrite
    exact .nothing htaken nofun
  | case4 s b rest n s' hwrite ih =>
    obtain ⟨-, htaken⟩ := write_eq_ok hwrite
    have hfirst : Takes ((b :: rest).take (n + 1)) True s s' :=
      ⟨_, List.prefix_refl _, htaken, fun _ => rfl⟩
    have hsplit : (b :: rest).take (n + 1) ++ rest.drop n = b :: rest :=
      List.take_append_drop (n + 1) (b :: rest)
    rw [← hsplit]
    exact hfirst.append ih

theorem taken_finish (s : Sink) : s.finish.2.taken = s.taken := by
  unfold finish
  split <;> rfl

/-- A frame is written as far as the stream takes it. -/
theorem takes_writeFrame (s : Sink) (body : Bytes) :
    Takes (frame body) ((s.writeFrame body).1 = .ok ()) s (s.writeFrame body).2 := by
  have hhead := takes_writeAll s (header body.length)
  unfold writeFrame
  split
  · exact .nothing rfl nofun
  split
  · rename_i f s₁ heq
    rw [heq] at hhead
    exact hhead.cut nofun
  · rename_i s₁ heq
    rw [heq] at hhead
    have hbody := (hhead.mono fun _ => rfl).append (takes_writeAll s₁ body)
    split
    · rename_i f s₂ heq
      rw [heq] at hbody
      exact hbody.mono nofun
    · rename_i s₂ heq
      rw [heq] at hbody
      have hfinish := taken_finish s₂
      split <;> rename_i heq <;> rw [heq] at hfinish
      · exact (hbody.congr hfinish).mono nofun
      · exact (hbody.congr hfinish).mono fun _ => rfl

/-! ## Streams with room -/

/-- A stream that takes whatever it is offered, if not all at once. -/
structure Accepts (s : Sink) : Prop where
  room : s.room = none
  step : s.step ≠ some 0
  flush : s.flush = none

namespace Accepts

theorem write (h : s.Accepts) (bs : Bytes) :
    s.write bs = (.ok (cut s.step bs).length, { s with taken := (cut s.step bs).reverse ++ s.taken }) := by
  obtain ⟨room, step, full, flush, taken, flushed⟩ := s
  obtain rfl : room = none := h.room
  rfl

theorem writeAll (h : s.Accepts) (bs : Bytes) : ∃ s', s.writeAll bs = (.ok (), s') ∧ s'.Accepts := by
  fun_induction Sink.writeAll s bs with
  | case1 s => exact ⟨s, rfl, h⟩
  | case2 s b rest f s' hwrite =>
    rw [h.write] at hwrite
    cases hwrite
  | case3 s b rest s' hwrite =>
    rw [h.write] at hwrite
    have hnone : cut s.step (b :: rest) = [] :=
      List.length_eq_zero_iff.1 (Except.ok.inj (congrArg Prod.fst hwrite))
    rcases cut_eq_nil_iff.1 hnone with hstep | hnil
    · exact absurd hstep h.step
    · cases hnil
  | case4 s b rest n s' hwrite ih =>
    rw [h.write] at hwrite
    obtain ⟨-, rfl⟩ := Prod.mk.inj hwrite
    exact ih ⟨h.room, h.step, h.flush⟩

theorem writeFrame (h : s.Accepts) (hbody : body.length ≤ bodyLimit) :
    ∃ s', s.writeFrame body = (.ok (), s') ∧ s'.Accepts ∧ s'.taken = (frame body).reverse ++ s.taken := by
  obtain ⟨s₁, hhead, haccepts₁⟩ := h.writeAll (header body.length)
  obtain ⟨s₂, hrest, haccepts₂⟩ := haccepts₁.writeAll body
  have hwritten : s.writeFrame body = (.ok (), { s₂ with flushed := true }) := by
    unfold Sink.writeFrame
    simp only [if_neg (Nat.not_lt.2 hbody), hhead, hrest, finish, haccepts₂.flush]
  obtain ⟨part, -, htaken, hall⟩ := takes_writeFrame s body
  rw [hwritten] at htaken hall
  rw [hall rfl] at htaken
  exact ⟨_, hwritten, ⟨haccepts₂.room, haccepts₂.step, haccepts₂.flush⟩, htaken⟩

end Accepts

/-! ## Streams without room -/

/-- A stream that takes nothing. -/
def Stuck (s : Sink) : Prop := s.room = some 0 ∨ s.step = some 0

/-- Such a stream refuses what it is offered, and stays as it is. -/
theorem write_stuck (h : s.Stuck) (bs : Bytes) :
    (∃ f, s.write bs = (.error f, s)) ∨ s.write bs = (.ok 0, s) := by
  obtain ⟨room, step, full, flush, taken, flushed⟩ := s
  have hpart : cut room (cut step bs) = [] := by
    rcases h with hroom | hstep
    · exact cut_eq_nil_iff.2 (.inl hroom)
    · exact cut_eq_nil_iff.2 (.inr (cut_eq_nil_iff.2 (.inl hstep)))
  unfold write
  dsimp only
  split
  · exact .inl ⟨_, rfl⟩
  · rw [hpart]
    cases room <;> exact .inr rfl

/-- A stream that takes nothing of an offer takes nothing more. -/
theorem stuck_of_write {b : UInt8} (h : (∃ f, s.write (b :: bs) = (.error f, s')) ∨ s.write (b :: bs) = (.ok 0, s')) :
    s'.Stuck := by
  obtain ⟨room, step, full, flush, taken, flushed⟩ := s
  unfold write at h
  dsimp only at h
  split at h
  · rcases h with ⟨f, h⟩ | h <;> cases h
    exact .inl rfl
  · rcases h with ⟨f, h⟩ | h
    · cases h
    · obtain ⟨hpart, rfl⟩ := Prod.mk.inj h
      rcases cut_eq_nil_iff.1 (List.length_eq_zero_iff.1 (Except.ok.inj hpart)) with hroom | hcut
      · exact .inl (by rw [hroom]; rfl)
      · exact .inr ((cut_eq_nil_iff.1 hcut).resolve_right (List.cons_ne_nil b bs))

theorem stuck_writeAll (s : Sink) (bs : Bytes) (h : (s.writeAll bs).1 ≠ .ok ()) : (s.writeAll bs).2.Stuck := by
  fun_induction writeAll s bs with
  | case1 s => exact absurd rfl h
  | case2 s b rest f s' hwrite => exact stuck_of_write (.inl ⟨f, hwrite⟩)
  | case3 s b rest s' hwrite => exact stuck_of_write (.inr hwrite)
  | case4 s b rest n s' hwrite ih => exact ih h

theorem writeAll_stuck (h : s.Stuck) {b : UInt8} (rest : Bytes) :
    ∃ f, s.writeAll (b :: rest) = (.error f, s) := by
  rcases write_stuck h (b :: rest) with ⟨f, hwrite⟩ | hwrite
  · exact ⟨f, by rw [writeAll, hwrite]⟩
  · exact ⟨.writeZero, by rw [writeAll, hwrite]⟩

theorem writeFrame_stuck (h : s.Stuck) (body : Bytes) : (s.writeFrame body).2 = s := by
  obtain ⟨f, hhead⟩ := writeAll_stuck h (b := UInt8.ofNat (body.length / 0x1000000))
    [UInt8.ofNat (body.length / 0x10000), UInt8.ofNat (body.length / 0x100), UInt8.ofNat body.length]
  have hhead : s.writeAll (header body.length) = (.error f, s) := hhead
  unfold writeFrame
  split
  · rfl
  · rw [hhead]

/-- A frame is written in full or not at all, or else the stream takes nothing more. -/
theorem writeFrame_cases (s : Sink) (body : Bytes) :
    (s.writeFrame body).2.taken = s.taken ∨ (s.writeFrame body).2.taken = (frame body).reverse ++ s.taken ∨
      (s.writeFrame body).2.Stuck := by
  have hhead := stuck_writeAll s (header body.length)
  have hheadTakes := takes_writeAll s (header body.length)
  unfold writeFrame
  split
  · exact .inl rfl
  split
  · rename_i f s₁ heq
    rw [heq] at hhead
    exact .inr (.inr (hhead nofun))
  · rename_i s₁ heq
    rw [heq] at hheadTakes
    have hbody := stuck_writeAll s₁ body
    obtain ⟨part, -, htaken, hall⟩ := (hheadTakes.mono fun _ => rfl).append (takes_writeAll s₁ body)
    split
    · rename_i f s₂ heq
      rw [heq] at hbody
      exact .inr (.inr (hbody nofun))
    · rename_i s₂ heq
      rw [heq] at htaken hall
      have hfinish := taken_finish s₂
      refine .inr (.inl ?_)
      split <;> rename_i heq <;> rw [heq] at hfinish
      · rw [hfinish, htaken, hall rfl]
        rfl
      · rw [hfinish, htaken, hall rfl]
        rfl

end DetectorControl.Wire.Sink
