import DetectorControl.Wire.Frame

/-!
# What a stream of bytes holds

`contents` takes a stream of bytes apart: the bodies of its frames, up to the first header that is too
large, and the length in that header. Frames that are laid end to end are taken apart again
(`contents_append`), and a reader takes the frames off the stream one by one, in whatever chunks the
bytes arrive (`front_of_readFrame`, `front_of_readFrame_tooLarge`).
-/

namespace DetectorControl.Wire

/-- What stands at the front of a stream of bytes. -/
inductive Front where
  /-- Less than a frame. -/
  | part
  /-- A header that announces too much. -/
  | tooLarge (bytes : Nat)
  | frame (body rest : Bytes)

def front (bs : Bytes) : Front :=
  if bs.length < 4 then .part
  else if bodyLimit < lengthOf (bs.take 4) then .tooLarge (lengthOf (bs.take 4))
  else if bs.length < 4 + lengthOf (bs.take 4) then .part
  else .frame ((bs.drop 4).take (lengthOf (bs.take 4))) (bs.drop (4 + lengthOf (bs.take 4)))

theorem length_of_front {bs body rest : Bytes} (h : front bs = .frame body rest) :
    rest.length < bs.length := by
  unfold front at h
  split at h
  · cases h
  · split at h
    · cases h
    · split at h
      · cases h
      · cases h
        rw [List.length_drop]
        omega

/-- The bodies of the frames up to the first header that is too large, and the length in that header. -/
def contents (bs : Bytes) : List Bytes × Option Nat :=
  match _h : front bs with
  | .part => ([], none)
  | .tooLarge bytes => ([], some bytes)
  | .frame body rest => (body :: (contents rest).1, (contents rest).2)
  termination_by bs.length
  decreasing_by all_goals exact length_of_front ‹_›

section
variable {bs body rest : Bytes}

theorem contents_of_part (h : front bs = .part) : contents bs = ([], none) := by
  rw [contents]
  split <;> rename_i heq <;> cases h.symm.trans heq
  rfl

theorem contents_of_tooLarge {bytes : Nat} (h : front bs = .tooLarge bytes) :
    contents bs = ([], some bytes) := by
  rw [contents]
  split <;> rename_i heq <;> cases h.symm.trans heq
  rfl

theorem contents_of_frame (h : front bs = .frame body rest) :
    contents bs = (body :: (contents rest).1, (contents rest).2) := by
  rw [contents]
  split <;> rename_i heq <;> cases h.symm.trans heq
  rfl

theorem length_header (n : Nat) : (header n).length = 4 := rfl

/-- A header in front of as many bytes as it announces. -/
theorem front_append {head : Bytes} (hhead : head.length = 4) (hbody : lengthOf head = body.length)
    (h : body.length ≤ bodyLimit) : front (head ++ (body ++ rest)) = .frame body rest := by
  have htake : (head ++ (body ++ rest)).take 4 = head := by rw [← hhead, List.take_left]
  have hdrop : (head ++ (body ++ rest)).drop 4 = body ++ rest := by rw [← hhead, List.drop_left]
  have hlength : (head ++ (body ++ rest)).length = 4 + (body.length + rest.length) := by
    rw [List.length_append, List.length_append, hhead]
  unfold front
  rw [htake, hbody, if_neg (by omega), if_neg (by omega), if_neg (by omega), ← List.drop_drop, hdrop,
    List.take_left, List.drop_left]

theorem front_tooLarge {head : Bytes} (hhead : head.length = 4) (h : bodyLimit < lengthOf head) :
    front (head ++ rest) = .tooLarge (lengthOf head) := by
  have htake : (head ++ rest).take 4 = head := by rw [← hhead, List.take_left]
  have hlength : (head ++ rest).length = 4 + rest.length := by rw [List.length_append, hhead]
  unfold front
  rw [htake, if_neg (by omega), if_pos h]

theorem front_frame (h : body.length ≤ bodyLimit) : front (frame body ++ rest) = .frame body rest := by
  have hbound : body.length ≤ Bounds.natural32 := Nat.le_trans h (by decide)
  rw [frame, List.append_assoc]
  exact front_append (length_header _) (lengthOf_header hbound) h

/-- A frame that breaks off is none. -/
theorem front_take_frame (h : body.length ≤ bodyLimit) {k : Nat} (hk : k < (frame body).length) :
    front ((frame body).take k) = .part := by
  have hlength : (frame body).length = 4 + body.length := by
    rw [frame, List.length_append, length_header]
  have hcut : ((frame body).take k).length = k := List.length_take_of_le (Nat.le_of_lt hk)
  unfold front
  rw [hcut]
  by_cases hhead : k < 4
  · rw [if_pos hhead]
  · have htake : ((frame body).take k).take 4 = header body.length := by
      rw [List.take_take, Nat.min_eq_left (by omega), frame, ← length_header body.length, List.take_left]
    have hbound : body.length ≤ Bounds.natural32 := Nat.le_trans h (by decide)
    rw [if_neg hhead, htake, lengthOf_header hbound, if_neg (by omega), if_pos (by omega)]

theorem eq_of_front_tooLarge {bytes : Nat} (h : front bs = .tooLarge bytes) :
    ∃ head rest, List.length head = 4 ∧ bodyLimit < lengthOf head ∧ lengthOf head = bytes ∧ bs = head ++ rest := by
  unfold front at h
  split at h
  · cases h
  · rename_i hlength
    split at h
    · rename_i hlimit
      cases h
      exact ⟨_, _, List.length_take_of_le (by omega), hlimit, rfl, (List.take_append_drop 4 bs).symm⟩
    · split at h <;> cases h

theorem eq_of_front_frame (h : front bs = .frame body rest) :
    ∃ head, List.length head = 4 ∧ lengthOf head = body.length ∧ body.length ≤ bodyLimit ∧
      bs = head ++ (body ++ rest) := by
  unfold front at h
  split at h
  · cases h
  · split at h
    · cases h
    · rename_i hlength hlimit
      split at h
      · cases h
      · rename_i hwhole
        cases h
        have hbody : ((bs.drop 4).take (lengthOf (bs.take 4))).length = lengthOf (bs.take 4) := by
          rw [List.length_take, List.length_drop]
          omega
        refine ⟨bs.take 4, List.length_take_of_le (by omega), hbody.symm, by omega, ?_⟩
        rw [← List.drop_drop, List.take_append_drop, List.take_append_drop]

/-- What stands at the front of a first part of a frame is the frame, or nothing. -/
theorem eq_of_front_part {part whole : Bytes} (hpart : part <+: frame whole) (hwhole : whole.length ≤ bodyLimit)
    (h : front part = .frame body rest) : part = frame whole ∧ body = whole ∧ rest = [] := by
  have htake := List.prefix_iff_eq_take.1 hpart
  by_cases hk : part.length < (frame whole).length
  · rw [htake, front_take_frame hwhole hk] at h
    cases h
  · rw [List.take_of_length_le (Nat.not_lt.1 hk)] at htake
    have hfront : front (frame whole ++ []) = .frame whole [] := front_frame hwhole
    rw [List.append_nil, ← htake] at hfront
    cases h.symm.trans hfront
    exact ⟨htake, rfl, rfl⟩

/-- Frames that are laid end to end are taken apart again. -/
theorem contents_append {bodies : List Bytes} (h : ∀ body ∈ bodies, body.length ≤ bodyLimit) :
    contents (bodies.flatMap frame ++ rest) = (bodies ++ (contents rest).1, (contents rest).2) := by
  induction bodies with
  | nil => rfl
  | cons body bodies ih =>
    have hfront : front (frame body ++ (bodies.flatMap frame ++ rest)) = .frame body _ :=
      front_frame (h body (by simp))
    rw [List.flatMap_cons, List.append_assoc, contents_of_frame hfront, ih fun b hb => h b (by simp [hb])]
    rfl

/-- A header that is too large ends the stream, whatever follows on it. -/
theorem contents_append_of_tooLarge {bytes : Nat} (h : (contents bs).2 = some bytes) (later : Bytes) :
    contents (bs ++ later) = contents bs := by
  fun_induction contents bs with
  | case1 bs hfront => cases h
  | case2 bs bytes hfront =>
    obtain ⟨head, rest, hhead, hlimit, rfl, rfl⟩ := eq_of_front_tooLarge hfront
    rw [List.append_assoc]
    exact contents_of_tooLarge (front_tooLarge hhead hlimit)
  | case3 bs body rest hfront ih =>
    obtain ⟨head, hhead, hbody, hlimit, rfl⟩ := eq_of_front_frame hfront
    rw [List.append_assoc, List.append_assoc, contents_of_frame (front_append hhead hbody hlimit), ih h]

/-- No such header stands in a first part of whole frames. -/
theorem contents_of_prefix {bodies : List Bytes} (h : bs <+: bodies.flatMap frame)
    (hbodies : ∀ body ∈ bodies, body.length ≤ bodyLimit) : (contents bs).2 = none := by
  obtain ⟨later, hlater⟩ := h
  have hwhole : contents (bodies.flatMap frame ++ []) = (bodies ++ (contents []).1, (contents []).2) :=
    contents_append hbodies
  have hnil : (contents []).2 = none := by rw [contents]; rfl
  rw [List.append_nil, ← hlater] at hwhole
  cases htooLarge : (contents bs).2 with
  | none => rfl
  | some bytes =>
    rw [contents_append_of_tooLarge htooLarge] at hwhole
    rw [hwhole, hnil] at htooLarge
    cases htooLarge

end

/-! ## Readers -/

section
variable {s s' : Source}

theorem fill_zero (done : Bytes) : fill 0 done s = (.ok done.reverse, s) := by
  cases s with
  | nil => rfl
  | cons a rest => cases a <;> rfl

theorem fill_eq_ok {left : Nat} {done out : Bytes} (h : fill left done s = (.ok out, s')) :
    ∃ part, part.length = left ∧ out = done.reverse ++ part ∧ bytesOf s = part ++ bytesOf s' := by
  induction s generalizing left done with
  | nil =>
    rcases Nat.eq_zero_or_pos left with rfl | hleft
    · cases (fill_zero done).symm.trans h
      exact ⟨[], rfl, (List.append_nil _).symm, rfl⟩
    · rw [fill, if_neg (by omega)] at h
      cases h
  | cons a rest ih =>
    rcases Nat.eq_zero_or_pos left with rfl | hleft
    · cases (fill_zero done).symm.trans h
      exact ⟨[], rfl, (List.append_nil _).symm, rfl⟩
    have hne : ¬ left = 0 := by omega
    cases a with
    | fault f =>
      rw [fill, if_neg hne] at h
      split at h
      · exact ih h
      · cases h
    | bytes chunk =>
      have hbytes : bytesOf (.bytes chunk :: rest) = chunk ++ bytesOf rest := rfl
      simp only [fill, if_neg hne, List.isEmpty_iff, List.drop_eq_nil_iff] at h
      split at h
      · rename_i hchunk
        rw [List.take_of_length_le hchunk] at h
        obtain ⟨part, hlength, rfl, hrest⟩ := ih h
        refine ⟨chunk ++ part, ?_, ?_, ?_⟩
        · rw [List.length_append]
          omega
        · rw [List.reverse_append, List.reverse_reverse, List.append_assoc]
        · rw [hbytes, hrest, List.append_assoc]
      · rename_i hchunk
        cases h
        refine ⟨chunk.take left, List.length_take_of_le (by omega), rfl, ?_⟩
        show chunk ++ bytesOf rest = chunk.take left ++ (chunk.drop left ++ bytesOf rest)
        rw [← List.append_assoc, List.take_append_drop]

theorem readExact_eq_ok {n : Nat} {out : Bytes} (h : readExact n s = (.ok out, s')) :
    out.length = n ∧ bytesOf s = out ++ bytesOf s' := by
  obtain ⟨part, hlength, rfl, hbytes⟩ := fill_eq_ok h
  exact ⟨hlength, hbytes⟩

/-- A frame that is read stood at the front of the stream, and is no longer there. -/
theorem front_of_readFrame {body : Bytes} (h : readFrame s = (.ok body, s')) :
    front (bytesOf s) = .frame body (bytesOf s') := by
  unfold readFrame at h
  split at h
  · cases h
  · rename_i head s₁ hhead
    obtain ⟨hlength, hbytes⟩ := readExact_eq_ok hhead
    split at h
    · cases h
    · rename_i hlimit
      split at h
      · cases h
      · rename_i body' s₂ hbody
        cases h
        obtain ⟨hlength', hbytes'⟩ := readExact_eq_ok hbody
        rw [hbytes, hbytes']
        exact front_append hlength hlength'.symm (by omega)

/-- What is read off a first part of a frame is its body, and then nothing is left of it. -/
theorem readFrame_of_prefix {body whole : Bytes} (hpart : bytesOf s <+: frame whole)
    (hwhole : whole.length ≤ Bounds.natural32) (h : readFrame s = (.ok body, s')) :
    body = whole ∧ bytesOf s = frame whole ∧ bytesOf s' = [] := by
  obtain ⟨head, hhead, hbody, -, hbytes⟩ := eq_of_front_frame (front_of_readFrame h)
  obtain ⟨later, hlater⟩ := hpart
  rw [hbytes, frame, List.append_assoc, List.append_assoc] at hlater
  obtain ⟨rfl, hrest⟩ := List.append_inj hlater (hhead.trans (length_header _).symm)
  rw [lengthOf_header hwhole] at hbody
  obtain ⟨rfl, hnil⟩ := List.append_inj (hrest.trans (List.append_nil whole).symm) hbody.symm
  obtain ⟨hnothing, -⟩ := List.append_eq_nil_iff.1 hnil
  rw [hnothing, List.append_nil] at hbytes
  exact ⟨rfl, hbytes, hnothing⟩

theorem front_of_readFrame_tooLarge {bytes : Nat} (h : readFrame s = (.error (.frameTooLarge bytes), s')) :
    front (bytesOf s) = .tooLarge bytes := by
  -- a fault of the stream is no header
  have hfault (f : IoFault) : ProtocolError.ofFault f ≠ .frameTooLarge bytes := by cases f <;> nofun
  unfold readFrame at h
  split at h
  · exact absurd (Except.error.inj (congrArg Prod.fst h)) (hfault _)
  · rename_i head s₁ hhead
    obtain ⟨hlength, hbytes⟩ := readExact_eq_ok hhead
    split at h
    · rename_i hlimit
      cases h
      rw [hbytes]
      exact front_tooLarge hlength hlimit
    · split at h
      · exact absurd (Except.error.inj (congrArg Prod.fst h)) (hfault _)
      · cases h

end

end DetectorControl.Wire
