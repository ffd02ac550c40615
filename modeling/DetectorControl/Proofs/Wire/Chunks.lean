import DetectorControl.Proofs.Wire.Sinks
import DetectorControl.Proofs.Wire.Streams

/-!
# Frames in chunks

Bytes arrive in chunks, and a read may be interrupted at any time. What a reader makes of them depends
on the bytes alone: each read takes what stands at their front (`readFrame_of_frame`,
`readFrame_of_tooLarge`, `readFrame_of_part`). So the frames that were written are read one by one,
however they are cut into chunks, and of a stream that breaks off those that it holds in full
(`outcomes_of_take`).
-/

namespace DetectorControl.Wire

/-- Chunks with interruptions among them. No chunk is empty: an empty one would be the end. -/
def Chunked (s : Source) : Prop :=
  ∀ a ∈ s, a = .fault .interrupted ∨ ∃ chunk, chunk ≠ [] ∧ a = .bytes chunk

namespace Chunked
variable {s : Source} {a : Arrival}

theorem nil : Chunked [] := fun _ ha => absurd ha List.not_mem_nil

theorem tail (h : Chunked (a :: s)) : Chunked s := fun b hb => h b (List.mem_cons_of_mem a hb)

theorem cons_bytes {chunk : Bytes} (hchunk : chunk ≠ []) (h : Chunked s) :
    Chunked (.bytes chunk :: s) := by
  intro b hb
  rcases List.mem_cons.1 hb with rfl | hb
  · exact .inr ⟨chunk, hchunk, rfl⟩
  · exact h b hb

end Chunked

/-! ## One read -/

section
variable {s : Source} {left : Nat}

theorem fill_of_le (hs : Chunked s) (h : left ≤ (bytesOf s).length) (done : Bytes) (later : Source) :
    ∃ s', Chunked s' ∧ bytesOf s' = (bytesOf s).drop left ∧
      fill left done (s ++ later) = (.ok (done.reverse ++ (bytesOf s).take left), s' ++ later) := by
  -- `later` stands behind the chunks so that what follows a frame need not be in chunks
  induction s generalizing left done with
  | nil =>
    obtain rfl : left = 0 := Nat.le_zero.1 h
    refine ⟨[], .nil, rfl, ?_⟩
    rw [fill_zero]
    simp [bytesOf]
  | cons a rest ih =>
    rcases Nat.eq_zero_or_pos left with rfl | hleft
    · refine ⟨a :: rest, hs, rfl, ?_⟩
      rw [fill_zero]
      simp
    have hne : ¬ left = 0 := by omega
    rcases hs a List.mem_cons_self with rfl | ⟨chunk, hchunk, rfl⟩
    · -- an interrupted read is made again
      have hbytes : bytesOf (.fault .interrupted :: rest) = bytesOf rest := rfl
      rw [hbytes] at h ⊢
      rw [List.cons_append, fill, if_neg hne, if_pos rfl]
      exact ih hs.tail h done
    · have hbytes : bytesOf (.bytes chunk :: rest) = chunk ++ bytesOf rest := rfl
      rw [hbytes] at h ⊢
      simp only [List.cons_append, fill, if_neg hne, List.isEmpty_iff, List.drop_eq_nil_iff]
      by_cases hall : chunk.length ≤ left
      · have hrest : left - chunk.length ≤ (bytesOf rest).length := by
          rw [List.length_append] at h
          omega
        obtain ⟨s', hs', hleft', hfill⟩ := ih hs.tail hrest (chunk.reverse ++ done)
        refine ⟨s', hs', ?_, ?_⟩
        · rw [hleft', List.drop_append, List.drop_of_length_le hall, List.nil_append]
        · rw [if_pos hall, List.take_of_length_le hall, hfill, List.take_append,
            List.take_of_length_le hall]
          simp
      · have hkept : chunk.drop left ≠ [] := by
          intro hnil
          exact hall (List.drop_eq_nil_iff.1 hnil)
        refine ⟨.bytes (chunk.drop left) :: rest, .cons_bytes hkept hs.tail, ?_, ?_⟩
        · rw [List.drop_append_of_le_length (by omega)]
          rfl
        · rw [if_neg hall, List.take_append_of_le_length (by omega)]
          rfl

theorem fill_of_lt (hs : Chunked s) (h : (bytesOf s).length < left) (done : Bytes) :
    fill left done s = (.error .unexpectedEof, []) := by
  have hne : ¬ left = 0 := by omega
  induction s generalizing left done with
  | nil => rw [fill, if_neg hne]
  | cons a rest ih =>
    rcases hs a List.mem_cons_self with rfl | ⟨chunk, hchunk, rfl⟩
    · rw [fill, if_neg hne, if_pos rfl]
      exact ih hs.tail h done hne
    · have hbytes : bytesOf (.bytes chunk :: rest) = chunk ++ bytesOf rest := rfl
      rw [hbytes, List.length_append] at h
      have hall : chunk.length ≤ left := by omega
      simp only [fill, if_neg hne, List.isEmpty_iff, List.drop_eq_nil_iff, if_pos hall,
        List.take_of_length_le hall]
      exact ih hs.tail (by omega) _ (by omega)

theorem readExact_of_le (hs : Chunked s) (h : left ≤ (bytesOf s).length) (later : Source) :
    ∃ s', Chunked s' ∧ bytesOf s' = (bytesOf s).drop left ∧
      readExact left (s ++ later) = (.ok ((bytesOf s).take left), s' ++ later) :=
  fill_of_le hs h [] later

theorem readExact_of_lt (hs : Chunked s) (h : (bytesOf s).length < left) :
    readExact left s = (.error .unexpectedEof, []) :=
  fill_of_lt hs h []

end

/-! ## One frame -/

section
variable {s : Source} {body rest : Bytes}

theorem readFrame_of_frame (hs : Chunked s) (h : front (bytesOf s) = .frame body rest) (later : Source) :
    ∃ s', Chunked s' ∧ bytesOf s' = rest ∧ readFrame (s ++ later) = (.ok body, s' ++ later) := by
  obtain ⟨head, hhead, hbody, hlimit, hbytes⟩ := eq_of_front_frame h
  have hlength : 4 ≤ (bytesOf s).length := by
    rw [hbytes, List.length_append]
    omega
  obtain ⟨s₁, hs₁, hbytes₁, hread₁⟩ := readExact_of_le hs hlength later
  have htake : (bytesOf s).take 4 = head := by rw [hbytes, ← hhead, List.take_left]
  have hdrop : bytesOf s₁ = body ++ rest := by rw [hbytes₁, hbytes, ← hhead, List.drop_left]
  have hlength₁ : body.length ≤ (bytesOf s₁).length := by
    rw [hdrop, List.length_append]
    omega
  obtain ⟨s₂, hs₂, hbytes₂, hread₂⟩ := readExact_of_le hs₁ hlength₁ later
  rw [hdrop, List.take_left] at hread₂
  refine ⟨s₂, hs₂, by rw [hbytes₂, hdrop, List.drop_left], ?_⟩
  unfold readFrame
  simp only [hread₁, htake, hbody, if_neg (Nat.not_lt.2 hlimit), hread₂]

/-- Of a frame that is too large the header is read, and nothing else. -/
theorem readFrame_of_tooLarge (hs : Chunked s) {bytes : Nat} (h : front (bytesOf s) = .tooLarge bytes)
    (later : Source) : ∃ s', Chunked s' ∧ bytesOf s' = (bytesOf s).drop 4 ∧
      readFrame (s ++ later) = (.error (.frameTooLarge bytes), s' ++ later) := by
  obtain ⟨head, rest, hhead, hlimit, rfl, hbytes⟩ := eq_of_front_tooLarge h
  have hlength : 4 ≤ (bytesOf s).length := by
    rw [hbytes, List.length_append]
    omega
  obtain ⟨s₁, hs₁, hbytes₁, hread₁⟩ := readExact_of_le hs hlength later
  have htake : (bytesOf s).take 4 = head := by rw [hbytes, ← hhead, List.take_left]
  refine ⟨s₁, hs₁, hbytes₁, ?_⟩
  unfold readFrame
  simp only [hread₁, htake, if_pos hlimit]

/-- Less than a frame is the end of the stream. -/
theorem readFrame_of_part (hs : Chunked s) (h : front (bytesOf s) = .part) :
    readFrame s = (.error .closed, []) := by
  unfold front at h
  unfold readFrame
  split at h
  · rename_i hshort
    rw [readExact_of_lt hs hshort]
    rfl
  · rename_i hlong
    obtain ⟨s₁, hs₁, hbytes₁, hread₁⟩ := readExact_of_le hs (Nat.not_lt.1 hlong) []
    rw [List.append_nil, List.append_nil] at hread₁
    split at h
    · cases h
    · rename_i hlimit
      split at h
      · rename_i hpart
        have hshort : (bytesOf s₁).length < lengthOf ((bytesOf s).take 4) := by
          rw [hbytes₁, List.length_drop]
          omega
        simp only [hread₁, if_neg hlimit, readExact_of_lt hs₁ hshort]
        rfl
      · cases h

end

/-! ## Frame after frame -/

/-- What comes of reading frame after frame, `n` times. -/
def outcomes : (n : Nat) → Source → List (Except ProtocolError Bytes)
  | 0, _ => []
  | n + 1, s => (readFrame s).1 :: outcomes n (readFrame s).2

/-- The first `n` outcomes of reading these bodies and then the end of the stream, again and again. -/
def untilClosed (n : Nat) (bodies : List Bytes) : List (Except ProtocolError Bytes) :=
  List.take n (bodies.map .ok ++ List.replicate n (.error .closed))

theorem untilClosed_nil (n : Nat) :
    untilClosed n [] = List.replicate n (.error .closed) := by
  simp [untilClosed]

theorem untilClosed_cons (n : Nat) (body : Bytes) (bodies : List Bytes) :
    untilClosed (n + 1) (body :: bodies) = .ok body :: untilClosed n bodies := by
  simp only [untilClosed, List.map_cons, List.cons_append, List.take_succ_cons, List.take_append,
    List.take_replicate]
  rw [Nat.min_eq_left (by omega), Nat.min_eq_left (by omega)]

theorem outcomes_of_chunked {s : Source} (hs : Chunked s) (h : (contents (bytesOf s)).2 = none) (n : Nat) :
    outcomes n s = untilClosed n (contents (bytesOf s)).1 := by
  induction n generalizing s with
  | zero => rfl
  | succ n ih =>
    cases hfront : front (bytesOf s) with
    | part =>
      have hnil : contents (bytesOf []) = ([], none) := contents_of_part rfl
      have hclosed := ih .nil (by rw [hnil])
      rw [outcomes, readFrame_of_part hs hfront, hclosed, hnil, contents_of_part hfront]
      simp only [untilClosed_nil, List.replicate_succ]
    | tooLarge bytes =>
      rw [contents_of_tooLarge hfront] at h
      cases h
    | frame body rest =>
      obtain ⟨s', hs', rfl, hread⟩ := readFrame_of_frame hs hfront []
      rw [List.append_nil, List.append_nil] at hread
      have hcontents := contents_of_frame hfront
      rw [hcontents] at h
      rw [outcomes, hread, ih hs' h, hcontents, untilClosed_cons]

/-- Of frames that break off those are left that are whole. -/
theorem contents_take {bodies : List Bytes} (h : ∀ body ∈ bodies, body.length ≤ bodyLimit) (k : Nat) :
    ∃ first later, bodies = first ++ later ∧ (first.flatMap frame).length ≤ k ∧
      (∀ next ∈ later.head?, k < ((first ++ [next]).flatMap frame).length) ∧
      contents ((bodies.flatMap frame).take k) = (first, none) := by
  induction bodies generalizing k with
  | nil =>
    refine ⟨[], [], rfl, Nat.zero_le k, nofun, ?_⟩
    rw [List.flatMap_nil, List.take_nil]
    exact contents_of_part rfl
  | cons body bodies ih =>
    have hbody : body.length ≤ bodyLimit := h body (by simp)
    rw [List.flatMap_cons]
    by_cases hk : k < (frame body).length
    · refine ⟨[], body :: bodies, rfl, Nat.zero_le k, ?_, ?_⟩
      · rintro next ⟨⟩
        simpa using hk
      · rw [List.take_append_of_le_length (Nat.le_of_lt hk)]
        exact contents_of_part (front_take_frame hbody hk)
    · have hlong : (frame body).length ≤ k := Nat.not_lt.1 hk
      obtain ⟨first, later, hsplit, hfits, hnext, hcontents⟩ :=
        ih (fun b hb => h b (by simp [hb])) (k - (frame body).length)
      refine ⟨body :: first, later, by rw [hsplit]; rfl, ?_, ?_, ?_⟩
      · rw [List.flatMap_cons, List.length_append]
        omega
      · intro next hmem
        have := hnext next hmem
        rw [List.cons_append, List.flatMap_cons, List.length_append]
        omega
      · rw [List.take_append, List.take_of_length_le hlong, contents_of_frame (front_frame hbody),
          hcontents]

/-! ## Writing and reading -/

/-- Writes frame after frame, up to one that cannot be written. -/
def Sink.writeFrames (s : Sink) : List Bytes → Except ProtocolError Unit × Sink
  | [] => (.ok (), s)
  | body :: bodies =>
    match s.writeFrame body with
    | (.ok (), s) => s.writeFrames bodies
    | failed => failed

theorem Sink.Accepts.writeFrames {s : Sink} (hs : s.Accepts) {bodies : List Bytes}
    (h : ∀ body ∈ bodies, body.length ≤ bodyLimit) :
    ∃ s', s.writeFrames bodies = (.ok (), s') ∧ s'.taken = (bodies.flatMap frame).reverse ++ s.taken := by
  induction bodies generalizing s with
  | nil => exact ⟨s, rfl, rfl⟩
  | cons body bodies ih =>
    obtain ⟨s₁, hwrite, hs₁, htaken₁⟩ := hs.writeFrame (h body (by simp))
    obtain ⟨s₂, hrest, htaken₂⟩ := ih hs₁ fun b hb => h b (by simp [hb])
    refine ⟨s₂, ?_, ?_⟩
    · simp only [Sink.writeFrames, hwrite, hrest]
    · rw [htaken₂, htaken₁, List.flatMap_cons, List.reverse_append, List.append_assoc]

theorem outcomes_of_take {bodies : List Bytes} (h : ∀ body ∈ bodies, body.length ≤ bodyLimit) {s : Source}
    (hs : Chunked s) {k : Nat} (hbytes : bytesOf s = (bodies.flatMap frame).take k) :
    ∃ first later, bodies = first ++ later ∧ (first.flatMap frame).length ≤ k ∧
      (∀ next ∈ later.head?, k < ((first ++ [next]).flatMap frame).length) ∧
      ∀ n, outcomes n s = untilClosed n first := by
  obtain ⟨first, later, hsplit, hfits, hnext, hcontents⟩ := contents_take h k
  rw [← hbytes] at hcontents
  refine ⟨first, later, hsplit, hfits, hnext, fun n => ?_⟩
  rw [outcomes_of_chunked hs (by rw [hcontents]), hcontents]

theorem outcomes_of_frames {bodies : List Bytes} (h : ∀ body ∈ bodies, body.length ≤ bodyLimit) {s : Source}
    (hs : Chunked s) (hbytes : bytesOf s = bodies.flatMap frame) (n : Nat) :
    outcomes n s = untilClosed n bodies := by
  have hcontents : contents (bytesOf s) = (bodies, none) := by
    have hnil : contents [] = ([], none) := contents_of_part rfl
    have hall : contents (bodies.flatMap frame ++ []) = (bodies ++ (contents []).1, (contents []).2) :=
      contents_append h
    rw [List.append_nil, hnil, List.append_nil] at hall
    rw [hbytes, hall]
  rw [outcomes_of_chunked hs (by rw [hcontents]), hcontents]

/-- What is written as frames is read as the same bodies in the same order, in whatever chunks it arrives
and wherever a read is interrupted; if it breaks off, as those whose frames are whole. Of a frame that is
announced too large only the header is read, nothing of a body that is too large is written, and a write
that fails leaves a first part of its frame behind. -/
theorem framing {bodies : List Bytes} (h : ∀ body ∈ bodies, body.length ≤ bodyLimit) {out : Sink}
    (hout : out.Accepts) (hnew : out.taken = []) :
    (∃ out', out.writeFrames bodies = (.ok (), out') ∧
      (∀ s, Chunked s → bytesOf s = out'.taken.reverse → ∀ n, outcomes n s = untilClosed n bodies) ∧
      ∀ s k, Chunked s → bytesOf s = out'.taken.reverse.take k →
        ∃ first later, bodies = first ++ later ∧ (first.flatMap frame).length ≤ k ∧
          (∀ next ∈ later.head?, k < ((first ++ [next]).flatMap frame).length) ∧
          ∀ n, outcomes n s = untilClosed n first) ∧
    (∀ head rest s, head.length = 4 → bodyLimit < lengthOf head → Chunked s → bytesOf s = head ++ rest →
      ∃ s', readFrame s = (.error (.frameTooLarge (lengthOf head)), s') ∧ bytesOf s' = rest) ∧
    (∀ (s : Sink) body, bodyLimit < body.length →
      s.writeFrame body = (.error (.frameTooLarge body.length), s)) ∧
    ∀ (s : Sink) body, ∃ part, part <+: frame body ∧
      (s.writeFrame body).2.taken.reverse = s.taken.reverse ++ part ∧
      ((s.writeFrame body).1 = .ok () → part = frame body) := by
  refine ⟨?_, ?_, ?_, ?_⟩
  · obtain ⟨out', hwrite, htaken⟩ := hout.writeFrames h
    have hwritten : out'.taken.reverse = bodies.flatMap frame := by
      rw [htaken, hnew, List.append_nil, List.reverse_reverse]
    refine ⟨out', hwrite, fun s hs hbytes => ?_, fun s k hs hbytes => ?_⟩
    · rw [hwritten] at hbytes
      exact outcomes_of_frames h hs hbytes
    · rw [hwritten] at hbytes
      exact outcomes_of_take h hs hbytes
  · intro head rest s hhead hlimit hs hbytes
    have hfront : front (bytesOf s) = .tooLarge (lengthOf head) := by
      rw [hbytes]
      exact front_tooLarge hhead hlimit
    obtain ⟨s', -, hrest, hread⟩ := readFrame_of_tooLarge hs hfront []
    rw [List.append_nil, List.append_nil] at hread
    refine ⟨s', hread, ?_⟩
    rw [hrest, hbytes, ← hhead, List.drop_left]
  · intro s body hlimit
    rw [Sink.writeFrame, if_pos hlimit]
  · intro s body
    obtain ⟨part, hpart, htaken, hall⟩ := Sink.takes_writeFrame s body
    refine ⟨part, hpart, ?_, hall⟩
    rw [htaken, List.reverse_append, List.reverse_reverse]

def shortBodies : List Bytes := [[0x22, 0x22], [0x31]]

/-- Their two frames in chunks, but for the last two bytes. -/
def piecemeal : Source :=
  [.fault .interrupted, .bytes [0, 0], .bytes [0], .fault .interrupted, .bytes [2, 0x22],
    .bytes [0x22, 0, 0, 0], .fault .interrupted]

theorem framing_piecemeal :
    (∀ body ∈ shortBodies, body.length ≤ bodyLimit) ∧ Sink.Accepts { step := some 3 } ∧
      Chunked piecemeal ∧ ∃ out', Sink.writeFrames { step := some 3 } shortBodies = (.ok (), out') ∧
        bytesOf piecemeal = out'.taken.reverse.take 9 ∧
        ∃ first later, shortBodies = first ++ later ∧ (first.flatMap frame).length ≤ 9 ∧
          (∀ next ∈ later.head?, 9 < ((first ++ [next]).flatMap frame).length) ∧
          ∀ n, outcomes n piecemeal = untilClosed n first := by
  have hbodies : ∀ body ∈ shortBodies, body.length ≤ bodyLimit := by decide
  have hout : Sink.Accepts { step := some 3 } := ⟨rfl, by decide, rfl⟩
  have hchunked : Chunked piecemeal := by simp [Chunked, piecemeal]
  obtain ⟨⟨out', hwrite, -, hcut⟩, -⟩ := framing hbodies hout rfl
  have hbytes : bytesOf piecemeal = out'.taken.reverse.take 9 := by
    obtain rfl : (Sink.writeFrames { step := some 3 } shortBodies).2 = out' := by rw [hwrite]
    decide +kernel
  exact ⟨hbodies, hout, hchunked, out', hwrite, hbytes, hcut piecemeal 9 hchunked hbytes⟩

end DetectorControl.Wire
