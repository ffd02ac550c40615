import DetectorControl.Proofs.Json.Numerals
import DetectorControl.Proofs.Json.Writing

/-!
# Written strings are read

Every string is written as one token, which is read as that string (`run?_spellString`): inside the
quotes the contents grow by one character with what stands for that character.
-/

namespace DetectorControl.Json

namespace Scanner
variable {c : Contents}

/-- Contents without the half of a surrogate pair, which more bytes come to. -/
def withBytes (c : Contents) (bs : Bytes) : Contents := { c with bytes := bs.reverse ++ c.bytes }

theorem withBytes_withBytes (c : Contents) (bs bs' : Bytes) :
    withBytes (withBytes c bs) bs' = withBytes c (bs ++ bs') := by
  unfold withBytes
  simp

theorem addByte_eq (h : c.high = none) (b : UInt8) : c.addByte b = withBytes c [b] := by
  unfold Contents.addByte Contents.settle
  rw [h]
  rfl

/-- A byte that is no quote, no backslash and no control character stands for itself. -/
theorem step?_byte (h : c.high = none) {b : UInt8} (hquote : b ≠ 0x22) (hslash : b ≠ 0x5C)
    (hcontrol : ¬ b < 0x20) : (Scanner.string c).step? b = some (.string (withBytes c [b]), []) := by
  rw [step?, if_neg hquote, if_neg hslash, if_neg hcontrol, addByte_eq h]

theorem run?_bytes (h : c.high = none) {bs : Bytes} (hbs : ∀ b ∈ bs, 128 ≤ b) (tokens : List Token)
    (rest : Bytes) :
    (Scanner.string c).run? tokens (bs ++ rest) = (Scanner.string (withBytes c bs)).run? tokens rest := by
  induction bs generalizing c with
  | nil => rfl
  | cons b bs ih =>
    have hb : 128 ≤ b.toNat := UInt8.le_iff_toNat_le.1 (hbs b (by simp))
    have hne {n : UInt8} (hn : n.toNat < 128) : b ≠ n := by
      rintro rfl
      omega
    have hcontrol : ¬ b < 0x20 := by
      rw [UInt8.lt_iff_toNat_lt, Nat.not_lt]
      exact Nat.le_trans (by decide) hb
    have hstep := step?_byte h (hne (n := 0x22) (by decide)) (hne (n := 0x5C) (by decide)) hcontrol
    rw [List.cons_append, run?, hstep]
    have hrest := ih (c := withBytes c [b]) h fun b hb => hbs b (by simp [hb])
    rw [withBytes_withBytes] at hrest
    exact hrest

theorem reads_plain (h : c.high = none) {x : Char} (hquote : x ≠ '"') (hslash : x ≠ '\\')
    (hcontrol : 0x20 ≤ x.toNat) :
    Reads (.string c) [x] (.string (withBytes c (String.utf8EncodeChar x))) := by
  by_cases hx : x.toNat < 128
  · have hvalue := ofNat_toNat hx
    have hne {y : Char} (hy : y.toNat < 128) (hxy : x ≠ y) :
        UInt8.ofNat x.toNat ≠ UInt8.ofNat y.toNat := by
      intro heq
      have heq := congrArg UInt8.toNat heq
      rw [hvalue, ofNat_toNat hy] at heq
      exact hxy (Char.toNat_inj.1 heq)
    have hlow : ¬ UInt8.ofNat x.toNat < 0x20 := by
      rw [UInt8.lt_iff_toNat_lt, hvalue, Nat.not_lt]
      exact hcontrol
    rw [Bytes.encodeChar_of_lt hx]
    exact .of_step hx (step?_byte h (hne (by decide) hquote) (hne (by decide) hslash) hlow)
  · intro tokens rest
    rw [Bytes.encode_cons, Bytes.encode_nil, List.append_nil]
    exact run?_bytes h (fun b hb => Bytes.le_of_mem_encodeChar (Nat.not_lt.1 hx) hb) tokens rest

theorem reads_control (h : c.high = none) {n : Nat} (hn : n < 0x20) :
    Reads (.string c) (Json.escape (Char.ofNat n))
      (.string (withBytes c (String.utf8EncodeChar (Char.ofNat n)))) := by
  obtain ⟨bytes, high, sound⟩ := c
  cases h
  match n, hn with
  | 0, _ | 1, _ | 2, _ | 3, _ | 4, _ | 5, _ | 6, _ | 7, _ | 8, _ | 9, _ | 10, _ | 11, _ | 12, _ | 13, _
  | 14, _ | 15, _ | 16, _ | 17, _ | 18, _ | 19, _ | 20, _ | 21, _ | 22, _ | 23, _ | 24, _ | 25, _
  | 26, _ | 27, _ | 28, _ | 29, _ | 30, _ | 31, _ => exact fun tokens rest => rfl
  | n + 32, hn => omega

theorem reads_escape (h : c.high = none) (x : Char) :
    Reads (.string c) (Json.escape x) (.string (withBytes c (String.utf8EncodeChar x))) := by
  by_cases hcontrol : x.toNat < 0x20
  · have hx : x = Char.ofNat x.toNat := (Char.ofNat_toNat x).symm
    rw [hx]
    exact reads_control h hcontrol
  · have hcontrol : 0x20 ≤ x.toNat := Nat.not_lt.1 hcontrol
    by_cases hquote : x = '"'
    · subst hquote
      obtain ⟨bytes, high, sound⟩ := c
      cases h
      exact fun tokens rest => rfl
    · by_cases hslash : x = '\\'
      · subst hslash
        obtain ⟨bytes, high, sound⟩ := c
        cases h
        exact fun tokens rest => rfl
      · rw [Json.escape, if_neg hquote, if_neg hslash, if_pos hcontrol]
        exact reads_plain h hquote hslash hcontrol

theorem reads_escapes (h : c.high = none) (cs : List Char) :
    Reads (.string c) (cs.flatMap Json.escape) (.string (withBytes c (Bytes.encode cs))) := by
  induction cs generalizing c with
  | nil => exact .nil _
  | cons x cs ih =>
    have hrest := ih (c := withBytes c (String.utf8EncodeChar x)) h
    rw [withBytes_withBytes] at hrest
    rw [List.flatMap_cons, Bytes.encode_cons]
    exact (reads_escape h x).trans hrest

end Scanner

theorem run?_spellString (s : String) (tokens : List Token) (rest : Bytes) :
    Scanner.between.run? tokens (Bytes.encode (spellString s) ++ rest) =
      Scanner.between.run? (.string (some s) :: tokens) rest := by
  have hopen : Scanner.Reads .between ['"'] (.string {}) := .of_step (by decide) rfl
  have hcontents : (Scanner.withBytes {} (Bytes.encode s.toList)).toString? = some s := by
    show Bytes.toString? (Scanner.withBytes {} (Bytes.encode s.toList)).bytes.reverse = some s
    unfold Scanner.withBytes
    rw [List.append_nil, List.reverse_reverse, ← Bytes.ofString_eq, Bytes.toString?_ofString]
  have hreads := hopen.trans (Scanner.reads_escapes (c := {}) rfl s.toList)
  have hspell : spellString s = ['"'] ++ s.toList.flatMap escape ++ ['"'] := rfl
  rw [hspell, Bytes.encode_append, List.append_assoc, hreads, Bytes.encode_cons_of_lt (by decide),
    Bytes.encode_nil, List.cons_append, List.nil_append]
  show Scanner.between.run? (.string _ :: tokens) rest = _
  rw [hcontents]

end DetectorControl.Json
