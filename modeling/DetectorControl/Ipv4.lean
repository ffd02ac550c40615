import DetectorControl.Bounds
import DetectorControl.Decimal.Literal
import DetectorControl.Text.Digit
import DetectorControl.Text.Split

/-!
# IPv4 addresses

An address is written as one to four numbers with dots between them. All but the last stand for one
byte each, and the last one for all bytes that are left. A number is hexadecimal behind `0x`, octal
behind a zero, and decimal otherwise. As an integer, an address has its first byte highest.
-/

namespace DetectorControl.Ipv4

/-- The number that a whole text spells in a base, or one that is too large for an address. -/
def digits? (base : Nat) (cs : List Char) : Option Nat :=
  if cs.isEmpty then none
  else (cs.mapM (Text.digit? base)).map (Decimal.ofDigitsUpTo base Bounds.natural32)

def number? (part : String) : Option Nat :=
  match part.toList with
  | '0' :: 'x' :: cs | '0' :: 'X' :: cs => digits? 16 cs
  | '0' :: cs => digits? 8 ('0' :: cs)
  | cs => digits? 10 cs

/-- The last bytes of an address, so many of them, out of its last numbers. -/
def join? : (bytes : Nat) → List Nat → Option Nat
  | 0, _ | _, [] => none
  | bytes + 1, [n] => if n < Nat.pow 256 (bytes + 1) then some n else none
  | bytes + 1, n :: rest =>
    if n < 256 then (join? bytes rest).map (n * Nat.pow 256 bytes + ·) else none

def parse? (s : String) : Option Nat :=
  ((Text.split '.' s).mapM number?).bind (join? 4)

/-- The name of this computer for itself, in letters of either case. -/
def localName : String := "localhost"

/-- The address of a host that is given by its address or is this computer. -/
def ofHost? (host : String) : Option Nat :=
  if host.map Char.toLower == localName then parse? "127.0.0.1" else parse? host

/-- Whether a host is this computer, or stands for all of its addresses. -/
def isLocal (host : String) : Bool :=
  match ofHost? host with
  | some address => address / 0x1000000 == 127 || address == 0
  | none => false

theorem join?_lt {bytes n : Nat} {ns : List Nat} (h : join? bytes ns = some n) :
    n < Nat.pow 256 bytes := by
  induction bytes generalizing n ns with
  | zero => simp [join?] at h
  | succ bytes ih =>
    match ns with
    | [] => simp [join?] at h
    | [m] => simp only [join?] at h; split at h <;> simp_all
    | m :: m' :: rest =>
      simp only [join?] at h
      split at h
      · obtain ⟨r, hr, rfl⟩ := Option.map_eq_some_iff.mp h
        have := ih hr
        rw [show Nat.pow 256 (bytes + 1) = Nat.pow 256 bytes * 256 from rfl]
        have : m * Nat.pow 256 bytes ≤ 255 * Nat.pow 256 bytes := Nat.mul_le_mul_right _ (by omega)
        omega
      · simp at h

/-- An address has 32 bits. -/
theorem parse?_le {s : String} {n : Nat} (h : parse? s = some n) : n ≤ Bounds.natural32 := by
  obtain ⟨ns, -, h⟩ := Option.bind_eq_some_iff.mp h
  have := join?_lt h
  rw [show Nat.pow 256 4 = Bounds.natural32 + 1 from rfl] at this
  omega

end DetectorControl.Ipv4
