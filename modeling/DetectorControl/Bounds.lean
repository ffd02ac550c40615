/-!
# Bounds of integers

The least and the greatest integers of the widths in which numbers are sent and stored.
-/

namespace DetectorControl.Bounds

/-- The greatest integer of 32 bits. -/
def natural32 : Nat := 4294967295

/-- The greatest integer of 64 bits. -/
def natural64 : Nat := 18446744073709551615

/-- The least integer of 64 bits, one of which is the sign. -/
def least64 : Int := -9223372036854775808

/-- The greatest integer of 64 bits, one of which is the sign. -/
def greatest64 : Int := 9223372036854775807

end DetectorControl.Bounds
