/-!
# Bytes

What goes over a wire or stands in a file, and the texts that it is the UTF-8 form of.
-/

namespace DetectorControl

abbrev Bytes := List UInt8

namespace Bytes

/-- The UTF-8 form of a text. -/
def ofString (s : String) : Bytes := s.toUTF8.data.toList

/-- The text of which the bytes are the UTF-8 form. -/
def toString? (bs : Bytes) : Option String := String.fromUTF8? ⟨bs.toArray⟩

theorem toString?_ofString (s : String) : toString? (ofString s) = some s := by
  simp [toString?, ofString, String.fromUTF8?, String.toUTF8, s.isValidUTF8]
  rfl

end Bytes

end DetectorControl
