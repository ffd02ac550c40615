/-!
# Texts in parts

Cutting a text at each occurrence of a character, or at the last one.
-/

namespace DetectorControl.Text

/-- The parts of a list between separators, from left to right; the first one begins with the
characters of `part`, the last of which is first. -/
def splitList (separator : Char) (part : List Char) : List Char → List String
  | [] => [String.ofList part.reverse]
  | c :: cs =>
    if c = separator then String.ofList part.reverse :: splitList separator [] cs
    else splitList separator (c :: part) cs

/-- The parts of a text between separators, one more than there are separators. -/
def split (separator : Char) (s : String) : List String :=
  splitList separator [] s.toList

/-- What stands before and behind the last occurrence of a separator. -/
def splitLast? (separator : Char) (cs : List Char) : Option (List Char × List Char) :=
  match cs.reverse.dropWhile (· != separator) with
  | [] => none
  | _ :: front => some (front.reverse, (cs.reverse.takeWhile (· != separator)).reverse)

end DetectorControl.Text
