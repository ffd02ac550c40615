import DetectorControl.Json.Printer

/-!
# The text of a value

The printer extends a text that is written already. What it adds does not depend on that text, and
is spelled out here as a list of characters: `toList_write`.
-/

namespace DetectorControl.Json

def spellString (s : String) : List Char := '"' :: (s.toList.flatMap escape ++ ['"'])

mutual

def spell : Json → List Char
  | .null => "null".toList
  | .bool b => (if b then "true" else "false").toList
  | .number n => n.write.toList
  | .string s => spellString s
  | .array [] => ['[', ']']
  | .array (v :: vs) => '[' :: (spell v ++ (spellItems vs ++ [']']))
  | .object [] => ['\x7b', '\x7d']
  | .object ((k, v) :: ms) =>
    '\x7b' :: (spellString k ++ ':' :: (spell v ++ (spellMembers ms ++ ['\x7d'])))

/-- The items behind the first. -/
def spellItems : List Json → List Char
  | [] => []
  | v :: vs => ',' :: (spell v ++ spellItems vs)

/-- The members behind the first. -/
def spellMembers : List (String × Json) → List Char
  | [] => []
  | (k, v) :: ms => ',' :: (spellString k ++ ':' :: (spell v ++ spellMembers ms))

end

theorem toList_foldl_push (cs : List Char) (out : String) :
    (cs.foldl String.push out).toList = out.toList ++ cs := by
  induction cs generalizing out with
  | nil => simp
  | cons c cs ih => simp [ih]

theorem toList_writeString (out s : String) :
    (writeString out s).toList = out.toList ++ spellString s := by
  have hescape : ∀ (cs : List Char) (out : String),
      (cs.foldl (fun out c => (escape c).foldl String.push out) out).toList =
        out.toList ++ cs.flatMap escape := by
    intro cs
    induction cs with
    | nil => intro out; simp
    | cons c cs ih =>
      intro out
      rw [List.foldl_cons, ih, toList_foldl_push, List.flatMap_cons, List.append_assoc]
  unfold writeString spellString
  rw [String.toList_push, hescape, String.toList_push]
  simp

mutual

theorem toList_write (out : String) (v : Json) : (write out v).toList = out.toList ++ spell v := by
  cases v with
  | null => rw [write, spell, String.toList_append]
  | bool b => rw [write, spell, String.toList_append]
  | number n => rw [write, spell, String.toList_append]
  | string s => rw [write, spell, toList_writeString]
  | array items =>
    cases items with
    | nil => rw [write, spell, String.toList_append]; rfl
    | cons v vs =>
      rw [write, spell, String.toList_push, toList_writeItems, toList_write, String.toList_push]
      simp
  | object members =>
    cases members with
    | nil => rw [write, spell, String.toList_append]; rfl
    | cons m ms =>
      obtain ⟨k, v⟩ := m
      rw [write, spell, String.toList_push, toList_writeMembers, toList_write, String.toList_push,
        toList_writeString, String.toList_push]
      simp

theorem toList_writeItems (out : String) (vs : List Json) :
    (writeItems out vs).toList = out.toList ++ spellItems vs := by
  cases vs with
  | nil => rw [writeItems, spellItems, List.append_nil]
  | cons v vs =>
    rw [writeItems, spellItems, toList_writeItems, toList_write, String.toList_push]
    simp

theorem toList_writeMembers (out : String) (ms : List (String × Json)) :
    (writeMembers out ms).toList = out.toList ++ spellMembers ms := by
  cases ms with
  | nil => rw [writeMembers, spellMembers, List.append_nil]
  | cons m ms =>
    obtain ⟨k, v⟩ := m
    rw [writeMembers, spellMembers, toList_writeMembers, toList_write, String.toList_push,
      toList_writeString, String.toList_push]
    simp

end

theorem toList_compact (v : Json) : v.compact.toList = spell v := by
  rw [compact, toList_write]
  rfl

end DetectorControl.Json
