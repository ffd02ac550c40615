import DetectorControl.Command
import DetectorControl.Proofs.Text.Blank
import DetectorControl.Proofs.Text.Parts

/-!
# The name of a command

A command is cut at its first dot (`splitDot_eq_some_iff`). What a text has to be in order to be read as a
request is said by `Request.Reads` (`reads_iff`), and whom the request addresses by `Command.Addresses`
(`addresses_of_reads`).
-/

namespace DetectorControl

namespace Command

/-! ## Dots -/

theorem splitDot_eq_none_iff {s : String} : splitDot s = none ↔ '.' ∉ s.toList := by
  unfold splitDot
  rcases Text.cut_cases '.' s.toList with ⟨hnone, hdrop⟩ | ⟨front, back, hfront, hsplit, hdrop, htake⟩
  · simp [hdrop, hnone]
  · rw [hdrop, hsplit]
    simp

theorem splitDot_eq_some_iff {s target verb : String} :
    splitDot s = some (target, verb) ↔ '.' ∉ target.toList ∧ s = target ++ "." ++ verb := by
  have htext : s = target ++ "." ++ verb ↔ s.toList = target.toList ++ '.' :: verb.toList := by
    rw [← String.toList_inj, String.toList_append, String.toList_append, List.append_assoc]
    rfl
  rw [htext]
  unfold splitDot
  constructor
  · intro h
    rcases Text.cut_cases '.' s.toList with ⟨hnone, hdrop⟩ | ⟨front, back, hfront, hsplit, hdrop, htake⟩
    · rw [hdrop] at h
      cases h
    · rw [hdrop, htake] at h
      cases h
      rw [String.toList_ofList, String.toList_ofList]
      exact ⟨hfront, hsplit⟩
  · rintro ⟨hdot, hs⟩
    obtain ⟨hdrop, htake⟩ := Text.cut_append hdot verb.toList
    rw [hs, hdrop, htake]
    simp

/-- A command is found again in its name: the target has no dot, and there is no blank to be trimmed. -/
theorem splitDot_trim {target verb : String} (hdot : '.' ∉ target.toList)
    (hfirst : ∀ c ∈ target.toList.head?, Text.isBlank c = false)
    (hlast : ∀ c ∈ verb.toList.getLast?, Text.isBlank c = false) :
    splitDot (Text.trim (target ++ "." ++ verb)) = some (target, verb) := by
  have hlist : (target ++ "." ++ verb).toList = target.toList ++ '.' :: verb.toList := by
    rw [String.toList_append, String.toList_append, List.append_assoc]
    rfl
  have htrim : Text.trim (target ++ "." ++ verb) = target ++ "." ++ verb := by
    apply Text.trim_eq_self
    · rw [hlist]
      cases hchars : target.toList with
      | nil =>
        rintro c ⟨⟩
        decide
      | cons c cs =>
        rw [hchars] at hfirst
        exact hfirst
    · rw [hlist, List.getLast?_append, List.getLast?_cons]
      rintro c ⟨⟩
      cases hchars : verb.toList.getLast? with
      | none => decide
      | some c => exact hlast c hchars
  rw [htrim]
  exact splitDot_eq_some_iff.2 ⟨hdot, rfl⟩

end Command

/-! ## Requests -/

/-- The options that stand in a part of a request: none if the part is missing or `null`. -/
inductive Options.Given : Option Json.Tree → Options → Prop
  | absent : Given none .empty
  | null : Given (some .null) .empty
  | object {members : List (Option String × Json.Tree)} {fields : Fields}
    (h : Json.Tree.value? (Json.depthLimit - 1) (.object members) = some (.object fields)) :
    Given (some (.object members)) ⟨fields⟩

theorem Options.given_iff {part : Option Json.Tree} {o : Options} :
    (∃ o?, Json.Tree.orElse part none (Json.Tree.nullable? (ofTree? (Json.depthLimit - 1))) = some o? ∧
      o?.getD .empty = o) ↔ Given part o := by
  constructor
  · rintro ⟨o?, ho, rfl⟩
    cases part with
    | none =>
      cases ho
      exact .absent
    | some t =>
      have ho : (if t.isNull then some none else (ofTree? (Json.depthLimit - 1) t).map some) = some o? := ho
      cases t with
      | null =>
        cases ho
        exact .null
      | object members =>
        obtain ⟨o, hread, rfl⟩ := Option.map_eq_some_iff.1 ho
        simp only [ofTree?] at hread
        split at hread
        · rename_i fields hvalue
          cases hread
          exact .object hvalue
        · cases hread
      | _ => cases ho
  · intro h
    cases h with
    | absent => exact ⟨none, rfl, rfl⟩
    | null => exact ⟨none, rfl, rfl⟩
    | @object members fields h =>
      refine ⟨some ⟨fields⟩, ?_, rfl⟩
      show (ofTree? (Json.depthLimit - 1) (.object members)).map some = _
      simp only [ofTree?, h]
      rfl

namespace Request

/-- The text is that of a request with this command and these options. -/
def Reads (body : Bytes) (command : String) (o : Options) : Prop :=
  ∃ t part, Json.Tree.parse? body = some t ∧
    t.record? ["command", "option"] = some [some (.string (some command)), part] ∧ Options.Given part o

theorem ofTree?_eq_some_iff {t : Json.Tree} {q : Request} :
    ofTree? t = some q ↔ ∃ part, t.record? ["command", "option"] = some [some (.string (some q.command)), part] ∧
      Json.Tree.orElse part none (Json.Tree.nullable? (Options.ofTree? (Json.depthLimit - 1))) = some q.options := by
  constructor
  · intro h
    obtain ⟨parts, hparts, h⟩ := Option.bind_eq_some_iff.1 h
    split at h
    · rename_i command part
      obtain ⟨text, htext, h⟩ := Option.bind_eq_some_iff.1 h
      obtain ⟨options, hoptions, h⟩ := Option.bind_eq_some_iff.1 h
      cases h
      obtain ⟨u, rfl, hstring⟩ := Option.bind_eq_some_iff.1 htext
      have hu : u = .string (some text) := by
        cases u with
        | string s => exact congrArg Json.Tree.string hstring
        | _ => cases hstring
      exact ⟨part, by rw [hparts, hu], hoptions⟩
    · cases h
  · rintro ⟨part, hparts, hoptions⟩
    simp only [ofTree?, hparts, Option.bind_eq_bind, Option.bind_some, Json.Tree.string?, hoptions]
    rfl

theorem read_eq_ok_iff {body : Bytes} {q : Request} : read body = .ok q ↔ ofText? body = some q := by
  unfold read
  split
  · rename_i q' hq
    rw [hq, Except.ok.injEq, Option.some.injEq]
  · rename_i hnone
    rw [hnone]
    constructor <;> nofun

theorem reads_iff {body : Bytes} {command : String} {o : Options} :
    Reads body command o ↔ ∃ q, read body = .ok q ∧ q.command = command ∧ q.options.getD .empty = o := by
  constructor
  · rintro ⟨t, part, hparse, hparts, hgiven⟩
    obtain ⟨o?, hoptions, ho⟩ := Options.given_iff.2 hgiven
    refine ⟨⟨command, o?⟩, ?_, rfl, ho⟩
    rw [read_eq_ok_iff, ofText?, hparse]
    exact ofTree?_eq_some_iff.2 ⟨part, hparts, hoptions⟩
  · rintro ⟨q, hq, rfl, rfl⟩
    obtain ⟨t, hparse, htree⟩ := Option.bind_eq_some_iff.1 (read_eq_ok_iff.1 hq)
    obtain ⟨part, hparts, hoptions⟩ := ofTree?_eq_some_iff.1 htree
    exact ⟨t, part, hparse, hparts, Options.given_iff.1 ⟨_, hoptions, rfl⟩⟩

end Request

namespace Command

/-- The text is that of a request to a target: its command, but for blanks at its ends, is cut at the first
dot, and what has no dot is a command to the controller. -/
def Addresses (body : Bytes) (target verb : String) (o : Options) : Prop :=
  ∃ command, Request.Reads body command o ∧ Text.trim command ≠ "" ∧
    ('.' ∉ target.toList ∧ Text.trim command = target ++ "." ++ verb ∨
      '.' ∉ (Text.trim command).toList ∧ target = Target.controllerName ∧ verb = Text.trim command)

theorem ofName_inj {name name' : String} : Target.ofName name = .ofName name' ↔ name = name' := by
  constructor
  · intro h
    rw [← Target.name_ofName name, h, Target.name_ofName]
  · exact congrArg Target.ofName

theorem parse_of_isEmpty {q : Request} (h : Text.trim q.command = "") : parse q = .error .emptyCommand := by
  simp [parse, h]

theorem parse_of_ne {q : Request} (h : Text.trim q.command ≠ "") :
    ∃ target verb, parse q = .ok ⟨.ofName target, verb, q.options.getD .empty⟩ ∧
      ('.' ∉ target.toList ∧ Text.trim q.command = target ++ "." ++ verb ∨
        '.' ∉ (Text.trim q.command).toList ∧ target = Target.controllerName ∧ verb = Text.trim q.command) := by
  have hne : (Text.trim q.command).isEmpty = false := by
    rw [Bool.eq_false_iff, Ne, String.isEmpty_iff]
    exact h
  unfold parse
  simp only [hne]
  cases hsplit : splitDot (Text.trim q.command) with
  | none => exact ⟨Target.controllerName, _, rfl, .inr ⟨splitDot_eq_none_iff.1 hsplit, rfl, rfl⟩⟩
  | some parts => exact ⟨parts.1, parts.2, rfl, .inl (splitDot_eq_some_iff.1 hsplit)⟩

/-- There is one way only to take a command apart. -/
theorem parts_unique {s target target' verb verb' : String}
    (h : '.' ∉ target.toList ∧ s = target ++ "." ++ verb ∨
      '.' ∉ s.toList ∧ target = Target.controllerName ∧ verb = s)
    (h' : '.' ∉ target'.toList ∧ s = target' ++ "." ++ verb' ∨
      '.' ∉ s.toList ∧ target' = Target.controllerName ∧ verb' = s) : target = target' ∧ verb = verb' := by
  rcases h with hdot | ⟨hnone, rfl, rfl⟩
  · rcases h' with hdot' | ⟨hnone', rfl, rfl⟩
    · have hparts := (splitDot_eq_some_iff.2 hdot).symm.trans (splitDot_eq_some_iff.2 hdot')
      exact Prod.mk.inj (Option.some.inj hparts)
    · rw [← splitDot_eq_none_iff, splitDot_eq_some_iff.2 hdot] at hnone'
      cases hnone'
  · rcases h' with hdot' | ⟨-, rfl, rfl⟩
    · rw [← splitDot_eq_none_iff, splitDot_eq_some_iff.2 hdot'] at hnone
      cases hnone
    · exact ⟨rfl, rfl⟩

theorem addresses_of_reads {body : Bytes} {command : String} {o : Options} (hreads : Request.Reads body command o)
    (hne : Text.trim command ≠ "") : ∃ target verb, Addresses body target verb o := by
  obtain ⟨q, hq, rfl, rfl⟩ := Request.reads_iff.1 hreads
  obtain ⟨target, verb, -, hparts⟩ := parse_of_ne hne
  exact ⟨target, verb, q.command, hreads, hne, hparts⟩

end Command

end DetectorControl
