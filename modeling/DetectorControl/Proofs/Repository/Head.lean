import DetectorControl.Proofs.Basic
import DetectorControl.Proofs.Text.Parts
import DetectorControl.Repository.Head
import Mathlib.Data.List.Basic

/-!
# Resolving HEAD

What the parts of a look-up come to: the git directory that `.git` leads to (`gitDirectory_eq_ok_iff`), the
directory that it shares (`commonDirectory_eq_iff`), the lines of a text (`lines_eq_iff`) and the reference
that a line is about (`packedHash?_eq_some_iff`). `Resolves` says what a symbolic HEAD resolves to, in the
order in which the places are looked at. A place is passed over only if nothing is there: whatever else keeps
an entry from being read, such as a directory in its place, ends the look-up.
-/

namespace DetectorControl.Repository
variable {t : FileTree} {repository G C R : String} {result : Except HeadError String}

/-! ## Directories -/

theorem behind?_eq_some_iff {label text target : String} :
    behind? label text = some target ↔ ∃ back, text = label ++ back ∧ Text.trim back = target := by
  unfold behind?
  constructor
  · intro h
    split at h
    · next hlabel =>
      obtain ⟨back, hback⟩ := List.isPrefixOf_iff_prefix.1 hlabel
      rw [← hback, List.drop_left, Option.some.injEq] at h
      refine ⟨String.ofList back, ?_, h⟩
      rw [← String.toList_inj, String.toList_append, String.toList_ofList, hback]
    · cases h
  · rintro ⟨back, rfl, rfl⟩
    rw [String.toList_append, List.drop_left, String.ofList_toList,
      if_pos (List.isPrefixOf_iff_prefix.2 (List.prefix_append ..))]

theorem isDirectory_of_readText {path text : String} (h : t.readText path = .ok text) :
    t.isDirectory path = false := by
  unfold FileTree.readText at h
  unfold FileTree.isDirectory
  split at h
  · next hfind => rw [hfind]
  · cases h
  · next hfind => rw [hfind]

theorem read_eq_ok_iff {path text : String} : read t path = .ok text ↔ t.readText path = .ok text := by
  unfold read
  cases t.readText path <;> simp [Except.mapError]

/-- `.git` of the working tree is the git directory or a link to it. -/
inductive Leads (t : FileTree) (repository : String) : String → Prop
  | directory (h : t.isDirectory (Path.join repository ".git") = true) :
    Leads t repository (Path.join repository ".git")
  | link {text back : String} (h : t.readText (Path.join repository ".git") = .ok text)
    (hback : Text.trim text = "gitdir:" ++ back) : Leads t repository (Path.join repository (Text.trim back))

theorem gitDirectory_eq_ok_iff : gitDirectory t repository = .ok G ↔ Leads t repository G := by
  unfold gitDirectory
  constructor
  · intro h
    simp only at h
    split at h
    · next hdirectory =>
      obtain rfl : Path.join repository ".git" = G := Except.ok.inj h
      exact .directory hdirectory
    · obtain ⟨text, htext, h⟩ := bind_eq_ok_iff.1 h
      split at h
      · next target htarget =>
        obtain ⟨back, hback, rfl⟩ := behind?_eq_some_iff.1 htarget
        obtain rfl : Path.join repository (Text.trim back) = G := Except.ok.inj h
        exact .link (read_eq_ok_iff.1 htext) hback
      · cases h
  · rintro (hdirectory | ⟨htext, hback⟩)
    · simp only [hdirectory, if_true]
      rfl
    · have htarget := behind?_eq_some_iff.2 ⟨_, hback, rfl⟩
      simp only [isDirectory_of_readText htext, read_eq_ok_iff.2 htext, ok_bind, htarget, Bool.false_eq_true,
        if_false]
      rfl

/-- The git directory has a common directory of its own, or names another one. -/
inductive Shares (t : FileTree) (G : String) : String → Prop
  | own {fault : FileFault} (h : t.readText (Path.join G "commondir") = .error fault) : Shares t G G
  | named {text : String} (h : t.readText (Path.join G "commondir") = .ok text) :
    Shares t G (Path.join G (Text.trim text))

theorem commonDirectory_eq_iff : commonDirectory t G = C ↔ Shares t G C := by
  unfold commonDirectory
  constructor
  · rintro rfl
    split
    · next h => exact .named h
    · next h => exact .own h
  · rintro (h | h) <;> rw [h]

/-- HEAD of the git directory names a reference. -/
def Names (t : FileTree) (G R : String) : Prop :=
  ∃ text back, t.readText (Path.join G "HEAD") = .ok text ∧ Text.trim text = "ref:" ++ back ∧ Text.trim back = R

/-! ## Packed references -/

/-- The lines make up the characters: a line feed ends each of them, the last one perhaps not. -/
inductive Lined : List String → List Char → Prop
  | nil : Lined [] []
  | last {line : String} (h : '\n' ∉ line.toList) (hne : line ≠ "") : Lined [line] line.toList
  | cons {line : String} {rest : List String} {cs : List Char} (h : '\n' ∉ line.toList) (hrest : Lined rest cs) :
    Lined (line :: rest) (line.toList ++ '\n' :: cs)

theorem lines_of_not_mem {line : String} (h : '\n' ∉ line.toList) :
    lines line = if line = "" then [] else [line] := by
  have hsplit : Text.split '\n' line = [line] := by
    rw [Text.split_eq_splitOn, List.splitOn_eq_singleton h]
    simp
  simp [lines, hsplit]

theorem lines_append {line : String} (h : '\n' ∉ line.toList) (cs : List Char) :
    lines (String.ofList (line.toList ++ '\n' :: cs)) = line :: lines (String.ofList cs) := by
  have hsplit : Text.split '\n' (String.ofList (line.toList ++ '\n' :: cs)) =
      line :: Text.split '\n' (String.ofList cs) := by
    rw [Text.split_eq_splitOn, Text.split_eq_splitOn, String.toList_ofList, String.toList_ofList,
      List.splitOn_append_cons_self_of_not_mem h, List.map_cons, String.ofList_toList]
  have hne : Text.split '\n' (String.ofList cs) ≠ [] := by
    rw [Text.split_eq_splitOn]
    simp [List.splitOn_ne_nil]
  unfold lines
  rw [hsplit]
  simp only [List.getLast?_cons_of_ne_nil hne, List.dropLast_cons_of_ne_nil hne]
  split <;> rfl

theorem Lined.lines {ls : List String} {cs : List Char} (h : Lined ls cs) : lines (String.ofList cs) = ls := by
  induction h with
  | nil => rfl
  | last h hne => rw [String.ofList_toList, lines_of_not_mem h, if_neg hne]
  | cons h _ ih => rw [lines_append h, ih]

theorem exists_lined (cs : List Char) : ∃ ls, Lined ls cs := by
  rcases Text.cut_cases '\n' cs with ⟨hnone, -⟩ | ⟨front, back, hfront, hcs, -, -⟩
  · by_cases hempty : cs = []
    · exact ⟨[], hempty ▸ .nil⟩
    · have hlast : Lined [String.ofList cs] (String.ofList cs).toList :=
        .last (by rwa [String.toList_ofList]) (by rwa [Ne, String.ofList_eq_empty_iff])
      rw [String.toList_ofList] at hlast
      exact ⟨_, hlast⟩
  · obtain ⟨ls, hls⟩ := exists_lined back
    have hcons : Lined (String.ofList front :: ls) ((String.ofList front).toList ++ '\n' :: back) :=
      .cons (by rwa [String.toList_ofList]) hls
    rw [String.toList_ofList, ← hcs] at hcons
    exact ⟨_, hcons⟩
termination_by cs.length
decreasing_by simp [hcs]; omega

theorem lines_eq_iff {text : String} {ls : List String} : Repository.lines text = ls ↔ Lined ls text.toList := by
  constructor
  · rintro rfl
    obtain ⟨ls, hls⟩ := exists_lined text.toList
    have hlines := hls.lines
    rw [String.ofList_toList] at hlines
    rwa [hlines]
  · intro h
    rw [← h.lines, String.ofList_toList]

/-- The line tells the hash of the reference: it is neither a comment nor about what a tag is peeled to. -/
structure Tells (line name hash : String) : Prop where
  kept : ∀ c ∈ line.toList.head?, c ≠ '#' ∧ c ≠ '^'
  first : ' ' ∉ hash.toList
  parts : ∃ back, line = hash ++ " " ++ back ∧ Text.trim back = name

theorem toList_spaced (front back : String) :
    (front ++ " " ++ back).toList = front.toList ++ ' ' :: back.toList := by
  simp

theorem packedHash?_eq_some_iff {name line hash : String} :
    packedHash? name line = some hash ↔ Tells line name hash := by
  unfold packedHash?
  constructor
  · intro h
    split at h
    · cases h
    · cases h
    · next hcomment hpeeled =>
      have hkept : ∀ c ∈ line.toList.head?, c ≠ '#' ∧ c ≠ '^' := by
        intro c hc
        obtain ⟨cs, hcs⟩ := List.head?_eq_some_iff.1 hc
        exact ⟨fun he => hcomment cs (he ▸ hcs), fun he => hpeeled cs (he ▸ hcs)⟩
      rcases Text.cut_cases ' ' line.toList with ⟨-, hdrop⟩ | ⟨front, back, hfirst, hline, hdrop, htake⟩
      · rw [hdrop] at h
        cases h
      · rw [hdrop, htake] at h
        simp only [beq_iff_eq, Option.ite_none_right_eq_some, Option.some.injEq] at h
        obtain ⟨hname, rfl⟩ := h
        refine ⟨hkept, by rwa [String.toList_ofList], String.ofList back, ?_, hname⟩
        rw [← String.toList_inj, toList_spaced, String.toList_ofList, String.toList_ofList, hline]
  · rintro ⟨hkept, hfirst, back, rfl, hname⟩
    split
    · next hcomment => exact absurd rfl (hkept '#' (by rw [hcomment]; rfl)).1
    · next hpeeled => exact absurd rfl (hkept '^' (by rw [hpeeled]; rfl)).2
    · obtain ⟨hdrop, htake⟩ := Text.cut_append hfirst back.toList
      rw [toList_spaced, hdrop, htake]
      simp [hname]

/-- The first line that is about the reference tells this hash. -/
def TellsFirst (text name hash : String) : Prop :=
  ∃ before line after, Lined (before ++ line :: after) text.toList ∧ Tells line name hash ∧
    ∀ earlier ∈ before, ∀ hash', ¬Tells earlier name hash'

def Omits (text name : String) : Prop :=
  ∃ ls, Lined ls text.toList ∧ ∀ line ∈ ls, ∀ hash, ¬Tells line name hash

theorem packedHash?_eq_none_iff {name line : String} :
    packedHash? name line = none ↔ ∀ hash, ¬Tells line name hash := by
  simp only [Option.eq_none_iff_forall_ne_some, Ne, packedHash?_eq_some_iff]

theorem packedReference?_eq_some_iff {name text hash : String} :
    packedReference? name text = some hash ↔ TellsFirst text name hash := by
  unfold packedReference?
  rw [List.findSome?_eq_some_iff]
  simp only [packedHash?_eq_some_iff, packedHash?_eq_none_iff, lines_eq_iff]
  rfl

theorem packedReference?_eq_none_iff {name text : String} : packedReference? name text = none ↔ Omits text name := by
  unfold packedReference?
  simp only [List.findSome?_eq_none_iff, packedHash?_eq_none_iff]
  exact ⟨fun h => ⟨_, lines_eq_iff.1 rfl, h⟩, fun ⟨ls, hls, h⟩ => lines_eq_iff.2 hls ▸ h⟩

/-! ## References -/

/-- What the reference that HEAD names resolves to: the places are looked at one after the other, and one is
passed over only if nothing is there. -/
inductive Resolves (t : FileTree) (G C R : String) : Except HeadError String → Prop
  | own {text : String} (h : t.readText (Path.join G R) = .ok text) : Resolves t G C R (.ok (Text.trim text))
  | ownFault {fault : FileFault} (h : t.readText (Path.join G R) = .error fault) (hfault : fault ≠ .notFound) :
    Resolves t G C R (.error (.file fault))
  | shared {text : String} (hown : t.readText (Path.join G R) = .error .notFound)
    (h : t.readText (Path.join C R) = .ok text) : Resolves t G C R (.ok (Text.trim text))
  | sharedFault {fault : FileFault} (hown : t.readText (Path.join G R) = .error .notFound)
    (h : t.readText (Path.join C R) = .error fault) (hfault : fault ≠ .notFound) :
    Resolves t G C R (.error (.file fault))
  | packed {text hash : String} (hown : t.readText (Path.join G R) = .error .notFound)
    (hshared : t.readText (Path.join C R) = .error .notFound)
    (h : t.readText (Path.join C "packed-refs") = .ok text) (hline : TellsFirst text R hash) :
    Resolves t G C R (.ok hash)
  | packedFault {fault : FileFault} (hown : t.readText (Path.join G R) = .error .notFound)
    (hshared : t.readText (Path.join C R) = .error .notFound)
    (h : t.readText (Path.join C "packed-refs") = .error fault) : Resolves t G C R (.error (.file fault))
  | unknown {text : String} (hown : t.readText (Path.join G R) = .error .notFound)
    (hshared : t.readText (Path.join C R) = .error .notFound)
    (h : t.readText (Path.join C "packed-refs") = .ok text) (hlines : Omits text R) :
    Resolves t G C R (.error (.unknownReference R))

theorem reading_cases (t : FileTree) (path : String) : (∃ text, t.readText path = .ok text) ∨
    t.readText path = .error .notFound ∨ ∃ fault, fault ≠ .notFound ∧ t.readText path = .error fault := by
  cases t.readText path with
  | ok text => exact .inl ⟨text, rfl⟩
  | error fault =>
    by_cases hfault : fault = .notFound
    · exact .inr (.inl (by rw [hfault]))
    · exact .inr (.inr ⟨fault, hfault, rfl⟩)

theorem exists_resolves (t : FileTree) (G C R : String) : ∃ result, Resolves t G C R result := by
  rcases reading_cases t (Path.join G R) with ⟨text, h⟩ | hown | ⟨fault, hfault, h⟩
  · exact ⟨_, .own h⟩
  · rcases reading_cases t (Path.join C R) with ⟨text, h⟩ | hshared | ⟨fault, hfault, h⟩
    · exact ⟨_, .shared hown h⟩
    · cases h : t.readText (Path.join C "packed-refs") with
      | error fault => exact ⟨_, .packedFault hown hshared h⟩
      | ok text =>
        cases hline : packedReference? R text with
        | none => exact ⟨_, .unknown hown hshared h (packedReference?_eq_none_iff.1 hline)⟩
        | some hash => exact ⟨_, .packed hown hshared h (packedReference?_eq_some_iff.1 hline)⟩
    · exact ⟨_, .sharedFault hown h hfault⟩
  · exact ⟨_, .ownFault h hfault⟩

theorem looseReference?_nil : looseReference? t R [] = .ok none := rfl

theorem looseReference?_cons (directory : String) (rest : List String) :
    looseReference? t R (directory :: rest) =
      match t.readText (Path.join directory R) with
      | .ok hash => .ok (some (Text.trim hash))
      | .error .notFound => looseReference? t R rest
      | .error fault => .error (.file fault) := (rfl)

theorem looseReference?_eq_none (hown : t.readText (Path.join G R) = .error .notFound)
    (hshared : t.readText (Path.join C R) = .error .notFound) : looseReference? t R [G, C] = .ok none := by
  simp only [looseReference?_cons, hown, hshared, looseReference?_nil]

theorem resolve_eq_of_resolves (h : Resolves t G C R result) : resolve t G C R = result := by
  unfold resolve
  cases h with
  | own h => simp only [looseReference?_cons, h, ok_bind]; rfl
  | ownFault h hfault => simp only [looseReference?_cons, h]; rfl
  | shared hown h => simp only [looseReference?_cons, hown, h, ok_bind]; rfl
  | sharedFault hown h hfault => simp only [looseReference?_cons, hown, h]; rfl
  | packed hown hshared h hline =>
    simp only [looseReference?_eq_none hown hshared, ok_bind, read_eq_ok_iff.2 h, packedReference?_eq_some_iff.2 hline]
    rfl
  | packedFault hown hshared h =>
    simp only [looseReference?_eq_none hown hshared, ok_bind, read, h]
    rfl
  | unknown hown hshared h hlines =>
    simp only [looseReference?_eq_none hown hshared, ok_bind, read_eq_ok_iff.2 h, packedReference?_eq_none_iff.2 hlines]
    rfl

theorem resolve_eq_iff : resolve t G C R = result ↔ Resolves t G C R result := by
  constructor
  · rintro rfl
    obtain ⟨result, hresult⟩ := exists_resolves t G C R
    rwa [resolve_eq_of_resolves hresult]
  · exact resolve_eq_of_resolves

/-- What a symbolic HEAD comes to is what its reference resolves to. -/
theorem head_eq_iff_resolves (hleads : Leads t repository G) (hshares : Shares t G C) (hnames : Names t G R) :
    head t repository = result ↔ Resolves t G C R result := by
  obtain ⟨text, back, hread, hback, htarget⟩ := hnames
  have hbehind := behind?_eq_some_iff.2 ⟨back, hback, htarget⟩
  have hhead : head t repository = resolve t G C R := by
    simp only [head, gitDirectory_eq_ok_iff.2 hleads, read_eq_ok_iff.2 hread, ok_bind, hbehind,
      commonDirectory_eq_iff.2 hshares]
  rw [hhead, resolve_eq_iff]

/-- A working tree beside the main one, on a branch that is packed. -/
def besideMain : FileTree :=
  .ofWays []
    [(["w", ".git"], Bytes.ofString "gitdir: ../m/.git/worktrees/w\n"),
      (["m", ".git", "worktrees", "w", "HEAD"], Bytes.ofString "ref: refs/heads/b\n"),
      (["m", ".git", "worktrees", "w", "commondir"], Bytes.ofString "../..\n"),
      (["m", ".git", "packed-refs"],
        Bytes.ofString "# sorted\n7ff1 refs/tags/v\n^3c29 refs/heads/b\n5a4b refs/heads/b\n")]

theorem resolves_besideMain :
    Leads besideMain "/w" "/w/../m/.git/worktrees/w" ∧
      Shares besideMain "/w/../m/.git/worktrees/w" "/w/../m/.git/worktrees/w/../.." ∧
      Names besideMain "/w/../m/.git/worktrees/w" "refs/heads/b" ∧
      Resolves besideMain "/w/../m/.git/worktrees/w" "/w/../m/.git/worktrees/w/../.."
        "refs/heads/b" (.ok "5a4b") := by
  have hleads := gitDirectory_eq_ok_iff.1
    (show gitDirectory besideMain "/w" = .ok "/w/../m/.git/worktrees/w" by decide +kernel)
  have hshares := commonDirectory_eq_iff.1
    (show commonDirectory besideMain "/w/../m/.git/worktrees/w" =
      "/w/../m/.git/worktrees/w/../.." by decide +kernel)
  have hnames : Names besideMain "/w/../m/.git/worktrees/w" "refs/heads/b" :=
    ⟨"ref: refs/heads/b\n", " refs/heads/b", by decide +kernel, by decide +kernel, by decide +kernel⟩
  exact ⟨hleads, hshares, hnames, (head_eq_iff_resolves hleads hshares hnames).1 (by decide +kernel)⟩

/-- The branch `a` is packed, and the directory that a branch below `a` was kept in is left behind. -/
def leftBehind : FileTree :=
  .ofWays [["r", ".git", "refs", "heads", "a"]]
    [(["r", ".git", "HEAD"], Bytes.ofString "ref: refs/heads/a\n"),
      (["r", ".git", "packed-refs"], Bytes.ofString "# sorted\n5a4b refs/heads/a\n")]

theorem head_leftBehind : ∃ packed,
    Leads leftBehind "/r" "/r/.git" ∧ Shares leftBehind "/r/.git" "/r/.git" ∧
      Names leftBehind "/r/.git" "refs/heads/a" ∧ leftBehind.isDirectory "/r/.git/refs/heads/a" = true ∧
      leftBehind.readText "/r/.git/packed-refs" = .ok packed ∧ TellsFirst packed "refs/heads/a" "5a4b" ∧
      head leftBehind "/r" = .error (.file .isADirectory) := by
  refine ⟨"# sorted\n5a4b refs/heads/a\n", ?_, ?_, ?_, ?_, ?_, ?_, ?_⟩
  · exact gitDirectory_eq_ok_iff.1 (by decide +kernel)
  · exact commonDirectory_eq_iff.1 (by decide +kernel)
  · exact ⟨"ref: refs/heads/a\n", " refs/heads/a", by decide +kernel, by decide +kernel, by decide +kernel⟩
  · decide +kernel
  · decide +kernel
  · exact packedReference?_eq_some_iff.1 (by decide +kernel)
  · decide +kernel

end DetectorControl.Repository
