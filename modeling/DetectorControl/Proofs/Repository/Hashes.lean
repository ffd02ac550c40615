import DetectorControl.Proofs.Repository.Head
import DetectorControl.Subsystems.Detector

/-!
# What is reported as a hash

A look-up of HEAD ends at HEAD itself, at the file of the reference that it names, or at a line of packed
references (`head_eq_ok_iff`), and passes on what stands there as it is. So it reports a success without a
hash exactly if the place at which it ends holds none (`Corrupt`): if that is blank, or names a reference
once more, which is not followed.
-/

namespace DetectorControl.Repository
variable {t : FileTree} {repository G C R hash : String}

/-- Where a look-up that succeeds ends. -/
inductive Finds (t : FileTree) (repository : String) : String → Prop
  | detached {G text : String} (hleads : Leads t repository G) (h : t.readText (Path.join G "HEAD") = .ok text)
    (hdirect : ∀ back, Text.trim text ≠ "ref:" ++ back) : Finds t repository (Text.trim text)
  | named {G C R hash : String} (hleads : Leads t repository G) (hshares : Shares t G C) (hnames : Names t G R)
    (h : Resolves t G C R (.ok hash)) : Finds t repository hash

theorem behind?_eq_none_iff {label text : String} : behind? label text = none ↔ ∀ back, text ≠ label ++ back := by
  simp only [Option.eq_none_iff_forall_ne_some, Ne, behind?_eq_some_iff]
  exact ⟨fun h back htext => h _ ⟨back, htext, rfl⟩, fun h _ ⟨back, htext, _⟩ => h back htext⟩

theorem head_eq_ok_iff : head t repository = .ok hash ↔ Finds t repository hash := by
  constructor
  · intro h
    obtain ⟨G, hG, h⟩ := bind_eq_ok_iff.1 h
    obtain ⟨text, htext, h⟩ := bind_eq_ok_iff.1 h
    have hleads := gitDirectory_eq_ok_iff.1 hG
    have hread := read_eq_ok_iff.1 htext
    dsimp only at h
    split at h
    · next hdirect =>
      obtain rfl : Text.trim text = hash := Except.ok.inj h
      exact .detached hleads hread (behind?_eq_none_iff.1 hdirect)
    · next R hR =>
      obtain ⟨back, hback, hR⟩ := behind?_eq_some_iff.1 hR
      exact .named hleads (commonDirectory_eq_iff.1 rfl) ⟨text, back, hread, hback, hR⟩ (resolve_eq_iff.1 h)
  · rintro (⟨hleads, h, hdirect⟩ | ⟨hleads, hshares, hnames, h⟩)
    · simp only [head, gitDirectory_eq_ok_iff.2 hleads, read_eq_ok_iff.2 h, ok_bind, behind?_eq_none_iff.2 hdirect]
      rfl
    · exact (head_eq_iff_resolves hleads hshares hnames).2 h

/-- Nothing, or the name of a reference. -/
def Improper (hash : String) : Prop := hash = "" ∨ ∃ back, hash = "ref:" ++ back

/-- The reference has a file of its own, in the git directory or else in the shared one. -/
inductive Loose (t : FileTree) (G C R text : String) : Prop
  | own (h : t.readText (Path.join G R) = .ok text)
  | shared (hown : t.readText (Path.join G R) = .error .notFound) (h : t.readText (Path.join C R) = .ok text)

/-- The reference has no file of its own, and the first packed line about it tells this hash. -/
structure Packed (t : FileTree) (G C R hash : String) : Prop where
  own : t.readText (Path.join G R) = .error .notFound
  shared : t.readText (Path.join C R) = .error .notFound
  line : ∃ text, t.readText (Path.join C "packed-refs") = .ok text ∧ TellsFirst text R hash

theorem resolves_ok_iff :
    Resolves t G C R (.ok hash) ↔ (∃ text, Loose t G C R text ∧ Text.trim text = hash) ∨ Packed t G C R hash := by
  constructor
  · intro h
    cases h with
    | own h => exact .inl ⟨_, .own h, rfl⟩
    | shared hown h => exact .inl ⟨_, .shared hown h, rfl⟩
    | packed hown hshared h hline => exact .inr ⟨hown, hshared, _, h, hline⟩
  · rintro (⟨text, hown | ⟨hown, hshared⟩, rfl⟩ | ⟨hown, hshared, text, h, hline⟩)
    · exact .own hown
    · exact .shared hown hshared
    · exact .packed hown hshared h hline

/-- The place at which the look-up ends holds no hash. -/
inductive Corrupt (t : FileTree) (repository : String) : Prop
  | blank {G text : String} (hleads : Leads t repository G) (h : t.readText (Path.join G "HEAD") = .ok text)
    (hblank : Text.trim text = "")
  | loose {G C R text : String} (hleads : Leads t repository G) (hshares : Shares t G C) (hnames : Names t G R)
    (h : Loose t G C R text) (himproper : Improper (Text.trim text))
  | packed {G C R hash : String} (hleads : Leads t repository G) (hshares : Shares t G C) (hnames : Names t G R)
    (h : Packed t G C R hash) (himproper : Improper hash)

theorem head_improper_iff : (∃ hash, head t repository = .ok hash ∧ Improper hash) ↔ Corrupt t repository := by
  simp only [head_eq_ok_iff]
  constructor
  · rintro ⟨hash, ⟨hleads, h, hdirect⟩ | ⟨hleads, hshares, hnames, h⟩, himproper⟩
    · exact .blank hleads h (himproper.resolve_right fun ⟨back, hback⟩ => hdirect back hback)
    · rcases resolves_ok_iff.1 h with ⟨text, hloose, rfl⟩ | hpacked
      · exact .loose hleads hshares hnames hloose himproper
      · exact .packed hleads hshares hnames hpacked himproper
  · rintro (⟨hleads, h, hblank⟩ | ⟨hleads, hshares, hnames, h, himproper⟩ | ⟨hleads, hshares, hnames, h, himproper⟩)
    · refine ⟨_, .detached hleads h fun back hback => ?_, .inl hblank⟩
      have hlist := congrArg String.toList (hblank.symm.trans hback)
      simp at hlist
    · exact ⟨_, .named hleads hshares hnames (resolves_ok_iff.2 (.inl ⟨_, h, rfl⟩)), himproper⟩
    · exact ⟨_, .named hleads hshares hnames (resolves_ok_iff.2 (.inr h)), himproper⟩

/-- The command is answered with success and a hash if a repository is configured and present and its look-up
succeeds. -/
theorem answers_hash_iff {host : Host} {config : Config} :
    (Detector.hash host config).isOk = true ∧ (Detector.hash host config).field? "hash" = some (.string hash) ↔
      ∃ repository, config.repository = some repository ∧ host.files.isPresent repository = true ∧
        head host.files repository = .ok hash := by
  unfold Detector.hash
  cases config.repository with
  | none => exact ⟨fun h => (nomatch h.1), fun ⟨_, h, _⟩ => (nomatch h)⟩
  | some repository =>
    simp only [Option.some.injEq, exists_eq_left']
    cases host.files.isPresent repository with
    | false => exact ⟨fun h => (nomatch h.1), fun h => (nomatch h.1)⟩
    | true =>
      cases head host.files repository with
      | error e => exact ⟨fun h => (nomatch h.1), fun h => (nomatch h.2)⟩
      | ok found =>
        constructor
        · rintro ⟨-, hfield⟩
          have hfield : some (Json.string found) = some (.string hash) := hfield
          cases hfield
          exact ⟨rfl, rfl⟩
        · rintro ⟨-, hok⟩
          cases hok
          exact ⟨rfl, rfl⟩

/-- The look-up succeeds without a hash exactly if the place at which it ends holds none: HEAD is blank, or the file
of its reference is blank or names a reference, or so does the packed line. The command passes that on as a
success. -/
theorem improper_iff_corrupt (host : Host) (config : Config) :
    (∀ repository, (∃ hash, head host.files repository = .ok hash ∧ Improper hash) ↔ Corrupt host.files repository) ∧
      ((∃ hash, (Detector.hash host config).isOk = true ∧
          (Detector.hash host config).field? "hash" = some (.string hash) ∧ Improper hash) ↔
        ∃ repository, config.repository = some repository ∧ host.files.isPresent repository = true ∧
          Corrupt host.files repository) := by
  refine ⟨fun repository => head_improper_iff, ?_⟩
  constructor
  · rintro ⟨hash, hok, hfield, himproper⟩
    obtain ⟨repository, hconfig, hpresent, hhead⟩ := answers_hash_iff.1 ⟨hok, hfield⟩
    exact ⟨repository, hconfig, hpresent, head_improper_iff.1 ⟨hash, hhead, himproper⟩⟩
  · rintro ⟨repository, hconfig, hpresent, hcorrupt⟩
    obtain ⟨hash, hhead, himproper⟩ := head_improper_iff.2 hcorrupt
    obtain ⟨hok, hfield⟩ := answers_hash_iff.2 ⟨repository, hconfig, hpresent, hhead⟩
    exact ⟨hash, hok, hfield, himproper⟩

/-- HEAD names the branch `a`, whose file names the branch `b`. -/
def chained : FileTree :=
  .ofWays []
    [(["r", ".git", "HEAD"], Bytes.ofString "ref: refs/heads/a\n"),
      (["r", ".git", "refs", "heads", "a"], Bytes.ofString "ref: refs/heads/b\n"),
      (["r", ".git", "refs", "heads", "b"], Bytes.ofString "5a4b\n")]

/-- HEAD was cut off to nothing. -/
def emptied : FileTree := .ofWays [] [(["r", ".git", "HEAD"], [])]

theorem corrupt_chained :
    head chained "/r" = .ok "ref: refs/heads/b" ∧ Corrupt chained "/r" ∧ head emptied "/r" = .ok "" ∧
      Corrupt emptied "/r" := by
  have hchained : head chained "/r" = .ok "ref: refs/heads/b" := by decide +kernel
  have hemptied : head emptied "/r" = .ok "" := by decide +kernel
  exact ⟨hchained, ((improper_iff_corrupt ⟨fun _ => none, chained⟩ .bench).1 "/r").1 ⟨_, hchained, .inr ⟨" refs/heads/b", rfl⟩⟩,
    hemptied, ((improper_iff_corrupt ⟨fun _ => none, emptied⟩ .bench).1 "/r").1 ⟨_, hemptied, .inl rfl⟩⟩

end DetectorControl.Repository
