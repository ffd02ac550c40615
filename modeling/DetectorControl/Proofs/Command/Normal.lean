import DetectorControl.Proofs.Command

/-!
# The normal form of a command

The request that a command is written as is read as that command again exactly if the command is normal
(`parse_request_iff`), and every command that was read from a request is (`normal_of_parse`), however the
request was worded.
-/

namespace DetectorControl.Command
variable {c : Command} {q : Request}

/-- The controller is not addressed as a subsystem, and neither a dot nor a blank puts the target and the verb
at risk. -/
structure Normal (c : Command) : Prop where
  target : c.target = .ofName c.target.name
  dot : '.' ∉ c.target.name.toList
  first : ∀ ch ∈ c.target.name.toList.head?, Text.isBlank ch = false
  last : ∀ ch ∈ c.verb.toList.getLast?, Text.isBlank ch = false

theorem normal_ofName_iff {target verb : String} {o : Options} : Normal ⟨.ofName target, verb, o⟩ ↔
    '.' ∉ target.toList ∧ (∀ ch ∈ target.toList.head?, Text.isBlank ch = false) ∧
      ∀ ch ∈ verb.toList.getLast?, Text.isBlank ch = false := by
  constructor
  · rintro ⟨-, hdot, hfirst, hlast⟩
    rw [Target.name_ofName] at hdot hfirst
    exact ⟨hdot, hfirst, hlast⟩
  · rintro ⟨hdot, hfirst, hlast⟩
    refine ⟨?_, ?_, ?_, hlast⟩
    · rw [Target.name_ofName]
    · rwa [Target.name_ofName]
    · rwa [Target.name_ofName]

theorem Normal.parse_request (h : c.Normal) : parse c.request = .ok c := by
  have hsplit : splitDot (Text.trim c.request.command) = some (c.target.name, c.verb) :=
    splitDot_trim h.dot h.first h.last
  have hne : (Text.trim c.request.command).isEmpty = false := by
    rw [Bool.eq_false_iff, Ne, String.isEmpty_iff]
    intro hempty
    rw [hempty] at hsplit
    cases hsplit
  unfold parse
  simp only [hne, hsplit, ← h.target]
  rfl

/-- What was read was trimmed before it was cut, so that there is no blank at the ends of what was cut off. -/
theorem normal_of_parse (h : parse q = .ok c) : c.Normal := by
  have htrimmed := Text.trimmed_trim q.command
  have hne : Text.trim q.command ≠ "" := by
    intro hempty
    rw [parse_of_isEmpty hempty] at h
    cases h
  obtain ⟨target, verb, hparse, hparts⟩ := parse_of_ne hne
  rw [hparse] at h
  cases h
  rw [normal_ofName_iff]
  rcases hparts with ⟨hdot, hcommand⟩ | ⟨-, rfl, rfl⟩
  · have hlist : (Text.trim q.command).toList = target.toList ++ '.' :: verb.toList := by
      rw [hcommand, String.toList_append, String.toList_append, List.append_assoc]
      rfl
    rw [hlist] at htrimmed
    refine ⟨hdot, fun ch hch => htrimmed.first ch ?_, fun ch hch => htrimmed.last ch ?_⟩
    · rw [List.head?_append, Option.mem_def.1 hch]
      rfl
    · rw [List.getLast?_append, List.getLast?_cons, Option.mem_def.1 hch]
      rfl
  · refine ⟨by decide, fun ch hch => ?_, htrimmed.last⟩
    obtain rfl : 'c' = ch := Option.some.inj hch
    decide

theorem parse_request_iff : parse c.request = .ok c ↔ c.Normal :=
  ⟨normal_of_parse, Normal.parse_request⟩

/-- Whatever a request was worded like, the command that was read from it is written as a request that is read as
the same command. Of all the commands that can be given, those are read again whose target has no dot and begins
with no blank, and whose verb ends in no blank. -/
theorem parse_again :
    (∀ (q : Request) (c : Command), parse q = .ok c → parse c.request = .ok c) ∧
    ∀ (target verb : String) (o : Options),
      parse (request ⟨.ofName target, verb, o⟩) = .ok ⟨.ofName target, verb, o⟩ ↔
        '.' ∉ target.toList ∧ (∀ ch ∈ target.toList.head?, Text.isBlank ch = false) ∧
          ∀ ch ∈ verb.toList.getLast?, Text.isBlank ch = false := by
  refine ⟨fun q c h => (normal_of_parse h).parse_request, fun target verb o => ?_⟩
  rw [parse_request_iff, normal_ofName_iff]

/-- A request with an em space in front, a blank before the dot and further dots behind it. -/
def spacious : Request := { command := "\u2003disp .show. all\n" }

/-- A verb of the controller with a blank in it. -/
def bare : Request := { command := "stop  now" }

theorem parse_again_spacious :
    parse spacious = .ok ⟨.subsystem "disp ", "show. all", .empty⟩ ∧
      parse (request ⟨.subsystem "disp ", "show. all", .empty⟩) = .ok ⟨.subsystem "disp ", "show. all", .empty⟩ ∧
      parse bare = .ok ⟨.controller, "stop  now", .empty⟩ ∧
      parse (request ⟨.controller, "stop  now", .empty⟩) = .ok ⟨.controller, "stop  now", .empty⟩ ∧
      parse (request ⟨.subsystem "", ".", .empty⟩) = .ok ⟨.subsystem "", ".", .empty⟩ := by
  have hspacious : parse spacious = .ok ⟨.subsystem "disp ", "show. all", .empty⟩ := by rfl
  have hbare : parse bare = .ok ⟨.controller, "stop  now", .empty⟩ := by rfl
  have hlast : ∀ ch ∈ ".".toList.getLast?, Text.isBlank ch = false := by
    intro ch hch
    obtain rfl : '.' = ch := Option.some.inj hch
    decide
  exact ⟨hspacious, parse_again.1 _ _ hspacious, hbare, parse_again.1 _ _ hbare,
    (parse_again.2 "" "." .empty).2 ⟨by decide, by simp, hlast⟩⟩

end DetectorControl.Command
