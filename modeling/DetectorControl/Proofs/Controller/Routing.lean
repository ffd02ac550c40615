import DetectorControl.Proofs.Basic
import DetectorControl.Proofs.Command
import DetectorControl.Proofs.Controller.Modules

/-!
# Where commands go

Modules that are watched keep a list of the calls they receive, and otherwise do what they did before
(`handle_watched`). Of the modules that were registered, a command reaches the one that it names, once and
with its options, if that module serves its verb; it reaches no other, and what is no command reaches none
(`routing`).
-/

namespace DetectorControl
variable {W : Type}

/-! ## Modules that are watched -/

structure Call where
  module : String
  verb : String
  options : Options

/-- The module, watched: its calls stand beside the world, the last one first. -/
def Module.watched (name : String) (m : Module W) : Module (W × List Call) where
  State := m.State
  state := m.state
  verbs := m.verbs
  invoke verb o s := fun (w, log) =>
    match m.invoke verb o s w with
    | (answer, w) => (answer, (w, ⟨name, verb, o⟩ :: log))

namespace Registry

def Entry.watched (name : String) (e : Entry W) : Entry (W × List Call) := ⟨e.verbs, e.module.watched name⟩

def watched (r : Registry W) : Registry (W × List Call) :=
  ⟨r.entries.map fun p => (p.1, p.2.watched p.1), r.order⟩

/-- The calls that come of a command to a module. -/
def calls (r : Registry W) (name verb : String) (o : Options) : List Call :=
  if r.supports name verb then [⟨name, verb, o⟩] else []

theorem find?_watched (r : Registry W) (name : String) :
    r.watched.find? name = (r.find? name).map (Entry.watched name) :=
  Entries.get?_mapWithKey ..

theorem supports_watched (r : Registry W) (name verb : String) : r.watched.supports name verb = r.supports name verb := by
  unfold supports
  rw [find?_watched]
  cases r.find? name <;> rfl

theorem put_watched (r : Registry W) (name : String) (e : Entry W) :
    (r.put name e).watched = r.watched.put name (e.watched name) :=
  congrArg (Registry.mk · r.order) (Entries.insert_mapWithKey ..)

theorem invoke_watched (r : Registry W) (name verb : String) (o : Options) (w : W) (log : List Call) :
    r.watched.invoke name verb o (w, log) =
      ((r.invoke name verb o w).1, (r.invoke name verb o w).2.1.watched,
        ((r.invoke name verb o w).2.2, r.calls name verb o ++ log)) := by
  have hwatched := supports_watched r name verb
  unfold calls
  cases hsupports : r.supports name verb with
  | false =>
    rw [hsupports] at hwatched
    rw [invoke_of_unsupported hwatched, invoke_of_unsupported hsupports]
    rfl
  | true =>
    obtain ⟨e, hfind, hverb⟩ := supports_iff_find?.1 hsupports
    have hfind' : r.watched.find? name = some (e.watched name) := by rw [find?_watched, hfind, Option.map_some]
    rw [invoke_of_find? hfind' hverb, invoke_of_find? hfind hverb, put_watched]
    rfl

end Registry

/-! ## The modules of a registry -/

def Module.at (m : Module W) (s : m.State) : Module W := { m with state := s }

namespace Registry

/-- The registry with one module more, unless that is refused. -/
def extend (r : Registry W) (p : String × Module W) : Except RegistryError (Registry W) :=
  match r.register p.1 p.2 with
  | (.ok (), r) => .ok r
  | (.error e, _) => .error e

/-- The registry that is filled with modules, in this order. -/
def ofModules (modules : List (String × Module W)) : Except RegistryError (Registry W) :=
  modules.foldlM extend .empty

theorem extend_eq_ok_iff {r r' : Registry W} {p : String × Module W} :
    r.extend p = .ok r' ↔ r.register p.1 p.2 = (.ok (), r') := by
  unfold extend
  obtain ⟨h, -⟩ | ⟨⟨e, h⟩, -⟩ := register_cases r p.1 p.2
  · rw [h]
    exact ⟨fun heq => Prod.ext rfl (Except.ok.inj heq), fun heq => congrArg Except.ok (Prod.mk.inj heq).2⟩
  · rw [h]
    exact iff_of_false nofun nofun

theorem ofModules_of_nodup {modules : List (String × Module W)} {r : Registry W}
    (hnodup : (modules.map (·.1)).Nodup) (hreserved : Target.controllerName ∉ modules.map (·.1))
    (hfree : ∀ p ∈ modules, r.find? p.1 = none) : modules.foldlM extend r = .ok (r.registerAll modules) := by
  induction modules generalizing r with
  | nil => rw [registerAll_nil, List.foldlM_nil]; rfl
  | cons p rest ih =>
    obtain ⟨hne, hreserved⟩ := not_or.1 (mt List.mem_cons.2 hreserved)
    have hregister := register_of_free (Ne.symm hne) (hfree p List.mem_cons_self) p.2
    rw [List.foldlM_cons, extend_eq_ok_iff.2 hregister, registerAll_cons, hregister]
    exact ih (List.nodup_cons.1 hnodup).2 hreserved (find?_add_of_nodup hnodup hfree)

/-- A registry holds modules: each under its name and in some state, and no others. -/
structure Holds (modules : List (String × Module W)) (r : Registry W) : Prop where
  agrees : r.Agrees
  names_eq : r.names = modules.map (·.1)
  unreserved : Target.controllerName ∉ modules.map (·.1)
  find?_of_mem : ∀ name m, (name, m) ∈ modules → ∃ s, r.find? name = some (.ofModule (m.at s))

namespace Holds
variable {modules : List (String × Module W)} {r r' : Registry W}

theorem empty : Holds [] (Registry.empty : Registry W) := ⟨.empty, rfl, List.not_mem_nil, nofun⟩

theorem add (h : Holds modules r) {name : String} (hreserved : name ≠ Target.controllerName)
    (hfree : r.find? name = none) (m : Module W) : Holds (modules ++ [(name, m)]) (r.add name m) := by
  refine ⟨h.agrees.add hfree m, ?_, ?_, ?_⟩
  · rw [List.map_append, ← h.names_eq]
    rfl
  · rw [List.map_append, List.mem_append]
    rintro (hmem | hmem)
    · exact h.unreserved hmem
    · exact hreserved (List.mem_singleton.1 hmem).symm
  · intro name' m' hmem
    rcases List.mem_append.1 hmem with hold | hnew
    · -- what was registered before has another name
      obtain ⟨s, hs⟩ := h.find?_of_mem name' m' hold
      have hne : name' ≠ name := by
        rintro rfl
        rw [hfree] at hs
        cases hs
      exact ⟨s, by rw [find?_add_of_ne hne, hs]⟩
    · cases List.mem_singleton.1 hnew
      exact ⟨m.state, find?_add_self ..⟩

theorem register (h : Holds modules r) {name : String} {m : Module W} (hr : r.register name m = (.ok (), r')) :
    Holds (modules ++ [(name, m)]) r' := by
  obtain ⟨hadd, hreserved, hfree⟩ | ⟨⟨e, hrefused⟩, -⟩ := register_cases r name m
  · cases hadd.symm.trans hr
    exact h.add hreserved hfree m
  · cases hrefused.symm.trans hr

theorem ofModules (hr : Registry.ofModules modules = .ok r) : Holds modules r := by
  -- what is registered behind modules that are held
  suffices hfold : ∀ (front back : List (String × Module W)) (q : Registry W), Holds front q →
      back.foldlM extend q = .ok r → Holds (front ++ back) r from
    hfold [] modules .empty .empty hr
  intro front back
  induction back generalizing front with
  | nil =>
    intro q hq hfold
    cases hfold
    rwa [List.append_nil]
  | cons m back ih =>
    intro q hq hfold
    rw [List.foldlM_cons] at hfold
    obtain ⟨q', hq', hfold⟩ := bind_eq_ok_iff.1 hfold
    have hback := ih (front ++ [m]) q' (hq.register (extend_eq_ok_iff.1 hq')) hfold
    rwa [List.append_assoc] at hback

theorem find?_eq_none (h : Holds modules r) {name : String} (hnone : ∀ m, (name, m) ∉ modules) :
    r.find? name = none := by
  rw [h.agrees.find?_eq_none_iff, h.names_eq]
  intro hmem
  obtain ⟨m, hm, rfl⟩ := List.mem_map.1 hmem
  exact hnone m.2 hm

theorem supports_iff (h : Holds modules r) {name verb : String} :
    r.supports name verb = true ↔ ∃ m, (name, m) ∈ modules ∧ verb ∈ m.verbs := by
  unfold supports
  constructor
  · intro hsupports
    by_cases hname : ∃ m, (name, m) ∈ modules
    · obtain ⟨m, hm⟩ := hname
      obtain ⟨s, hs⟩ := h.find?_of_mem name m hm
      rw [hs] at hsupports
      exact ⟨m, hm, mem_nameSet.1 (List.contains_iff_mem.1 hsupports)⟩
    · rw [h.find?_eq_none fun m hm => hname ⟨m, hm⟩] at hsupports
      cases hsupports
  · rintro ⟨m, hm, hverb⟩
    obtain ⟨s, hs⟩ := h.find?_of_mem name m hm
    rw [hs]
    exact List.contains_iff_mem.2 (mem_nameSet.2 hverb)

/-- What an invoked module does, which stays registered in its new state. -/
theorem invoke_of_mem (h : Holds modules r) {name verb : String} {m : Module W} (hm : (name, m) ∈ modules)
    (hverb : verb ∈ m.verbs) (o : Options) (w : W) :
    ∃ s s', r.find? name = some (.ofModule (m.at s)) ∧
      m.invoke verb o s w = (((r.invoke name verb o w).1, s'), (r.invoke name verb o w).2.2) ∧
      (r.invoke name verb o w).2.1.find? name = some (.ofModule (m.at s')) := by
  obtain ⟨s, hs⟩ := h.find?_of_mem name m hm
  refine ⟨s, (m.invoke verb o s w).1.2, hs, ?_⟩
  rw [invoke_of_find? hs (mem_nameSet.2 hverb), find?_put_self]
  exact ⟨rfl, rfl⟩

theorem invoke (h : Holds modules r) (name verb : String) (o : Options) (w : W) :
    Holds modules (r.invoke name verb o w).2.1 := by
  refine ⟨h.agrees.invoke name verb o w, (names_invoke ..).trans h.names_eq, h.unreserved, ?_⟩
  intro name' m' hm'
  by_cases hname : name' = name
  · subst hname
    by_cases hverb : verb ∈ m'.verbs
    · obtain ⟨-, s', -, -, hafter⟩ := h.invoke_of_mem hm' hverb o w
      exact ⟨s', hafter⟩
    · obtain ⟨s, hs⟩ := h.find?_of_mem name' m' hm'
      have hsupports : r.supports name' verb = false := by
        unfold supports
        rw [hs]
        exact Bool.eq_false_iff.2 fun hmem => hverb (mem_nameSet.1 (List.contains_iff_mem.1 hmem))
      rw [invoke_of_unsupported hsupports]
      exact ⟨s, hs⟩
  · rw [find?_invoke_of_ne r hname]
    exact h.find?_of_mem name' m' hm'

end Holds

end Registry

/-! ## What becomes of a command -/

namespace Dispatcher

/-- What a dispatcher can become, by frames that it handles and commands that it is given, whatever the
world is like when they come. -/
inductive Later (d : Dispatcher W) : Dispatcher W → Prop
  | refl : Later d d
  | handle {d' : Dispatcher W} (h : Later d d') (body : Bytes) (w : W) : Later d (d'.handle body w).2.1
  | dispatch {d' : Dispatcher W} (h : Later d d') (c : Command) (w : W) : Later d (d'.dispatch c w).2.1

/-- The answer to a command, before it is stamped. -/
def answer (d : Dispatcher W) (c : Command) (w : W) : Reply × Dispatcher W × W :=
  match c.target with
  | .controller => ((d.controllerCommand c.verb).1, (d.controllerCommand c.verb).2, w)
  | .subsystem name => d.moduleCommand name c.verb c.options w

theorem dispatch_eq (d : Dispatcher W) (c : Command) (w : W) :
    d.dispatch c w = ((d.answer c w).1.frame c.target.name, (d.answer c w).2) := by
  unfold dispatch answer
  cases htarget : c.target <;> rfl

def watched (d : Dispatcher W) : Dispatcher (W × List Call) := ⟨d.registry.watched, d.stopping⟩

def calls (d : Dispatcher W) (c : Command) : List Call :=
  match c.target with
  | .controller => []
  | .subsystem name => d.registry.calls name c.verb c.options

def callsOf (d : Dispatcher W) (body : Bytes) : List Call :=
  match decode body with
  | .error _ => []
  | .ok c => d.calls c

theorem moduleCommand_watched (d : Dispatcher W) (name verb : String) (o : Options) (w : W) (log : List Call) :
    d.watched.moduleCommand name verb o (w, log) =
      ((d.moduleCommand name verb o w).1, (d.moduleCommand name verb o w).2.1.watched,
        ((d.moduleCommand name verb o w).2.2, d.registry.calls name verb o ++ log)) := by
  have hmissing : (d.watched.registry.resolve name).isNone = (d.registry.resolve name).isNone := by
    rw [Registry.resolve, Registry.resolve, Option.isNone_map, Option.isNone_map]
    show (d.registry.watched.find? name).isNone = _
    rw [Registry.find?_watched, Option.isNone_map]
  have hsupports : d.watched.registry.supports name verb = d.registry.supports name verb :=
    Registry.supports_watched ..
  unfold moduleCommand
  rw [hmissing, hsupports]
  by_cases hnone : (d.registry.resolve name).isNone
  · have hunserved : d.registry.supports name verb = false := by
      rw [Registry.resolve, Option.isNone_map, Option.isNone_iff_eq_none] at hnone
      rw [Registry.supports, hnone]
    simp only [hnone, if_true, Registry.calls, hunserved]
    rfl
  · cases hserved : d.registry.supports name verb with
    | false =>
      simp only [hnone, Registry.calls, hserved]
      rfl
    | true =>
      have hregistry : d.watched.registry = d.registry.watched := rfl
      simp only [hnone, hregistry, Registry.invoke_watched]
      rfl

theorem dispatch_watched (d : Dispatcher W) (c : Command) (w : W) (log : List Call) :
    d.watched.dispatch c (w, log) =
      ((d.dispatch c w).1, (d.dispatch c w).2.1.watched, ((d.dispatch c w).2.2, d.calls c ++ log)) := by
  rw [dispatch_eq, dispatch_eq]
  unfold answer calls
  cases c.target with
  | controller =>
    unfold controllerCommand
    simp only []
    split <;> rfl
  | subsystem name =>
    simp only []
    rw [moduleCommand_watched]

theorem handle_watched (d : Dispatcher W) (body : Bytes) (w : W) (log : List Call) :
    d.watched.handle body (w, log) =
      ((d.handle body w).1, (d.handle body w).2.1.watched, ((d.handle body w).2.2, d.callsOf body ++ log)) := by
  unfold handle callsOf
  cases decode body with
  | error e => rfl
  | ok c => exact dispatch_watched d c w log

/-! ### Frames that are taken apart -/

theorem decode_of_addresses {body : Bytes} {target verb : String} {o : Options}
    (h : Command.Addresses body target verb o) : decode body = .ok ⟨.ofName target, verb, o⟩ := by
  obtain ⟨command, hreads, hne, hparts⟩ := h
  obtain ⟨q, hq, rfl, rfl⟩ := Request.reads_iff.1 hreads
  obtain ⟨target', verb', hparse, hparts'⟩ := Command.parse_of_ne hne
  obtain ⟨rfl, rfl⟩ := Command.parts_unique hparts' hparts
  unfold decode
  simp only [hq]
  exact hparse

theorem addresses_of_decode {body : Bytes} {c : Command} (h : decode body = .ok c) :
    ∃ target verb o, c = ⟨.ofName target, verb, o⟩ ∧ Command.Addresses body target verb o := by
  unfold decode at h
  cases hq : Request.read body with
  | error fault =>
    rw [hq] at h
    cases h
  | ok q =>
    simp only [hq] at h
    have hreads := Request.reads_iff.2 ⟨q, hq, rfl, rfl⟩
    by_cases hne : Text.trim q.command = ""
    · rw [Command.parse_of_isEmpty hne] at h
      cases h
    · obtain ⟨target, verb, hparse, hparts⟩ := Command.parse_of_ne hne
      rw [hparse] at h
      cases h
      exact ⟨target, verb, _, rfl, q.command, hreads, hne, hparts⟩

/-! ### What a command does -/

section
variable {modules : List (String × Module W)} {d : Dispatcher W} {target verb : String}

theorem ofName_eq_controller_iff : Target.ofName target = .controller ↔ target = Target.controllerName := by
  unfold Target.ofName
  split <;> simp_all

theorem ofName_of_ne (h : target ≠ Target.controllerName) : Target.ofName target = .subsystem target :=
  if_neg h

theorem ne_controllerName (hheld : d.registry.Holds modules) {m : Module W} (hm : (target, m) ∈ modules) :
    target ≠ Target.controllerName := by
  rintro rfl
  exact hheld.unreserved (List.mem_map_of_mem hm)

theorem moduleCommand_of_supports (h : d.registry.supports target verb = true) (o : Options) (w : W) :
    d.moduleCommand target verb o w =
      (ofOutcome target verb (d.registry.invoke target verb o w).1,
        { d with registry := (d.registry.invoke target verb o w).2.1 }, (d.registry.invoke target verb o w).2.2) := by
  have hfound : (d.registry.resolve target).isNone = false := by
    rw [Registry.resolve, Option.isNone_map]
    cases hfind : d.registry.find? target with
    | none =>
      rw [Registry.supports, hfind] at h
      cases h
    | some e => rfl
  unfold moduleCommand
  rw [hfound, h]
  rfl

theorem moduleCommand_of_not_supports (h : d.registry.supports target verb = false) (o : Options) (w : W) :
    ∃ text, d.moduleCommand target verb o w = (.error text, d, w) := by
  unfold moduleCommand
  split
  · exact ⟨_, rfl⟩
  · rw [h]
    exact ⟨_, rfl⟩

theorem calls_ofName (hheld : d.registry.Holds modules) (o : Options) :
    d.calls ⟨.ofName target, verb, o⟩ = d.registry.calls target verb o := by
  unfold calls
  by_cases hname : target = Target.controllerName
  · have hunserved : d.registry.supports target verb = false := by
      rw [Bool.eq_false_iff, Ne, hheld.supports_iff]
      rintro ⟨m, hm, -⟩
      exact ne_controllerName hheld hm hname
    rw [Registry.calls, hunserved, ofName_eq_controller_iff.2 hname]
    rfl
  · rw [ofName_of_ne hname]

theorem answer_of_mem (hheld : d.registry.Holds modules) {m : Module W} (hm : (target, m) ∈ modules)
    (hverb : verb ∈ m.verbs) (o : Options) (w : W) :
    d.answer ⟨.ofName target, verb, o⟩ w =
      (ofOutcome target verb (d.registry.invoke target verb o w).1,
        { d with registry := (d.registry.invoke target verb o w).2.1 }, (d.registry.invoke target verb o w).2.2) := by
  rw [answer, ofName_of_ne (ne_controllerName hheld hm)]
  exact moduleCommand_of_supports (hheld.supports_iff.2 ⟨m, hm, hverb⟩) o w

theorem answer_of_not_served (hheld : d.registry.Holds modules) (hnone : ∀ m, (target, m) ∈ modules → verb ∉ m.verbs)
    (o : Options) (w : W) :
    (d.answer ⟨.ofName target, verb, o⟩ w).2.1.registry = d.registry ∧
      (d.answer ⟨.ofName target, verb, o⟩ w).2.2 = w ∧
      (¬ (target = Target.controllerName ∧ verb = stopVerb) →
        ∃ text, (d.answer ⟨.ofName target, verb, o⟩ w).1 = .error text) := by
  unfold answer
  by_cases hname : target = Target.controllerName
  · rw [ofName_eq_controller_iff.2 hname]
    refine ⟨controllerCommand_registry d verb, rfl, fun hstop => ?_⟩
    have hverb : verb ≠ stopVerb := fun h => hstop ⟨hname, h⟩
    simp only [controllerCommand, if_neg hverb]
    exact ⟨_, rfl⟩
  · have hunserved : d.registry.supports target verb = false := by
      rw [Bool.eq_false_iff, Ne, hheld.supports_iff]
      rintro ⟨m, hm, hverb⟩
      exact hnone m hm hverb
    obtain ⟨text, htext⟩ := moduleCommand_of_not_supports hunserved o w
    rw [ofName_of_ne hname]
    simp only [htext]
    exact ⟨trivial, trivial, fun _ => ⟨text, rfl⟩⟩

theorem find?_answer_of_ne {name : String} (hne : name ≠ target) (o : Options) (w : W) :
    (d.answer ⟨.ofName target, verb, o⟩ w).2.1.registry.find? name = d.registry.find? name := by
  unfold answer
  by_cases hname : target = Target.controllerName
  · rw [ofName_eq_controller_iff.2 hname]
    simp only [controllerCommand_registry]
  · rw [ofName_of_ne hname]
    cases hsupports : d.registry.supports target verb with
    | true =>
      simp only [moduleCommand_of_supports hsupports]
      exact Registry.find?_invoke_of_ne d.registry hne verb o w
    | false =>
      obtain ⟨text, htext⟩ := moduleCommand_of_not_supports hsupports o w
      simp only [htext]

theorem holds_answer (hheld : d.registry.Holds modules) (c : Command) (w : W) :
    (d.answer c w).2.1.registry.Holds modules := by
  unfold answer
  cases c.target with
  | controller =>
    simp only [controllerCommand_registry]
    exact hheld
  | subsystem name =>
    cases hsupports : d.registry.supports name c.verb with
    | true =>
      simp only [moduleCommand_of_supports hsupports]
      exact hheld.invoke name c.verb c.options w
    | false =>
      obtain ⟨text, htext⟩ := moduleCommand_of_not_supports hsupports c.options w
      simp only [htext]
      exact hheld

theorem stopping_answer_iff (c : Command) (w : W) :
    (d.answer c w).2.1.stopping = true ↔ d.stopping = true ∨ c.target = .controller ∧ c.verb = stopVerb := by
  unfold answer
  cases c.target with
  | controller =>
    unfold controllerCommand
    by_cases hverb : c.verb = stopVerb
    · simp [hverb]
    · simp [hverb]
  | subsystem name =>
    cases hsupports : d.registry.supports name c.verb with
    | true => simp [moduleCommand_of_supports hsupports]
    | false =>
      obtain ⟨text, htext⟩ := moduleCommand_of_not_supports hsupports c.options w
      simp [htext]

end

/-! ### What a frame does -/

theorem handle_of_error {body : Bytes} {e : ProtocolError} (h : decode body = .error e) (d : Dispatcher W) (w : W) :
    d.handle body w = (malformed e, d, w) := by
  rw [handle, h]

theorem handle_of_ok {body : Bytes} {c : Command} (h : decode body = .ok c) (d : Dispatcher W) (w : W) :
    d.handle body w = ((d.answer c w).1.frame c.target.name, (d.answer c w).2) := by
  rw [handle, h]
  exact dispatch_eq d c w

theorem callsOf_of_ok {body : Bytes} {c : Command} (h : decode body = .ok c) (d : Dispatcher W) :
    d.callsOf body = d.calls c := by
  rw [callsOf, h]

namespace Later
variable {modules : List (String × Module W)} {d d' : Dispatcher W}

theorem holds (h : Later d d') (hheld : d.registry.Holds modules) : d'.registry.Holds modules := by
  induction h with
  | refl => exact hheld
  | @handle d' _ body w ih =>
    cases hdecode : decode body with
    | error e =>
      rw [handle_of_error hdecode]
      exact ih
    | ok c =>
      rw [handle_of_ok hdecode]
      exact holds_answer ih c w
  | dispatch _ c w ih =>
    rw [dispatch_eq]
    exact holds_answer ih c w

theorem stopping (h : Later d d') (hstop : d.stopping = true) : d'.stopping = true := by
  induction h with
  | refl => exact hstop
  | @handle d' _ body w ih =>
    cases hdecode : decode body with
    | error e =>
      rw [handle_of_error hdecode]
      exact ih
    | ok c =>
      rw [handle_of_ok hdecode]
      exact (stopping_answer_iff c w).2 (.inl ih)
  | dispatch _ c w ih =>
    rw [dispatch_eq]
    exact (stopping_answer_iff c w).2 (.inl ih)

end Later

/-- What becomes of a frame: the calls that it leads to, its reply, and the dispatcher and the world before
and after. -/
structure Routed (modules : List (String × Module W)) (body : Bytes) (calls : List Call) (f : ReplyFrame)
    (d : Dispatcher W) (w : W) (d' : Dispatcher W) (w' : W) : Prop where
  refused : (∀ command o, Request.Reads body command o → Text.trim command = "") →
    calls = [] ∧ f.status = .error ∧ f.subsystem = some "controller" ∧ d' = d ∧ w' = w
  addressed : ∀ command o, Request.Reads body command o → Text.trim command ≠ "" →
    ∃ target verb, Command.Addresses body target verb o
  stamped : ∀ target verb o, Command.Addresses body target verb o → f.subsystem = some target
  served : ∀ target verb o m, Command.Addresses body target verb o → (target, m) ∈ modules → verb ∈ m.verbs →
    calls = [⟨target, verb, o⟩] ∧
      ∃ s outcome s', d.registry.resolve target = some (m.at s) ∧ m.invoke verb o s w = ((outcome, s'), w') ∧
        d'.registry.resolve target = some (m.at s') ∧ f = (ofOutcome target verb outcome).frame target
  unserved : ∀ target verb o, Command.Addresses body target verb o →
    (∀ m, (target, m) ∈ modules → verb ∉ m.verbs) →
    calls = [] ∧ d'.registry = d.registry ∧ w' = w ∧
      (¬ (target = "controller" ∧ verb = "stop") → f.status = .error)
  others : ∀ target verb o name, Command.Addresses body target verb o → name ≠ target →
    d'.registry.resolve name = d.registry.resolve name
  stopping : d'.stopping = true ↔
    d.stopping = true ∨ ∃ o, Command.Addresses body "controller" "stop" o
  final : ∀ d'', Later d' d'' → d'.stopping = true → d''.stopping = true

section
variable {modules : List (String × Module W)} {d : Dispatcher W}

theorem routed_of_error {body : Bytes} {e : ProtocolError} (hdecode : decode body = .error e) (w : W) :
    Routed modules body (d.callsOf body) (d.handle body w).1 d w (d.handle body w).2.1 (d.handle body w).2.2 := by
  have hnone : ∀ target verb o, ¬ Command.Addresses body target verb o := by
    intro target verb o haddresses
    rw [decode_of_addresses haddresses] at hdecode
    cases hdecode
  have hcalls : d.callsOf body = [] := by rw [callsOf, hdecode]
  rw [handle_of_error hdecode, hcalls]
  exact {
    refused := fun _ => ⟨rfl, rfl, rfl, rfl, rfl⟩
    addressed := fun _ _ hreads hne => Command.addresses_of_reads hreads hne
    stamped := fun _ _ _ h => (hnone _ _ _ h).elim
    served := fun _ _ _ _ h => (hnone _ _ _ h).elim
    unserved := fun _ _ _ h => (hnone _ _ _ h).elim
    others := fun _ _ _ _ h => (hnone _ _ _ h).elim
    stopping := ⟨.inl, fun h => h.resolve_right fun ⟨o, ho⟩ => hnone _ _ o ho⟩
    final := fun _ hlater => hlater.stopping }

theorem routed_of_ok (hheld : d.registry.Holds modules) {body : Bytes} {target verb : String} {o : Options}
    (haddresses : Command.Addresses body target verb o) (w : W) :
    Routed modules body (d.callsOf body) (d.handle body w).1 d w (d.handle body w).2.1 (d.handle body w).2.2 := by
  have hdecode := decode_of_addresses haddresses
  -- there is no other command in the frame
  have hunique : ∀ {target' verb' o'}, Command.Addresses body target' verb' o' →
      target' = target ∧ verb' = verb ∧ o' = o := by
    intro target' verb' o' h
    have hsame := Except.ok.inj ((decode_of_addresses h).symm.trans hdecode)
    obtain ⟨hname, hverb, ho⟩ := Command.mk.inj hsame
    exact ⟨Command.ofName_inj.1 hname, hverb, ho⟩
  have hcalls : d.callsOf body = d.registry.calls target verb o :=
    (callsOf_of_ok hdecode d).trans (calls_ofName hheld o)
  rw [handle_of_ok hdecode, hcalls, Target.name_ofName]
  refine ⟨?_, fun _ _ => Command.addresses_of_reads, ?_, ?_, ?_, ?_, ?_, fun _ hlater => hlater.stopping⟩
  · intro hempty
    obtain ⟨command, hreads, hne, -⟩ := haddresses
    exact absurd (hempty command o hreads) hne
  · intro target' verb' o' h
    obtain ⟨rfl, rfl, rfl⟩ := hunique h
    show (Reply.frame _ target').subsystem = _
    cases (d.answer ⟨.ofName target', verb', o'⟩ w).1 <;> rfl
  · intro target' verb' o' m h hm hverb
    obtain ⟨rfl, rfl, rfl⟩ := hunique h
    obtain ⟨s, s', hbefore, hinvoke, hafter⟩ := hheld.invoke_of_mem hm hverb o' w
    rw [answer_of_mem hheld hm hverb, Registry.calls, hheld.supports_iff.2 ⟨m, hm, hverb⟩]
    refine ⟨rfl, s, _, s', ?_, hinvoke, ?_, rfl⟩
    · rw [Registry.resolve, hbefore]
      rfl
    · rw [Registry.resolve, hafter]
      rfl
  · intro target' verb' o' h hnone
    obtain ⟨rfl, rfl, rfl⟩ := hunique h
    obtain ⟨hregistry, hw, herror⟩ := answer_of_not_served hheld hnone o' w
    have hunserved : d.registry.supports target' verb' = false := by
      rw [Bool.eq_false_iff, Ne, hheld.supports_iff]
      rintro ⟨m, hm, hverb⟩
      exact hnone m hm hverb
    rw [Registry.calls, hunserved]
    refine ⟨rfl, hregistry, hw, fun hstop => ?_⟩
    obtain ⟨text, htext⟩ := herror hstop
    rw [htext]
    rfl
  · intro target' verb' o' name h hne
    obtain ⟨rfl, rfl, rfl⟩ := hunique h
    rw [Registry.resolve, Registry.resolve, find?_answer_of_ne hne]
  · rw [stopping_answer_iff]
    refine or_congr_right ?_
    constructor
    · rintro ⟨htarget, hverb⟩
      obtain rfl := ofName_eq_controller_iff.1 htarget
      obtain rfl : verb = stopVerb := hverb
      exact ⟨o, haddresses⟩
    · rintro ⟨o', h⟩
      obtain ⟨rfl, rfl, -⟩ := hunique h
      exact ⟨ofName_eq_controller_iff.2 rfl, rfl⟩

/-- Any modules, any frames and commands before, and any bytes: a frame leads to the calls that it should,
which watched modules see, and the dispatcher does what it should. -/
theorem routing {modules : List (String × Module W)} {r : Registry W} (hr : Registry.ofModules modules = .ok r)
    {d : Dispatcher W} (hd : Later { registry := r } d) (body : Bytes) (w : W) :
    ∃ calls f d' w', d.handle body w = (f, d', w') ∧
      (∀ log, d.watched.handle body (w, log) = (f, d'.watched, (w', calls ++ log))) ∧
      Routed modules body calls f d w d' w' := by
  have hheld : d.registry.Holds modules := hd.holds (Registry.Holds.ofModules hr)
  refine ⟨d.callsOf body, (d.handle body w).1, (d.handle body w).2.1, (d.handle body w).2.2, rfl,
    handle_watched d body w, ?_⟩
  cases hdecode : decode body with
  | error e => exact routed_of_error hdecode w
  | ok c =>
    obtain ⟨target, verb, o, -, haddresses⟩ := addresses_of_decode hdecode
    exact routed_of_ok hheld haddresses w

end

/-- A module that counts how often it is rung, in itself and in the world. -/
def bell : Module Nat where
  State := Nat
  state := 0
  verbs := ["ring"]
  invoke _ _ s := fun w => ((.reply .done, s + 1), w + 1)

def tower : Registry Nat := ⟨[("bell", ⟨["ring"], bell⟩)], ["bell"]⟩

def ring : Bytes := Bytes.ofString "\x7b\"command\":\" bell.ring \",\"option\":null\x7d"

/-- The bell is rung for the second time. -/
theorem routing_tower :
    Registry.ofModules [("bell", bell)] = .ok tower ∧
      (callsOf { registry := tower } ring).map (fun c => (c.module, c.verb)) = [("bell", "ring")] ∧
      ∃ calls f d' w', (Dispatcher.handle { registry := tower } ring 0).2.1.handle ring 1 = (f, d', w') ∧
        (∀ log, (Dispatcher.handle { registry := tower } ring 0).2.1.watched.handle ring (1, log) =
          (f, d'.watched, (w', calls ++ log))) ∧
        Routed [("bell", bell)] ring calls f (Dispatcher.handle { registry := tower } ring 0).2.1 1 d' w' :=
  ⟨rfl, by decide +kernel, routing rfl (.handle .refl ring 0) ring 1⟩

end Dispatcher

end DetectorControl
