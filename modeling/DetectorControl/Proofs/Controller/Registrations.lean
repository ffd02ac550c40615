import DetectorControl.Proofs.Controller.Routing
import DetectorControl.Proofs.Entries
import Mathlib.Data.List.Basic
import Mathlib.Data.List.Induction

/-!
# What a registry is filled with

Subsystems are registered under names, in any order, with names that are free and names that are not, and
commands come in between. The map and the list of the names stay in agreement (`Filling.holds_fill`). A name belongs
to the first who asked for it (`names_fill`), and from then on leads to that subsystem with the verbs that it was
registered with: each of them is answered by its handler, and by no other (`lawful_fill`).
-/

namespace DetectorControl
variable {W : Type}

/-- A set of verbs, the handler that answers them, and the state that it begins in. -/
structure Subsystem (W : Type) where
  Verbs : Type
  State : Type
  [verb : Verb Verbs]
  handle : Verbs → Options → State → StateM W (Reply × State)
  state : State

attribute [instance] Subsystem.verb

namespace Subsystem

def module (s : Subsystem W) : Module W := .ofHandler s.handle s.state

theorem parse?_isSome_iff {s : Subsystem W} {verb : String} :
    (Verb.parse? (V := s.Verbs) verb).isSome = true ↔ verb ∈ s.module.verbs := by
  rw [← Option.ne_none_iff_isSome, Ne, Verb.parse?_eq_none_iff, not_not]
  rfl

theorem invoke_of_parse? {s : Subsystem W} {verb : String} {v : s.Verbs} (h : Verb.parse? verb = some v)
    (o : Options) (state : s.State) (w : W) :
    s.module.invoke verb o state w =
      ((.reply (s.handle v o state w).1.1, (s.handle v o state w).1.2), (s.handle v o state w).2) := by
  unfold module Module.ofHandler
  simp only [h]
  rfl

end Subsystem

namespace Registry
variable {r r' : Registry W} {name : String} {m : Module W}

/-! ## Attempts and commands -/

inductive Event (W : Type) where
  | register (name : String) (s : Subsystem W)
  /-- A command, and the world that it meets. -/
  | invoke (name verb : String) (o : Options) (w : W)

structure Filling (W : Type) where
  registry : Registry W := .empty
  /-- The attempts that succeeded, in order. -/
  held : List (String × Subsystem W) := []

namespace Filling

def step (x : Filling W) : Event W → Filling W
  | .register name s =>
    match x.registry.register name s.module with
    | (.ok (), registry) => ⟨registry, x.held ++ [(name, s)]⟩
    | (.error _, registry) => { x with registry }
  | .invoke name verb o w => { x with registry := (x.registry.invoke name verb o w).2.1 }

theorem step_of_error {x : Filling W} {s : Subsystem W} {e : RegistryError}
    (h : x.registry.register name s.module = (.error e, r')) :
    x.step (.register name s) = { x with registry := r' } := by
  unfold step
  simp only [h]

theorem step_of_ok {x : Filling W} {s : Subsystem W} (h : x.registry.register name s.module = (.ok (), r')) :
    x.step (.register name s) = ⟨r', x.held ++ [(name, s)]⟩ := by
  unfold step
  simp only [h]

def modules (x : Filling W) : List (String × Module W) := x.held.map fun h => (h.1, h.2.module)

theorem mem_modules {x : Filling W} : (name, m) ∈ x.modules ↔ ∃ s, (name, s) ∈ x.held ∧ s.module = m := by
  unfold modules
  rw [List.mem_map]
  constructor
  · rintro ⟨⟨name', s⟩, hs, heq⟩
    cases heq
    exact ⟨s, hs, rfl⟩
  · rintro ⟨s, hs, rfl⟩
    exact ⟨(name, s), hs, rfl⟩

/-- What is registered is held, what is refused changes nothing, and commands change states only. -/
theorem holds_step {x : Filling W} (h : x.registry.Holds x.modules) (e : Event W) :
    (x.step e).registry.Holds (x.step e).modules := by
  cases e with
  | invoke name verb o w => exact h.invoke name verb o w
  | register name s =>
    obtain ⟨hr, hreserved, hfree⟩ | ⟨⟨e, hr⟩, -⟩ := register_cases x.registry name s.module
    · rw [step_of_ok hr, modules, List.map_append]
      exact h.add hreserved hfree s.module
    · rw [step_of_error hr]
      exact h

theorem registry_step (x : Filling W) (name : String) (s : Subsystem W) :
    (x.step (.register name s)).registry = (x.registry.register name s.module).2 := by
  obtain ⟨hr, -⟩ | ⟨⟨e, hr⟩, -⟩ := register_cases x.registry name s.module
  · rw [step_of_ok hr, hr]
  · rw [step_of_error hr, hr]

theorem registry_registerAll (x : Filling W) (subsystems : List (String × Subsystem W)) :
    (subsystems.foldl (fun x s => x.step (.register s.1 s.2)) x).registry =
      x.registry.registerAll (subsystems.map fun s => (s.1, s.2.module)) := by
  induction subsystems generalizing x with
  | nil => rw [List.map_nil, registerAll_nil, List.foldl_nil]
  | cons s rest ih => rw [List.foldl_cons, ih, registry_step, List.map_cons, registerAll_cons]

theorem held_step (x : Filling W) (e : Event W) : x.held <+: (x.step e).held := by
  cases e with
  | invoke => exact List.prefix_rfl
  | register name s =>
    obtain ⟨hr, -⟩ | ⟨⟨e, hr⟩, -⟩ := register_cases x.registry name s.module
    · rw [step_of_ok hr]
      exact List.prefix_append ..
    · exact ⟨[], by rw [step_of_error hr, List.append_nil]⟩

end Filling

def fill (events : List (Event W)) : Filling W := events.foldl .step {}

theorem fill_concat (events : List (Event W)) (e : Event W) : fill (events ++ [e]) = (fill events).step e :=
  List.foldl_concat ..

theorem Filling.holds_fill (events : List (Event W)) : (fill events).registry.Holds (fill events).modules := by
  induction events using List.reverseRecOn with
  | nil => exact .empty
  | append_singleton events e ih =>
    rw [fill_concat]
    exact holds_step ih e

theorem Filling.held_fill (events more : List (Event W)) : (fill events).held <+: (fill (events ++ more)).held := by
  induction more using List.reverseRecOn with
  | nil => exact ⟨[], by rw [List.append_nil, List.append_nil]⟩
  | append_singleton more e ih =>
    rw [← List.append_assoc, fill_concat]
    exact ih.trans (held_step _ e)

/-! ## Names -/

namespace Event

/-- The name that an attempt asks for, unless it is the controller's. -/
def asked? : Event W → Option String
  | .register name _ => if name = "controller" then none else some name
  | .invoke .. => none

theorem asked?_register (hreserved : name ≠ "controller") (s : Subsystem W) : asked? (.register name s) = some name :=
  if_neg hreserved

end Event

theorem eraseDups_concat (names : List String) (name : String) :
    (names ++ [name]).eraseDups = if name ∈ names then names.eraseDups else names.eraseDups ++ [name] := by
  rw [List.eraseDups_append]
  by_cases h : name ∈ names
  · simp [List.removeAll, h]
  · simp [List.removeAll, h, List.eraseDups_cons]

/-- Each name is registered for the first attempt that asks for it. -/
theorem names_fill (events : List (Event W)) :
    (fill events).registry.names = (events.filterMap Event.asked?).eraseDups := by
  -- from the end, where the last attempt meets the names that are taken by then
  induction events using List.reverseRecOn with
  | nil => rfl
  | append_singleton events e ih =>
    rw [fill_concat, List.filterMap_append]
    cases e with
    | invoke name verb o w =>
      show (Registry.invoke _ name verb o w).2.1.names = (_ ++ []).eraseDups
      rw [names_invoke, List.append_nil, ih]
    | register name s =>
      have hagrees := (Filling.holds_fill events).agrees
      have hmem : name ∈ events.filterMap Event.asked? ↔ ((fill events).registry.find? name).isSome = true := by
        rw [← List.mem_eraseDups, ← ih, hagrees.isSome_find?_iff]
        rfl
      obtain ⟨hr, hreserved, hfree⟩ | ⟨⟨e, hr⟩, hrefused⟩ := register_cases (fill events).registry name s.module
      · have hnew : name ∉ events.filterMap Event.asked? := by
          rw [hmem, hfree]
          exact nofun
        rw [List.filterMap_cons_some (Event.asked?_register hreserved s), List.filterMap_nil, eraseDups_concat,
          if_neg hnew, ← ih, Filling.step_of_ok hr]
        rfl
      · rw [Filling.step_of_error hr]
        by_cases hreserved : name = "controller"
        · have hasked : (Event.register name s).asked? = none := if_pos hreserved
          rw [List.filterMap_cons_none hasked, List.filterMap_nil, List.append_nil, ← ih]
        · have htaken := hmem.2 (hrefused.resolve_left hreserved)
          rw [List.filterMap_cons_some (Event.asked?_register hreserved s), List.filterMap_nil, eraseDups_concat,
            if_pos htaken, ← ih]

/-! ## What holds of a registry that is filled -/

/-- A verb of a subsystem that was in a state has been run. -/
structure Served (r : Registry W) (name : String) (s : Subsystem W) (state : s.State) (v : s.Verbs) (o : Options)
    (w : W) (after : Outcome × Registry W × W) : Prop where
  outcome : after.1 = .reply (s.handle v o state w).1.1
  world : after.2.2 = (s.handle v o state w).2
  resolve : after.2.1.resolve name = some (s.module.at (s.handle v o state w).1.2)
  names : after.2.1.names = r.names
  verbs : ∀ name', after.2.1.verbs name' = r.verbs name'
  others : ∀ name' ≠ name, after.2.1.resolve name' = r.resolve name'

namespace Filling

section
variable {x : Filling W} {verb : String}

theorem supports_iff (h : x.registry.Holds x.modules) : x.registry.supports name verb = true ↔
    ∃ s, (name, s) ∈ x.held ∧ (Verb.parse? (V := s.Verbs) verb).isSome = true := by
  rw [h.supports_iff]
  constructor
  · rintro ⟨m, hm, hverb⟩
    obtain ⟨s, hs, rfl⟩ := mem_modules.1 hm
    exact ⟨s, hs, Subsystem.parse?_isSome_iff.2 hverb⟩
  · rintro ⟨s, hs, hverb⟩
    exact ⟨s.module, mem_modules.2 ⟨s, hs, rfl⟩, Subsystem.parse?_isSome_iff.1 hverb⟩

theorem resolve_of_mem (h : x.registry.Holds x.modules) {s : Subsystem W} (hs : (name, s) ∈ x.held) :
    ∃ state : s.State, x.registry.resolve name = some (s.module.at state) := by
  obtain ⟨state, hfind⟩ := h.find?_of_mem name s.module (mem_modules.2 ⟨s, hs, rfl⟩)
  exact ⟨state, by rw [resolve, hfind]; rfl⟩

theorem verbs_eq (h : x.registry.Holds x.modules) {verbs : List String} (hverbs : x.registry.verbs name = some verbs) :
    verbs.Pairwise (· < ·) ∧ ∀ verb, verb ∈ verbs ↔ x.registry.supports name verb = true := by
  obtain ⟨e, hfind, rfl⟩ := Option.map_eq_some_iff.1 hverbs
  have hname : name ∈ x.registry.names := (h.agrees.isSome_find?_iff name).1 (by rw [hfind]; rfl)
  rw [h.names_eq] at hname
  obtain ⟨⟨name', m⟩, hm, rfl⟩ := List.mem_map.1 hname
  obtain ⟨state, hfind'⟩ := h.find?_of_mem name' m hm
  cases hfind.symm.trans hfind'
  refine ⟨pairwise_nameSet m.verbs, fun verb => ?_⟩
  rw [supports, hfind']
  exact List.contains_iff_mem.symm

theorem served (h : x.registry.Holds x.modules) (hsupports : x.registry.supports name verb = true) (o : Options) (w : W) :
    ∃ (s : Subsystem W) (state : s.State) (v : s.Verbs), (name, s) ∈ x.held ∧
      x.registry.resolve name = some (s.module.at state) ∧ Verb.parse? verb = some v ∧
      Served x.registry name s state v o w (x.registry.invoke name verb o w) := by
  obtain ⟨s, hs, hverb⟩ := (supports_iff h).1 hsupports
  obtain ⟨v, hv⟩ := Option.isSome_iff_exists.1 hverb
  obtain ⟨state, state', hfind, hinvoke, hafter⟩ :=
    h.invoke_of_mem (mem_modules.2 ⟨s, hs, rfl⟩) (Subsystem.parse?_isSome_iff.1 hverb) o w
  -- the handler and the registry tell of the same run
  obtain ⟨hanswer, hworld⟩ := Prod.mk.inj ((Subsystem.invoke_of_parse? hv o state w).symm.trans hinvoke)
  obtain ⟨houtcome, rfl⟩ := Prod.mk.inj hanswer
  have hothers (name' : String) (hne : name' ≠ name) := find?_invoke_of_ne x.registry hne verb o w
  refine ⟨s, state, v, hs, by rw [resolve, hfind]; rfl, hv, houtcome.symm, hworld.symm, ?_,
    names_invoke .., ?_, ?_⟩
  · rw [resolve, hafter]
    rfl
  · intro name'
    by_cases hne : name' = name
    · subst hne
      rw [verbs, verbs, hafter, hfind]
      rfl
    · rw [verbs, verbs, hothers name' hne]
  · intro name' hne
    rw [resolve, resolve, hothers name' hne]

end

/-- A registry and what was registered in it go together. -/
structure Lawful (x : Filling W) : Prop where
  names_eq : x.registry.names = x.held.map (·.1)
  nodup : x.registry.names.Nodup
  unreserved : "controller" ∉ x.registry.names
  isSome_resolve_iff : ∀ name, (x.registry.resolve name).isSome = true ↔ name ∈ x.registry.names
  /-- A name leads to what was registered under it, in the state that the commands have brought it to. -/
  resolve_of_mem : ∀ name (s : Subsystem W), (name, s) ∈ x.held →
    ∃ state : s.State, x.registry.resolve name = some (s.module.at state)
  refused_iff : ∀ name (s : Subsystem W), (∃ e, (x.registry.register name s.module).1 = .error e) ↔
    name = "controller" ∨ name ∈ x.registry.names
  /-- An attempt that is refused changes no name, no verb, and no module. -/
  refused : ∀ name (s : Subsystem W) e, (x.registry.register name s.module).1 = .error e →
    (x.registry.register name s.module).2 = x.registry
  supports_iff : ∀ name verb, x.registry.supports name verb = true ↔
    ∃ s, (name, s) ∈ x.held ∧ (Verb.parse? (V := s.Verbs) verb).isSome = true
  isSome_verbs_iff : ∀ name, (x.registry.verbs name).isSome = true ↔ name ∈ x.registry.names
  verbs_eq : ∀ name verbs, x.registry.verbs name = some verbs →
    verbs.Pairwise (· < ·) ∧ verbs.Nodup ∧ ∀ verb, verb ∈ verbs ↔ x.registry.supports name verb = true
  served : ∀ name verb o w, x.registry.supports name verb = true →
    ∃ (s : Subsystem W) (state : s.State) (v : s.Verbs), (name, s) ∈ x.held ∧
      x.registry.resolve name = some (s.module.at state) ∧ Verb.parse? verb = some v ∧
      Served x.registry name s state v o w (x.registry.invoke name verb o w)
  unserved : ∀ name verb o w, x.registry.supports name verb = false →
    x.registry.invoke name verb o w = (.unserved, x.registry, w)

end Filling

/-- After any attempts to register subsystems, and any commands in between: the names are those that were asked for,
once each and without the controller's, what was registered stays, and the registry goes by it. -/
theorem lawful_fill (events : List (Event W)) :
    (fill events).registry.names = (events.filterMap Event.asked?).eraseDups ∧ (fill events).Lawful ∧
      ∀ more, (fill events).held <+: (fill (events ++ more)).held := by
  have hholds := Filling.holds_fill events
  refine ⟨names_fill events, ?_, Filling.held_fill events⟩
  exact {
    names_eq := by
      rw [hholds.names_eq, Filling.modules, List.map_map]
      rfl
    nodup := hholds.agrees.nodup
    unreserved := hholds.names_eq ▸ hholds.unreserved
    isSome_resolve_iff := fun name => by
      rw [resolve, Option.isSome_map]
      exact hholds.agrees.isSome_find?_iff name
    resolve_of_mem := fun name s hs => Filling.resolve_of_mem hholds hs
    refused_iff := fun name s => by
      rw [register_eq_error_iff, hholds.agrees.isSome_find?_iff]
      rfl
    refused := fun name s e he => register_of_error he
    supports_iff := fun name verb => Filling.supports_iff hholds
    isSome_verbs_iff := fun name => by
      rw [verbs, Option.isSome_map]
      exact hholds.agrees.isSome_find?_iff name
    verbs_eq := fun name verbs hverbs => by
      obtain ⟨hsorted, hmem⟩ := Filling.verbs_eq hholds hverbs
      exact ⟨hsorted, hsorted.imp String.ne_of_lt, hmem⟩
    served := fun name verb o w hsupports => Filling.served hholds hsupports o w
    unserved := fun name verb o w hsupports => invoke_of_unsupported hsupports o w }

end Registry

namespace Equipment
variable (e : Equipment W) (s : Subsystems)

def subsystems : List (String × Subsystem W) :=
  [("det", ⟨_, _, Detector.handle e.host e.config e.now, ()⟩),
    ("hv", ⟨_, _, Supply.handle e.supply e.config, s.supply⟩),
    ("disp", ⟨_, _, Display.handle e.display, s.display⟩),
    ("hk", ⟨_, _, Housekeeping.handle e.sensors e.now, ()⟩),
    ("daq", ⟨_, _, Acquisition.handle e.acquisition, s.acquisition⟩),
    ("heartbeat", ⟨_, _, HeartbeatControl.handle e.heartbeat e.putHeartbeat, ()⟩)]

/-- The controller's registry is one that was filled. -/
theorem registry_eq_fill :
    e.registry s = (Registry.fill ((e.subsystems s).map fun x => .register x.1 x.2)).registry := by
  have hmodules : e.modules s = (e.subsystems s).map fun x => (x.1, x.2.module) := rfl
  rw [registry, hmodules, Registry.fill, List.foldl_map, Registry.Filling.registry_registerAll]

/-- None of the subsystems is refused. -/
theorem ofModules_modules : Registry.ofModules (e.modules s) = .ok (e.registry s) := by
  have hnodup : ((e.modules s).map (·.1)).Nodup := nodup_names
  exact Registry.ofModules_of_nodup hnodup controllerName_not_mem_names fun _ _ => rfl

end Equipment

end DetectorControl
