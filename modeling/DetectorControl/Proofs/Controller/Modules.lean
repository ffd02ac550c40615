import DetectorControl.Controller.Builtin
import DetectorControl.Proofs.Controller.Registry

/-!
# What a command does to the subsystems

`Equipment.serve` says which handler a command reaches, and what it does to the states of the
subsystems. The registry of the subsystems behaves exactly like it (`registry_invoke`), and so a
frame that a dispatcher handles either changes nothing or is one call of `serve` (`handle_registry`).
-/

namespace DetectorControl

namespace Verb
variable {V : Type} [Verb V]

theorem parse?_eq_none_iff {name : String} : parse? (V := V) name = none ↔ name ∉ names V := by
  simp only [parse?, names, List.find?_eq_none, List.mem_map, not_exists, not_and, beq_iff_eq]

end Verb

variable {W : Type}

/-- A verb of a subsystem, by its name: the handler acts if it is declared. -/
def serveBy {V S : Type} [Verb V] (handle : V → Options → S → StateM W (Reply × S)) (verb : String)
    (o : Options) (state : S) : StateM W (Outcome × S) :=
  match Verb.parse? (V := V) verb with
  | none => return (.unserved, state)
  | some v => do
    let (r, state) ← handle v o state
    return (.reply r, state)

/-- A verb that is declared is answered with what the handler says. -/
theorem serveBy_of_parse? {V S : Type} [Verb V] (handle : V → Options → S → StateM W (Reply × S)) {verb : String}
    {v : V} (h : Verb.parse? verb = some v) (o : Options) (state : S) (w : W) :
    (serveBy handle verb o state w).1.1 = .reply (handle v o state w).1.1 := by
  unfold serveBy
  simp only [h]
  rfl

/-- What holds before a verb is served and after each of the handler's verbs holds afterwards. -/
theorem serveBy_preserves {V S : Type} [Verb V] {handle : V → Options → S → StateM W (Reply × S)}
    {o : Options} {state : S} {w : W} {I : S → W → Prop} (h : I state w)
    (hverb : ∀ v, I (handle v o state w).1.2 (handle v o state w).2) (verb : String) :
    I (serveBy handle verb o state w).1.2 (serveBy handle verb o state w).2 := by
  unfold serveBy
  cases Verb.parse? (V := V) verb with
  | none => exact h
  | some v => exact hverb v

namespace Equipment

/-- A command to the subsystem of the given name. -/
def serve (e : Equipment W) (name verb : String) (o : Options) (s : Subsystems) :
    StateM W (Outcome × Subsystems) :=
  match name with
  | "det" => do
    let (outcome, ()) ← serveBy (Detector.handle e.host e.config e.now) verb o ()
    return (outcome, s)
  | "hv" => do
    let (outcome, supply) ← serveBy (Supply.handle e.supply e.config) verb o s.supply
    return (outcome, { s with supply })
  | "disp" => do
    let (outcome, display) ← serveBy (Display.handle e.display) verb o s.display
    return (outcome, { s with display })
  | "hk" => do
    let (outcome, ()) ← serveBy (Housekeeping.handle e.sensors e.now) verb o ()
    return (outcome, s)
  | "daq" => do
    let (outcome, acquisition) ← serveBy (Acquisition.handle e.acquisition) verb o s.acquisition
    return (outcome, { s with acquisition })
  | "heartbeat" => do
    let (outcome, ()) ← serveBy (HeartbeatControl.handle e.heartbeat e.putHeartbeat) verb o ()
    return (outcome, s)
  | _ => return (.unserved, s)

def names : List String := ["det", "hv", "disp", "hk", "daq", "heartbeat"]

theorem serve_of_not_mem {e : Equipment W} {name : String} (h : name ∉ names) (verb : String)
    (o : Options) (s : Subsystems) (w : W) : e.serve name verb o s w = ((.unserved, s), w) := by
  unfold serve
  split <;> first | rfl | exact absurd (by decide) h

/-- Only a command to the supply changes its record. -/
theorem serve_supply {e : Equipment W} {name : String} (h : name ≠ "hv") (verb : String) (o : Options)
    (s : Subsystems) (w : W) : (e.serve name verb o s w).1.2.supply = s.supply := by
  unfold serve
  split <;> first | rfl | exact absurd rfl h

end Equipment

namespace Registry

theorem supports_ofHandler {V S : Type} [Verb V] {handle : V → Options → S → StateM W (Reply × S)} {state : S}
    {r : Registry W} {name : String} (hfind : r.find? name = some (.ofModule (.ofHandler handle state)))
    (verb : String) : r.supports name verb = (Verb.parse? (V := V) verb).isSome := by
  rw [Bool.eq_iff_iff, supports_iff_find?, ← Option.ne_none_iff_isSome, Ne, Verb.parse?_eq_none_iff,
    Decidable.not_not, hfind]
  constructor
  · rintro ⟨e, ⟨⟩, h⟩
    exact mem_nameSet.1 h
  · exact fun h => ⟨_, rfl, mem_nameSet.2 h⟩

/-- Only the entry of the name is touched, and it does what `serveBy` says. -/
theorem invoke_ofHandler {V S : Type} [Verb V] {handle : V → Options → S → StateM W (Reply × S)} {state : S}
    {name : String} (front back : List (String × Module W))
    (hnodup : ((front ++ (name, .ofHandler handle state) :: back).map (·.1)).Nodup)
    (hreserved : Target.controllerName ∉ (front ++ (name, .ofHandler handle state) :: back).map (·.1))
    (verb : String) (o : Options) (w : W) :
    (Registry.empty.registerAll (front ++ (name, .ofHandler handle state) :: back)).invoke name verb o w =
      ((serveBy handle verb o state w).1.1,
        Registry.empty.registerAll (front ++ (name, .ofHandler handle (serveBy handle verb o state w).1.2) :: back),
        (serveBy handle verb o state w).2) := by
  have hfind := find?_registerAll hnodup hreserved
  have hsupports := supports_ofHandler hfind verb
  cases hv : Verb.parse? (V := V) verb with
  | none =>
    have hserve : serveBy handle verb o state w = ((.unserved, state), w) := by
      simp only [serveBy, hv]
      rfl
    rw [hv] at hsupports
    rw [invoke_of_unsupported hsupports, hserve]
  | some v =>
    rw [hv] at hsupports
    obtain ⟨e, he, hverb⟩ := supports_iff_find?.1 hsupports
    cases hfind.symm.trans he
    have hserve : serveBy handle verb o state w =
        ((.reply (handle v o state w).1.1, (handle v o state w).1.2), (handle v o state w).2) := by
      simp only [serveBy, hv]
      rfl
    have hinvoke : (Entry.ofModule (.ofHandler handle state)).invoke verb o w =
        (.reply (handle v o state w).1.1, .ofModule (.ofHandler handle (handle v o state w).1.2),
          (handle v o state w).2) := by
      simp only [Entry.invoke, Entry.ofModule, Module.ofHandler, hv]
      rfl
    rw [invoke_of_find? he hverb, hinvoke, hserve, put_registerAll hnodup hreserved]

end Registry

namespace Equipment
variable {e : Equipment W} {s : Subsystems}

theorem nodup_names : names.Nodup := by decide

theorem controllerName_not_mem_names : Target.controllerName ∉ names := by decide

theorem agrees_registry : (e.registry s).Agrees := Registry.Agrees.empty.registerAll _

theorem names_registry : (e.registry s).names = names := by
  have hnodup : ((e.modules s).map (·.1)).Nodup := nodup_names
  rw [registry, Registry.registerAll_of_nodup hnodup controllerName_not_mem_names fun _ _ => rfl]
  rfl

theorem resolve_registry {name : String} {m : Module W} (front back : List (String × Module W))
    (hmodules : e.modules s = front ++ (name, m) :: back) : (e.registry s).resolve name = some m := by
  have hnodup : ((e.modules s).map (·.1)).Nodup := nodup_names
  have hreserved : Target.controllerName ∉ (e.modules s).map (·.1) := controllerName_not_mem_names
  rw [hmodules] at hnodup hreserved
  rw [registry, hmodules, Registry.resolve, Registry.find?_registerAll hnodup hreserved]
  rfl

/-- The registry of the subsystems does what `serve` says. -/
theorem registry_invoke (name verb : String) (o : Options) (w : W) :
    (e.registry s).invoke name verb o w =
      ((e.serve name verb o s w).1.1, e.registry (e.serve name verb o s w).1.2,
        (e.serve name verb o s w).2) := by
  -- the modules, of which those in front of the one that is named and those behind it have other names
  let det : String × Module W := ("det", .ofHandler (Detector.handle e.host e.config e.now) ())
  let hv : String × Module W := ("hv", .ofHandler (Supply.handle e.supply e.config) s.supply)
  let disp : String × Module W := ("disp", .ofHandler (Display.handle e.display) s.display)
  let hk : String × Module W := ("hk", .ofHandler (Housekeeping.handle e.sensors e.now) ())
  let daq : String × Module W := ("daq", .ofHandler (Acquisition.handle e.acquisition) s.acquisition)
  let heartbeat : String × Module W :=
    ("heartbeat", .ofHandler (HeartbeatControl.handle e.heartbeat e.putHeartbeat) ())
  by_cases hname : name ∈ names
  · have hnodup := nodup_names
    have hreserved := controllerName_not_mem_names
    simp only [names, List.mem_cons, List.not_mem_nil, or_false] at hname
    rcases hname with rfl | rfl | rfl | rfl | rfl | rfl
    · exact Registry.invoke_ofHandler [] [hv, disp, hk, daq, heartbeat] hnodup hreserved verb o w
    · exact Registry.invoke_ofHandler [det] [disp, hk, daq, heartbeat] hnodup hreserved verb o w
    · exact Registry.invoke_ofHandler [det, hv] [hk, daq, heartbeat] hnodup hreserved verb o w
    · exact Registry.invoke_ofHandler [det, hv, disp] [daq, heartbeat] hnodup hreserved verb o w
    · exact Registry.invoke_ofHandler [det, hv, disp, hk] [heartbeat] hnodup hreserved verb o w
    · exact Registry.invoke_ofHandler [det, hv, disp, hk, daq] [] hnodup hreserved verb o w
  · have hunserved : (e.registry s).supports name verb = false := by
      rw [Registry.supports, agrees_registry.find?_eq_none_iff.2 (names_registry ▸ hname)]
    rw [serve_of_not_mem hname, Registry.invoke_of_unsupported hunserved]

end Equipment

namespace Dispatcher
variable {e : Equipment W} {s : Subsystems} {d : Dispatcher W}

theorem moduleCommand_registry (hd : d.registry = e.registry s) (name verb : String) (o : Options)
    (w : W) :
    d.moduleCommand name verb o w =
      (if name ∈ Equipment.names then ofOutcome name verb (e.serve name verb o s w).1.1
        else .error ("Subsystem '" ++ name ++ "' not found"),
        { d with registry := e.registry (e.serve name verb o s w).1.2 },
        (e.serve name verb o s w).2) := by
  have hinvoke := Equipment.registry_invoke (e := e) (s := s) name verb o w
  unfold moduleCommand
  by_cases hname : name ∈ Equipment.names
  · have hfound : (d.registry.resolve name).isNone = false := by
      rw [Registry.resolve, Option.isNone_map, Bool.eq_false_iff, Ne, Option.isNone_iff_eq_none, hd,
        Equipment.agrees_registry.find?_eq_none_iff, Equipment.names_registry]
      exact not_not_intro hname
    rw [hfound, if_pos hname]
    cases hsup : d.registry.supports name verb with
    | false =>
      rw [hd] at hsup
      rw [Registry.invoke_of_unsupported hsup] at hinvoke
      obtain ⟨h₁, h₂, h₃⟩ := Prod.mk.inj hinvoke |>.imp_right Prod.mk.inj
      rw [← h₁, ← h₂, ← h₃, ← hd]
      rfl
    | true =>
      rw [hd, hinvoke]
      rfl
  · have hmissing : (d.registry.resolve name).isNone = true := by
      rw [Registry.resolve, Option.isNone_map, Option.isNone_iff_eq_none, hd,
        Equipment.agrees_registry.find?_eq_none_iff, Equipment.names_registry]
      exact hname
    rw [hmissing, if_neg hname, Equipment.serve_of_not_mem hname, ← hd]
    rfl

theorem controllerCommand_registry (d : Dispatcher W) (verb : String) :
    (d.controllerCommand verb).2.registry = d.registry := by
  unfold controllerCommand
  split <;> rfl

/-- A command to a subsystem is one call of `serve`. -/
theorem handle_subsystem (hd : d.registry = e.registry s) {body : Bytes} {name verb : String} {o : Options}
    (hdecode : decode body = .ok ⟨.subsystem name, verb, o⟩) (hname : name ∈ Equipment.names) (w : W) :
    d.handle body w =
      ((ofOutcome name verb (e.serve name verb o s w).1.1).frame name,
        { d with registry := e.registry (e.serve name verb o s w).1.2 }, (e.serve name verb o s w).2) := by
  have hmodule := moduleCommand_registry hd name verb o w
  rw [if_pos hname] at hmodule
  unfold handle
  simp only [hdecode, dispatch, hmodule]
  rfl

/-- Handling a frame changes nothing, or is one call of `serve`. -/
theorem handle_registry (hd : d.registry = e.registry s) (body : Bytes) (w : W) :
    ((d.handle body w).2.1.registry = e.registry s ∧ (d.handle body w).2.2 = w) ∨
      ∃ name verb o, (d.handle body w).2.1.registry = e.registry (e.serve name verb o s w).1.2 ∧
        (d.handle body w).2.2 = (e.serve name verb o s w).2 := by
  unfold handle
  cases decode body with
  | error fault => exact .inl ⟨hd, rfl⟩
  | ok c =>
    cases htarget : c.target with
    | controller =>
      refine .inl ?_
      simp only [dispatch, htarget, controllerCommand_registry]
      exact ⟨hd, trivial⟩
    | subsystem name =>
      refine .inr ⟨name, c.verb, c.options, ?_⟩
      simp only [dispatch, htarget, moduleCommand_registry hd, and_self]

/-- Handles the bodies of frames one after the other. -/
def handleAll (d : Dispatcher W) (w : W) : List Bytes → Dispatcher W × W
  | [] => (d, w)
  | body :: rest => (d.handle body w).2.1.handleAll (d.handle body w).2.2 rest

/-- What a call of `serve` keeps is kept by a controller, whatever it is sent. -/
theorem handleAll_registry {Inv : Subsystems → W → Prop}
    (hserve : ∀ name verb o s w, Inv s w →
      Inv (e.serve name verb o s w).1.2 (e.serve name verb o s w).2)
    (hd : d.registry = e.registry s) {w : W} (h : Inv s w) (bodies : List Bytes) :
    ∃ s', (d.handleAll w bodies).1.registry = e.registry s' ∧ Inv s' (d.handleAll w bodies).2 := by
  induction bodies generalizing d s w with
  | nil => exact ⟨s, hd, h⟩
  | cons body rest ih =>
    rcases handle_registry hd body w with ⟨hd', hw⟩ | ⟨name, verb, o, hd', hw⟩
    · exact ih hd' (by rw [hw]; exact h)
    · exact ih hd' (by rw [hw]; exact hserve name verb o s w h)

end Dispatcher

end DetectorControl
