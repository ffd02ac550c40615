import DetectorControl.Proofs.Supply.Report
import DetectorControl.Proofs.World.Parts

/-!
# Clients that do not meet

Several clients send commands to the controller of a rig, which attends to them one by one as they come
(`Dispatcher.attend`). If no two of them address the same subsystem, each gets the answers, but for the clock,
that it gets however the commands of the others come in between, and the controller and its rig are left the
same (`attend_interleaved`).
-/

namespace DetectorControl

namespace Equipment
variable {W : Type} {e : Equipment W} {s s' : Subsystems}

theorem state_ofHandler {V S : Type} [Verb V] {handle : V → Options → S → StateM W (Reply × S)} {state state' : S}
    (h : Module.ofHandler handle state = .ofHandler handle state') : state = state' :=
  eq_of_heq (Module.mk.inj h).2.1

/-- A registry holds the states of the subsystems. -/
theorem registry_inj (h : e.registry s = e.registry s') : s = s' := by
  have hresolve (name : String) : (e.registry s).resolve name = (e.registry s').resolve name := by rw [h]
  have hsupply := hresolve "hv"
  have hdisplay := hresolve "disp"
  have hacquisition := hresolve "daq"
  rw [resolve_registry [_] _ rfl, resolve_registry [_] _ rfl] at hsupply
  rw [resolve_registry [_, _] _ rfl, resolve_registry [_, _] _ rfl] at hdisplay
  rw [resolve_registry [_, _, _, _] _ rfl, resolve_registry [_, _, _, _] _ rfl] at hacquisition
  obtain ⟨supply, display, acquisition⟩ := s
  obtain ⟨supply', display', acquisition'⟩ := s'
  obtain rfl : supply = supply' := state_ofHandler (Option.some.inj hsupply)
  obtain rfl : display = display' := state_ofHandler (Option.some.inj hdisplay)
  obtain rfl : acquisition = acquisition' := state_ofHandler (Option.some.inj hacquisition)
  rfl

end Equipment

/-- The body of a frame that a client sends, and the moment at which it is attended to. -/
structure Turn (ι : Type) where
  client : ι
  moment : Instant
  body : Bytes

namespace Rig

/-- The moment that the clock shows. -/
def putNow (now : Instant) (w : Rig) : Rig := { w with now }

end Rig

namespace Dispatcher
variable {ι : Type}

/-- Attends to clients one by one, each at its moment; the answers, with those who get them. -/
def attend : List (Turn ι) → Dispatcher Rig × Rig → List (ι × ReplyFrame) × Dispatcher Rig × Rig
  | [], x => ([], x)
  | turn :: rest, x =>
    let answered := x.1.handle turn.body (x.2.putNow turn.moment)
    let later := attend rest answered.2
    ((turn.client, answered.1) :: later.1, later.2)

/-- The body holds a command to the subsystem of the given name. -/
def Addresses (name : String) (body : Bytes) : Prop := ∃ verb o, decode body = .ok ⟨.subsystem name, verb, o⟩

/-- What a client sends, in whatever order the clients come. -/
def sentBy [DecidableEq ι] (i : ι) (run : List (Turn ι)) : List Bytes :=
  (run.filter (·.client = i)).map (·.body)

/-- What a client gets, without the times of its making. -/
def answersTo [DecidableEq ι] (i : ι) (answers : List (ι × ReplyFrame)) : List ReplyFrame :=
  (answers.filter (·.1 = i)).map (·.2.undated)

/-! ## One command -/

theorem ofOutcome_undated (name verb : String) (outcome : Outcome) :
    ((ofOutcome name verb outcome).frame name).undated = (ofOutcome name verb outcome.undated).frame name := by
  cases outcome with
  | reply r => cases r <;> rfl
  | _ => rfl

variable {config : Config} {host : Host} {endpoints : Rig.Endpoints} {names : List String} {name : String}

/-- Controllers and rigs that are alike to the subsystems of the given names. -/
structure Alike (config : Config) (host : Host) (endpoints : Rig.Endpoints) (names : List String)
    (x x' : Dispatcher Rig × Rig) : Prop where
  registry : ∃ s s', x.1.registry = (Rig.equipment config host endpoints).registry s ∧
    x'.1.registry = (Rig.equipment config host endpoints).registry s' ∧ s.part names = s'.part names
  stopping : x.1.stopping = x'.1.stopping
  world : x.2.part names = x'.2.part names

namespace Alike
variable {x x' x'' : Dispatcher Rig × Rig} {body : Bytes}

theorem refl {s : Subsystems} (hs : x.1.registry = (Rig.equipment config host endpoints).registry s) :
    Alike config host endpoints names x x :=
  ⟨⟨s, s, hs, hs, rfl⟩, rfl, rfl⟩

theorem symm (h : Alike config host endpoints names x x') : Alike config host endpoints names x' x := by
  obtain ⟨s, s', hs, hs', hpart⟩ := h.registry
  exact ⟨⟨s', s, hs', hs, hpart.symm⟩, h.stopping.symm, h.world.symm⟩

theorem trans (h : Alike config host endpoints names x x') (h' : Alike config host endpoints names x' x'') :
    Alike config host endpoints names x x'' := by
  obtain ⟨s, s₁, hs, hs₁, hpart⟩ := h.registry
  obtain ⟨s₂, s', hs₂, hs', hpart'⟩ := h'.registry
  obtain rfl := Equipment.registry_inj (hs₁.symm.trans hs₂)
  exact ⟨⟨s, s', hs, hs', hpart.trans hpart'⟩, h.stopping.trans h'.stopping, h.world.trans h'.world⟩

theorem mem_names (hboard : name ∈ Equipment.onBoard) : name ∈ Equipment.names := by
  simp only [Equipment.onBoard, List.mem_cons, List.not_mem_nil, or_false] at hboard
  rcases hboard with rfl | rfl | rfl | rfl <;> decide

/-- A command to one of those subsystems is answered alike at any moments, and leaves them alike. -/
theorem handle (h : Alike config host endpoints names x x') (hboard : name ∈ Equipment.onBoard)
    (hname : name ∈ names) (hbody : Addresses name body) (t t' : Instant) :
    (x.1.handle body (x.2.putNow t)).1.undated = (x'.1.handle body (x'.2.putNow t')).1.undated ∧
      Alike config host endpoints names (x.1.handle body (x.2.putNow t)).2 (x'.1.handle body (x'.2.putNow t')).2 := by
  obtain ⟨s, s', hs, hs', hpart⟩ := h.registry
  obtain ⟨verb, o, hdecode⟩ := hbody
  have hworld : (x.2.putNow t).part names = (x'.2.putNow t').part names := h.world
  obtain ⟨hanswer, hstate, hleft⟩ := Rig.serve_sees config host endpoints hboard hname verb o hpart
    hworld
  rw [handle_subsystem hs hdecode (mem_names hboard), handle_subsystem hs' hdecode (mem_names hboard),
    ofOutcome_undated, ofOutcome_undated, hanswer]
  exact ⟨rfl, ⟨_, _, rfl, rfl, hstate⟩, h.stopping, hleft⟩

/-- A command to another subsystem makes no difference to them. -/
theorem pass (h : Alike config host endpoints names x x') (hboard : name ∈ Equipment.onBoard)
    (hname : name ∉ names) (hbody : Addresses name body) (t : Instant) :
    Alike config host endpoints names (x.1.handle body (x.2.putNow t)).2 x' := by
  obtain ⟨s, s', hs, hs', hpart⟩ := h.registry
  obtain ⟨verb, o, hdecode⟩ := hbody
  obtain ⟨hstate, hleft⟩ := Rig.serve_keeps config host endpoints hboard hname verb o s (x.2.putNow t)
  rw [handle_subsystem hs hdecode (mem_names hboard)]
  exact ⟨⟨_, s', rfl, hs', hstate.trans hpart⟩, h.stopping, hleft.trans h.world⟩

/-- What is alike to each of the subsystems is the same, but for the clock. -/
theorem eq_of_forall (h : ∀ name ∈ Equipment.onBoard, Alike config host endpoints [name] x x') :
    x.1 = x'.1 ∧ ∀ t, x.2.putNow t = x'.2.putNow t := by
  obtain ⟨⟨registry, stopping⟩, w⟩ := x
  obtain ⟨⟨registry', stopping'⟩, w'⟩ := x'
  obtain ⟨⟨s, s', hs, hs', hpart⟩, hstopping, -⟩ := h "hv" (by decide)
  obtain rfl := Subsystems.eq_of_part hpart
  obtain rfl : registry = registry' := hs.trans hs'.symm
  obtain rfl : stopping = stopping' := hstopping
  exact ⟨rfl, Rig.eq_of_part fun name hname => (h name hname).world⟩

theorem mono {names' : List String} (h : Alike config host endpoints names x x') (hsub : names' ⊆ names) :
    Alike config host endpoints names' x x' := by
  obtain ⟨s, s', hs, hs', hpart⟩ := h.registry
  refine ⟨⟨s, s', hs, hs', ?_⟩, h.stopping, ?_⟩
  · rw [← Subsystems.part_part hsub s, hpart, Subsystems.part_part hsub]
  · rw [← Rig.part_part hsub x.2, h.world, Rig.part_part hsub]

end Alike

/-! ## Many commands -/

section
variable {x x' : Dispatcher Rig × Rig}

theorem attend_cons (turn : Turn ι) (rest : List (Turn ι)) (x : Dispatcher Rig × Rig) :
    attend (turn :: rest) x =
      ((turn.client, (x.1.handle turn.body (x.2.putNow turn.moment)).1) ::
          (attend rest (x.1.handle turn.body (x.2.putNow turn.moment)).2).1,
        (attend rest (x.1.handle turn.body (x.2.putNow turn.moment)).2).2) := rfl

/-- Subsystems that nobody addresses see nothing of what is done. -/
theorem attend_unaddressed (h : Alike config host endpoints names x x') (run : List (Turn ι))
    (hrun : ∀ turn ∈ run, ∃ name ∈ Equipment.onBoard, name ∉ names ∧ Addresses name turn.body) :
    Alike config host endpoints names (attend run x).2 x' := by
  induction run generalizing x with
  | nil => exact h
  | cons turn rest ih =>
    obtain ⟨name, hboard, hname, hbody⟩ := hrun turn (by simp)
    exact ih (h.pass hboard hname hbody turn.moment) fun turn hturn => hrun turn (List.mem_cons_of_mem _ hturn)

variable [DecidableEq ι]

theorem answersTo_cons_self (i : ι) (f : ReplyFrame) (answers : List (ι × ReplyFrame)) :
    answersTo i ((i, f) :: answers) = f.undated :: answersTo i answers := by
  simp [answersTo]

theorem answersTo_cons_of_ne {i j : ι} (h : j ≠ i) (f : ReplyFrame) (answers : List (ι × ReplyFrame)) :
    answersTo i ((j, f) :: answers) = answersTo i answers := by
  simp [answersTo, h]

/-- A client is answered as if it were alone, if the others address other subsystems. -/
theorem attend_alone (h : Alike config host endpoints names x x') (i : ι) (run : List (Turn ι))
    (hrun : ∀ turn ∈ run, ∃ name ∈ Equipment.onBoard,
      (name ∈ names ↔ turn.client = i) ∧ Addresses name turn.body) :
    answersTo i (attend run x).1 = answersTo i (attend (run.filter (·.client = i)) x').1 ∧
      Alike config host endpoints names (attend run x).2 (attend (run.filter (·.client = i)) x').2 := by
  induction run generalizing x x' with
  | nil => exact ⟨rfl, h⟩
  | cons turn rest ih =>
    obtain ⟨name, hboard, hname, hbody⟩ := hrun turn (by simp)
    have hrest := fun turn hturn => hrun turn (List.mem_cons_of_mem _ hturn)
    by_cases hclient : turn.client = i
    · obtain ⟨hanswer, hafter⟩ := h.handle hboard (hname.2 hclient) hbody turn.moment turn.moment
      obtain ⟨hanswers, hend⟩ := ih hafter hrest
      rw [List.filter_cons, if_pos (by simpa using hclient), attend_cons, attend_cons, hclient,
        answersTo_cons_self, answersTo_cons_self, hanswer, hanswers]
      exact ⟨rfl, hend⟩
    · have hafter := h.pass hboard (mt hname.1 hclient) hbody turn.moment
      obtain ⟨hanswers, hend⟩ := ih hafter hrest
      rw [List.filter_cons, if_neg (by simpa using hclient), attend_cons, answersTo_cons_of_ne hclient]
      exact ⟨hanswers, hend⟩

/-- The moments at which a client is attended to make no difference to it. -/
theorem attend_moments (h : Alike config host endpoints names x x') (i : ι) {run run' : List (Turn ι)}
    (hbodies : run.map (·.body) = run'.map (·.body)) (hclient : ∀ turn ∈ run, turn.client = i)
    (hclient' : ∀ turn ∈ run', turn.client = i)
    (hrun : ∀ turn ∈ run, ∃ name ∈ Equipment.onBoard, name ∈ names ∧ Addresses name turn.body) :
    answersTo i (attend run x).1 = answersTo i (attend run' x').1 ∧
      Alike config host endpoints names (attend run x).2 (attend run' x').2 := by
  induction run generalizing run' x x' with
  | nil =>
    cases run' with
    | nil => exact ⟨rfl, h⟩
    | cons turn' rest' => cases hbodies
  | cons turn rest ih =>
    cases run' with
    | nil => cases hbodies
    | cons turn' rest' =>
      obtain ⟨hbody, hbodies⟩ := List.cons.inj hbodies
      have hbody : turn.body = turn'.body := hbody
      obtain ⟨name, hboard, hname, haddressed⟩ := hrun turn (by simp)
      obtain ⟨hanswer, hafter⟩ := h.handle hboard hname haddressed turn.moment turn'.moment
      rw [attend_cons, attend_cons, ← hbody, hclient turn (by simp), hclient' turn' (by simp)]
      obtain ⟨hanswers, hend⟩ := ih hafter hbodies (fun t ht => hclient t (by simp [ht]))
        (fun t ht => hclient' t (by simp [ht])) (fun t ht => hrun t (by simp [ht]))
      rw [answersTo_cons_self, answersTo_cons_self, hanswer, hanswers]
      exact ⟨rfl, hend⟩

theorem mem_of_mem_sentBy {i : ι} {run : List (Turn ι)} {body : Bytes} (h : body ∈ sentBy i run) :
    ∃ turn ∈ run, turn.client = i ∧ turn.body = body := by
  obtain ⟨turn, hturn, hbody⟩ := List.mem_map.1 h
  obtain ⟨hturn, hclient⟩ := List.mem_filter.1 hturn
  exact ⟨turn, hturn, by simpa using hclient, hbody⟩

theorem mem_sentBy {run : List (Turn ι)} {turn : Turn ι} (h : turn ∈ run) : turn.body ∈ sentBy turn.client run :=
  List.mem_map.2 ⟨turn, List.mem_filter.2 ⟨h, by simp⟩, rfl⟩

section
variable {names : ι → List String} {run run' : List (Turn ι)}
  (hboard : ∀ i, names i ⊆ Equipment.onBoard) (hapart : ∀ i j, ∀ name ∈ names i, name ∈ names j → i = j)
  (hrun : ∀ turn ∈ run, ∃ name ∈ names turn.client, Addresses name turn.body)
  (hsent : ∀ i, sentBy i run = sentBy i run')
include hboard hapart hrun hsent

omit hboard hapart in
theorem addressed_of_sent : ∀ turn ∈ run', ∃ name ∈ names turn.client, Addresses name turn.body := by
  intro turn' hturn'
  obtain ⟨turn, hturn, hclient, hbody⟩ := mem_of_mem_sentBy (hsent turn'.client ▸ mem_sentBy hturn')
  rw [← hclient, ← hbody]
  exact hrun turn hturn

theorem attend_same_client (h : ∀ names, Alike config host endpoints names x x) (i : ι) :
    answersTo i (attend run x).1 = answersTo i (attend run' x).1 ∧
      Alike config host endpoints (names i) (attend run x).2 (attend run' x).2 := by
  have hrun' := addressed_of_sent hrun hsent
  have howns (run : List (Turn ι)) (hrun : ∀ turn ∈ run, ∃ name ∈ names turn.client, Addresses name turn.body)
      (turn) (hturn : turn ∈ run) : ∃ name ∈ Equipment.onBoard,
        (name ∈ names i ↔ turn.client = i) ∧ Addresses name turn.body := by
    obtain ⟨name, hname, hbody⟩ := hrun turn hturn
    exact ⟨name, hboard _ hname, ⟨hapart _ _ name hname, fun hclient => hclient ▸ hname⟩, hbody⟩
  have hmine {run : List (Turn ι)} (turn) (hturn : turn ∈ run.filter (·.client = i)) : turn ∈ run ∧ turn.client = i :=
    ⟨(List.mem_filter.1 hturn).1, by simpa using (List.mem_filter.1 hturn).2⟩
  obtain ⟨hanswers, hend⟩ := attend_alone (h (names i)) i run (howns run hrun)
  obtain ⟨hanswers', hend'⟩ := attend_alone (h (names i)) i run' (howns run' hrun')
  obtain ⟨hanswers₁, hend₁⟩ := attend_moments (h (names i)) i (hsent i) (fun turn hturn => (hmine turn hturn).2)
    (fun turn hturn => (hmine turn hturn).2) fun turn hturn => by
      obtain ⟨name, hname, hown, hbody⟩ := howns run hrun turn (hmine turn hturn).1
      exact ⟨name, hname, hown.2 (hmine turn hturn).2, hbody⟩
  exact ⟨hanswers.trans (hanswers₁.trans hanswers'.symm), hend.trans (hend₁.trans hend'.symm)⟩

/-- Clients of which no two address the same subsystem are answered the same, and leave the same behind, in
whatever order they come. -/
theorem attend_interleaved (hx : Reached (Rig.equipment config host endpoints) x) :
    (∀ i, answersTo i (attend run x).1 = answersTo i (attend run' x).1) ∧
      (attend run x).2.1 = (attend run' x).2.1 ∧
      ∀ t, (attend run x).2.2.putNow t = (attend run' x).2.2.putNow t := by
  obtain ⟨s, hs, -⟩ := hx.writable
  have hstart (names : List String) : Alike config host endpoints names x x := .refl hs
  have hsame := attend_same_client hboard hapart hrun hsent hstart
  have halike (name : String) : Alike config host endpoints [name] (attend run x).2 (attend run' x).2 := ?_
  · exact ⟨fun i => (hsame i).1, Alike.eq_of_forall fun name _ => halike name⟩
  by_cases hname : ∃ i, name ∈ names i
  · obtain ⟨i, hname⟩ := hname
    exact (hsame i).2.mono (List.cons_subset.2 ⟨hname, List.nil_subset _⟩)
  · have hother (run : List (Turn ι)) (hrun : ∀ turn ∈ run, ∃ name ∈ names turn.client, Addresses name turn.body) :
        Alike config host endpoints [name] (attend run x).2 x :=
      attend_unaddressed (hstart [name]) run fun turn hturn => by
        obtain ⟨name', hname', hbody⟩ := hrun turn hturn
        exact ⟨name', hboard _ hname', fun heq => hname ⟨turn.client, List.mem_singleton.1 heq ▸ hname'⟩, hbody⟩
    exact (hother run hrun).trans (hother run' (addressed_of_sent hrun hsent)).symm

end

/-- Two commands are answered the same, but for the clock, and leave the same behind in either order. -/
def Commute (x : Dispatcher Rig × Rig) (body body' : Bytes) : Prop :=
  ∀ t₁ t₂ t₁' t₂',
    let first := x.1.handle body (x.2.putNow t₁)
    let second := first.2.1.handle body' (first.2.2.putNow t₂)
    let first' := x.1.handle body' (x.2.putNow t₁')
    let second' := first'.2.1.handle body (first'.2.2.putNow t₂')
    first.1.undated = second'.1.undated ∧ second.1.undated = first'.1.undated ∧
      second.2.1 = second'.2.1 ∧ ∀ t, second.2.2.putNow t = second'.2.2.putNow t

theorem commute_of_ne (hx : Reached (Rig.equipment config host endpoints) x) {name' : String}
    (hname : name ∈ Equipment.onBoard) (hname' : name' ∈ Equipment.onBoard) (hne : name ≠ name') {body body' : Bytes}
    (hbody : Addresses name body) (hbody' : Addresses name' body') : Commute x body body' := by
  intro t₁ t₂ t₁' t₂' first second first' second'
  -- two clients, of which each sends one command
  let names (i : Bool) : List String := if i then [name] else [name']
  let run : List (Turn Bool) := [⟨true, t₁, body⟩, ⟨false, t₂, body'⟩]
  let run' : List (Turn Bool) := [⟨false, t₁', body'⟩, ⟨true, t₂', body⟩]
  have hboard (i : Bool) : names i ⊆ Equipment.onBoard := by cases i <;> simp [names, hname, hname']
  have hapart (i j : Bool) : ∀ n ∈ names i, n ∈ names j → i = j := by
    cases i <;> cases j <;> simp [names, hne, hne.symm]
  have hrun : ∀ turn ∈ run, ∃ n ∈ names turn.client, Addresses n turn.body := by
    simp [run, names, hbody, hbody']
  have hsent (i : Bool) : sentBy i run = sentBy i run' := by cases i <;> rfl
  obtain ⟨hanswers, hend⟩ := attend_interleaved hboard hapart hrun hsent hx
  exact ⟨List.head_eq_of_cons_eq (hanswers true), List.head_eq_of_cons_eq (hanswers false), hend⟩

end

end Dispatcher

end DetectorControl
