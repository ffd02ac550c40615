import DetectorControl.Proofs.Autorun.Course
import DetectorControl.Proofs.Autorun.Shutdown
import Mathlib.Data.List.Basic
import Mathlib.Data.List.Induction

/-!
# What the actions of a run say of its state

An action determines the state that it leads to from the state before (`state_visit`), and a tick without a
usable report leads nowhere. So the state of a supervisor can be told from what it did since it was new:
`State.Follows` says how for each state, and `state_of_history` that it is so after every run.
-/

namespace DetectorControl

namespace Autorun

/-- The actions after which the data acquisition records, by permission. -/
inductive Action.Records : Action → Prop
  | resumed : Records .resumed
  | continued (recovered switched : Bool) : Records (.continued recovered switched)

namespace State

/-- The state that an action leads to. -/
def next (state : State) : Action → State
  | .unreachable => state
  | .stayPaused => if state = .suspended then .suspended else .idle
  | .resumed => .active
  | .continued _ _ => .active
  | .suspended => .suspended

/-- What was done, apart from ticks without a report, when a supervisor that was new has come to a state. -/
def Follows : State → List Action → Prop
  | uninitialized, actions => actions = []
  | active, actions => ∃ front last, actions = front ++ [last] ∧ last.Records
  | suspended, actions => ∃ front n, actions = front ++ .suspended :: List.replicate n .stayPaused
  | idle, actions => ∃ front n, actions = front ++ List.replicate (n + 1) .stayPaused ∧
      (front = [] ∨ ∃ earlier last, front = earlier ++ [last] ∧ last.Records)

theorem next_of_records {action : Action} (h : action.Records) (state : State) : state.next action = .active := by
  cases h <;> rfl

theorem next_eq_active_iff {action : Action} (hne : action ≠ .unreachable) (state : State) :
    state.next action = .active ↔ action.Records := by
  refine ⟨fun hnext => ?_, fun h => next_of_records h state⟩
  cases action with
  | unreachable => exact absurd rfl hne
  | stayPaused =>
    simp only [next] at hnext
    split at hnext <;> cases hnext
  | resumed => exact .resumed
  | continued recovered switched => exact .continued recovered switched
  | suspended => cases hnext

theorem foldl_stayPaused {state : State} (h : state.next .stayPaused = state) (n : Nat) :
    (List.replicate n Action.stayPaused).foldl next state = state := by
  induction n with
  | zero => rfl
  | succ n ih => rw [List.replicate_succ, List.foldl_cons, h, ih]

theorem foldl_filter (actions : List Action) (state : State) :
    (actions.filter (· ≠ .unreachable)).foldl next state = actions.foldl next state := by
  induction actions generalizing state with
  | nil => rfl
  | cons action rest ih =>
    by_cases h : action = .unreachable
    · subst h
      exact ih state
    · rw [List.filter_cons_of_pos (by simpa using h), List.foldl_cons, List.foldl_cons, ih]

namespace Follows
variable {state : State} {actions : List Action}

theorem concat (h : state.Follows actions) {action : Action} (hne : action ≠ .unreachable) :
    (state.next action).Follows (actions ++ [action]) := by
  cases action with
  | unreachable => exact absurd rfl hne
  | resumed => exact ⟨actions, _, rfl, .resumed⟩
  | continued recovered switched => exact ⟨actions, _, rfl, .continued recovered switched⟩
  | suspended => exact ⟨actions, 0, rfl⟩
  | stayPaused =>
    cases state with
    | uninitialized =>
      obtain rfl : actions = [] := h
      exact ⟨[], 0, rfl, .inl rfl⟩
    | active => exact ⟨actions, 0, rfl, .inr h⟩
    | idle =>
      obtain ⟨front, n, rfl, hfront⟩ := h
      exact ⟨front, n + 1, by rw [List.append_assoc, ← List.replicate_succ'], hfront⟩
    | suspended =>
      obtain ⟨front, n, rfl⟩ := h
      exact ⟨front, n + 1, by rw [List.append_assoc, List.cons_append, ← List.replicate_succ']⟩

theorem of_foldl (h : .unreachable ∉ actions) : (actions.foldl next .uninitialized).Follows actions := by
  -- the last action tells the state from the state before it
  induction actions using List.reverseRecOn with
  | nil => rfl
  | append_singleton actions action ih =>
    rw [List.mem_append, List.mem_singleton, not_or] at h
    rw [List.foldl_concat]
    exact (ih h.1).concat (Ne.symm h.2)

theorem foldl_eq (h : state.Follows actions) : actions.foldl next .uninitialized = state := by
  cases state with
  | uninitialized =>
    obtain rfl : actions = [] := h
    rfl
  | active =>
    obtain ⟨front, last, rfl, hlast⟩ := h
    rw [List.foldl_concat, next_of_records hlast]
  | suspended =>
    obtain ⟨front, n, rfl⟩ := h
    rw [List.foldl_append, List.foldl_cons]
    exact foldl_stayPaused rfl n
  | idle =>
    obtain ⟨front, n, rfl, hfront⟩ := h
    have hidle : (front.foldl next .uninitialized).next .stayPaused = .idle := by
      rcases hfront with rfl | ⟨earlier, last, rfl, hlast⟩
      · rfl
      · rw [List.foldl_concat, next_of_records hlast]
        rfl
    rw [List.foldl_append, List.replicate_succ, List.foldl_cons, hidle]
    exact foldl_stayPaused rfl n

end Follows

theorem foldl_eq_iff {actions : List Action} {state : State} (h : .unreachable ∉ actions) :
    actions.foldl next .uninitialized = state ↔ state.Follows actions :=
  ⟨fun heq => heq ▸ Follows.of_foldl h, Follows.foldl_eq⟩

end State

end Autorun

namespace Supervisor
open Autorun
variable {W : Type u} {port : Port W}

theorem stayPaused_state (s : Supervisor) : s.stayPaused.state = s.state.next .stayPaused := by
  unfold stayPaused State.next
  split
  · assumption
  · rfl

theorem Act.state_eq {s after : Supervisor} {status : RunStatus} {w world : W} {action : Action}
    {said : List Exchange} (h : Act port s status w action said after world) :
    after.state = s.state.next action ∧ (action.Records ↔ after.permitted = true) := by
  have hpermitted := h.keeps.1
  cases h with
  | stayPaused _ hdenied => exact ⟨stayPaused_state s, iff_of_false nofun (by simp [hpermitted, hdenied])⟩
  | resumed _ hallowed => exact ⟨rfl, iff_of_true .resumed hallowed⟩
  | continued _ hallowed => exact ⟨rfl, iff_of_true (.continued _ _) hallowed⟩
  | suspended _ hdenied => exact ⟨rfl, iff_of_false nofun (by simp [hdenied])⟩

/-- An action leads from state to state, and upon a report it is to record exactly if that is permitted. -/
theorem state_visit (port : Port W) (s : Supervisor) (w : W) :
    (s.visit port w).after.state = s.state.next (s.visit port w).action ∧
      ((s.visit port w).action ≠ .unreachable →
        ((s.visit port w).action.Records ↔ (s.visit port w).after.permitted = true)) := by
  obtain ⟨s₁, asked, w₁, r, w₂, hcheck, -, hcases⟩ := visit_cases port s w
  obtain ⟨-, -, hstate, -⟩ := check_cases hcheck
  rcases hcases with ⟨e, -, hvisit⟩ | ⟨status, action, said, after, world, -, hact, hvisit⟩
  · rw [hvisit]
    exact ⟨hstate, fun hne => absurd rfl hne⟩
  · rw [hvisit]
    obtain ⟨hafter, hrecords⟩ := hact.state_eq
    exact ⟨hstate ▸ hafter, fun _ => hrecords⟩

theorem state_history (port : Port W) (changes : List (W → W)) (s : Supervisor) (w : W) :
    (((history port changes s w).map (·.after)).getLastD s).state =
      ((history port changes s w).map (·.action)).foldl State.next s.state := by
  induction changes generalizing s w with
  | nil => rfl
  | cons change rest ih =>
    rw [history_cons, List.map_cons, List.map_cons, List.getLastD_cons, List.foldl_cons, ih,
      (state_visit port s (change w)).1]

theorem visit_of_mem {changes : List (W → W)} {s : Supervisor} {w : W} {v : Visit W}
    (h : v ∈ history port changes s w) : ∃ (s' : Supervisor) (w' : W), v = s'.visit port w' := by
  obtain ⟨front, rest, hrun⟩ := List.append_of_mem h
  obtain ⟨changes', s', w', hlater⟩ := history_eq_append hrun
  obtain ⟨w'', -, hv, -⟩ := history_eq_cons hlater.symm
  exact ⟨s', w'', hv⟩

/-- The state of a supervisor can be told from what it has done since it was new, apart from the ticks without
a report; and after a tick with a report it is active exactly if a run is permitted. -/
theorem state_of_history {config : Config} {s : Supervisor} (hnew : new config = .ok s) (port : Port W)
    (changes : List (W → W)) (w : W) :
    let visits := history port changes s w
    let actions := (visits.map (·.action)).filter (· ≠ .unreachable)
    (∀ state, ((visits.map (·.after)).getLastD s).state = state ↔ state.Follows actions) ∧
      ∀ v ∈ visits, v.action ≠ .unreachable → (v.after.state = .active ↔ v.after.permitted = true) := by
  intro visits actions
  have huninitialized : s.state = .uninitialized := by
    unfold new at hnew
    split at hnew <;> cases hnew
    rfl
  have hreported : .unreachable ∉ actions := by simp [actions]
  refine ⟨fun state => ?_, fun v hv hne => ?_⟩
  · rw [state_history, huninitialized, ← State.foldl_filter]
    exact State.foldl_eq_iff hreported
  · obtain ⟨s', w', rfl⟩ := visit_of_mem hv
    obtain ⟨hstate, hrecords⟩ := state_visit port s' w'
    rw [hstate, State.next_eq_active_iff hne]
    exact hrecords hne

/-- The sensors cannot be read, and the run is suspended; at the next tick the data acquisition does not
answer, and at the third it is found paused. -/
def silentShutdown : List Reply :=
  [.error "SlowADC read failed", .ok none [("daqStatus", .string "Running")], .done, .done,
    .error "no connection", .error "SlowADC read failed", .ok none [("daqStatus", .string "Paused")]]

theorem state_of_silentShutdown :
    let visits := history Port.script [id, id, id] bench silentShutdown
    new .bench = .ok bench ∧ visits.map (·.action) = [.suspended, .unreachable, .stayPaused] ∧
      ((visits.map (·.after)).getLastD bench).state = .suspended ∧
      State.Follows .suspended ((visits.map (·.action)).filter (· ≠ .unreachable)) := by
  intro visits
  have hnew : new .bench = .ok bench := rfl
  have hactions : visits.map (·.action) = [.suspended, .unreachable, .stayPaused] := by decide +kernel
  have hstate : ((visits.map (·.after)).getLastD bench).state = .suspended := by decide +kernel
  exact ⟨hnew, hactions, hstate, ((state_of_history hnew Port.script [id, id, id] silentShutdown).1 _).1 hstate⟩

end Supervisor

end DetectorControl
