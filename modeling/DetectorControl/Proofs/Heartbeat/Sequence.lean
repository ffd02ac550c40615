import DetectorControl.Hardware.Recorder
import DetectorControl.Heartbeat.Task
import Mathlib.Data.List.Infix

/-!
# The values of a heartbeat

Watched lines keep every value that they are given, whatever comes of it. A step gives them a value only
if it ends a wait of the task by its timeout, and then the next one (`Counted.step_of_timeout`, `Does.quiet`);
so in every schedule the values count on from zero, one for each timeout (`given_of_schedule`). Once the
task has received that it is to stop, or finds itself deserted, it takes no further turn; told to stop, it has
received that after one turn more than the interval was changed (`stop_mem_wakes`).
-/

namespace DetectorControl

variable {W : Type}

/-- The lines, watched: the values stand beside the world, the first one first. -/
def HeartbeatLines.watched (lines : HeartbeatLines W) : HeartbeatLines (W × List Nat) where
  present value := fun (w, given) =>
    match lines.present value w with
    | (presented, w) => (presented, w, given ++ [value])

namespace Heartbeat

/-- A timeout in the task's loop gives the next value, even if it cannot be presented. -/
theorem advance_watched (lines : HeartbeatLines W) {h : Heartbeat} (hlooping : h.looping = true) (w : W × List Nat) :
    (h.advance lines.watched w).1.value = (h.value + 1) % modulus ∧
      (h.advance lines.watched w).2.2 = w.2 ++ [(h.value + 1) % modulus] := by
  obtain ⟨w, given⟩ := w
  obtain ⟨⟨presented, w'⟩, hpresent⟩ : ∃ after, lines.present ((h.value + 1) % modulus) w = after := ⟨_, rfl⟩
  unfold advance HeartbeatLines.watched
  rw [if_pos hlooping]
  simp only [bind, StateT.bind, hpresent]
  cases presented <;> exact ⟨rfl, rfl⟩

/-- A timeout in the task's loop changes the value; if presenting it breaks the task off, it leaves its loop. -/
theorem advance_cases (lines : HeartbeatLines W) {h : Heartbeat} (hlooping : h.looping = true) (w : W) :
    ∃ looping, (h.advance lines w).1 = { h with value := (h.value + 1) % modulus, looping } ∧
      (looping = false → ∃ value, (lines.present value w).1 = .crashed) := by
  obtain ⟨⟨presented, w'⟩, hpresent⟩ : ∃ after, lines.present ((h.value + 1) % modulus) w = after := ⟨_, rfl⟩
  unfold advance
  rw [if_pos hlooping]
  simp only [bind, StateT.bind, hpresent]
  cases presented with
  | crashed => exact ⟨false, rfl, fun _ => ⟨_, by rw [hpresent]⟩⟩
  | done | failed => exact ⟨h.looping, rfl, fun hleft => absurd (hlooping.symm.trans hleft) nofun⟩

/-- The task was started, and has left its loop. -/
structure Over (h : Heartbeat) : Prop where
  pending : h.pending = false
  looping : h.looping = false

end Heartbeat

/-- After such a wait the task ends. -/
inductive Wake.Last : Wake → Prop
  | stop : Last (.message .stop)
  | deserted : Last .deserted

namespace HeartbeatTask
variable {lines : HeartbeatLines W} {t t' : HeartbeatTask W} {s : Step}

/-! ## Turns and messages -/

theorem send_of_reached {m : HeartbeatMessage} (h : t.heartbeat.pending = true ∨ t.heartbeat.looping = true) :
    t.send m = { t with inbox := t.inbox ++ [m] } :=
  if_pos (Bool.or_eq_true_iff.2 h)

theorem send_of_over {m : HeartbeatMessage} (h : t.heartbeat.Over) : t.send m = t :=
  if_neg (by rw [h.pending, h.looping]; decide)

theorem heartbeat_send (m : HeartbeatMessage) (t : HeartbeatTask W) : (t.send m).heartbeat = t.heartbeat := by
  unfold send
  split <;> rfl

theorem world_send (m : HeartbeatMessage) (t : HeartbeatTask W) : (t.send m).world = t.world := by
  unfold send
  split <;> rfl

theorem prefix_inbox_send (m : HeartbeatMessage) (t : HeartbeatTask W) : t.inbox <+: (t.send m).inbox := by
  unfold send
  split
  · exact List.prefix_append ..
  · exact List.prefix_refl _

theorem length_inbox_send (m : HeartbeatMessage) (t : HeartbeatTask W) :
    (t.send m).inbox.length ≤ t.inbox.length + 1 := by
  unfold send
  split
  · exact Nat.le_of_eq List.length_append
  · exact Nat.le_succ _

theorem tellToStop_of_handle (h : t.heartbeat.handle = true) :
    t.tellToStop = send .stop { t with heartbeat.handle := false } := if_pos h

theorem turn_of_not_looping (h : ¬ t.heartbeat.looping = true) : t.turn lines = t := if_neg h

theorem turn_of_timeout (hlooping : t.heartbeat.looping = true) (h : t.wake = .timeout) :
    t.turn lines = { t with heartbeat := (t.heartbeat.advance lines t.world).1
                            world := (t.heartbeat.advance lines t.world).2 } := by
  unfold turn
  rw [if_pos hlooping, h]
  rfl

theorem turn_of_reload (hlooping : t.heartbeat.looping = true) (h : t.wake = .message .reload) :
    t.turn lines = { t with inbox := t.inbox.tail } := by
  unfold turn
  rw [if_pos hlooping, h]

theorem turn_of_last (hlooping : t.heartbeat.looping = true) (h : t.wake.Last) :
    t.turn lines = { t with heartbeat.looping := false, inbox := [] } := by
  unfold turn
  rw [if_pos hlooping]
  generalize t.wake = wake at h ⊢
  cases h <;> rfl

/-! ## What a step can do -/

/-- A step, and the task after it. -/
inductive Does (lines : HeartbeatLines W) (t : HeartbeatTask W) : Step → HeartbeatTask W → Prop
  /-- A change that is refused, a start or a stop that finds nothing to be done, a turn without a task. -/
  | nothing (s : Step) : Does lines t s t
  | changed (seconds : Float) (nanos : Nat) :
    Does lines t (.setInterval seconds) (send .reload { t with heartbeat.interval := nanos })
  | started (hpending : t.heartbeat.pending = true) :
    Does lines t .start { t with heartbeat := { t.heartbeat with pending := false, handle := true, looping := true } }
  | told (hhandle : t.heartbeat.handle = true) :
    Does lines t .tellToStop (send .stop { t with heartbeat.handle := false })
  | left : Does lines t .desert { t with attended := false }
  | timeout (hlooping : t.heartbeat.looping = true) (hwake : t.wake = .timeout) :
    Does lines t .turn { t with heartbeat := (t.heartbeat.advance lines t.world).1
                                world := (t.heartbeat.advance lines t.world).2 }
  | reload (hlooping : t.heartbeat.looping = true) (hwake : t.wake = .message .reload) :
    Does lines t .turn { t with inbox := t.inbox.tail }
  | last (hlooping : t.heartbeat.looping = true) (hwake : t.wake.Last) :
    Does lines t .turn { t with heartbeat.looping := false, inbox := [] }

theorem step_does (lines : HeartbeatLines W) (t : HeartbeatTask W) (s : Step) : Does lines t s (t.step lines s) := by
  cases s with
  | setInterval seconds =>
    unfold step setInterval Heartbeat.setInterval
    dsimp only
    cases Heartbeat.checkInterval seconds with
    | error e => exact .nothing _
    | ok nanos => exact .changed seconds nanos
  | start =>
    show Does lines t .start t.start
    unfold start Heartbeat.start
    split
    · exact .started ‹_›
    · exact .nothing _
  | tellToStop =>
    show Does lines t .tellToStop t.tellToStop
    unfold tellToStop
    split
    · exact .told ‹_›
    · exact .nothing _
  | desert => exact .left
  | turn =>
    show Does lines t .turn (t.turn lines)
    by_cases hlooping : t.heartbeat.looping = true
    · match hwake : t.wake with
      | .timeout => exact turn_of_timeout hlooping hwake ▸ .timeout hlooping hwake
      | .message .reload => exact turn_of_reload hlooping hwake ▸ .reload hlooping hwake
      | .message .stop =>
        have hlast : t.wake.Last := hwake ▸ .stop
        exact turn_of_last hlooping hlast ▸ .last hlooping hlast
      | .deserted =>
        have hlast : t.wake.Last := hwake ▸ .deserted
        exact turn_of_last hlooping hlast ▸ .last hlooping hlast
    · rw [turn_of_not_looping hlooping]
      exact .nothing _

/-! ## Waits -/

/-- What a step ends a wait of the task with. -/
def woken (t : HeartbeatTask W) : Step → Option Wake
  | .turn => if t.heartbeat.looping then some t.wake else none
  | _ => none

/-- What the waits of the task end with, one after the other. -/
def wakes (lines : HeartbeatLines W) (t : HeartbeatTask W) : List Step → List Wake
  | [] => []
  | s :: rest => (t.woken s).toList ++ wakes lines (t.step lines s) rest

theorem woken_eq_some_iff {wake : Wake} :
    t.woken s = some wake ↔ s = .turn ∧ t.heartbeat.looping = true ∧ t.wake = wake := by
  cases s <;> simp [woken]

theorem run_append (steps more : List Step) : t.run lines (steps ++ more) = (t.run lines steps).run lines more :=
  List.foldl_append ..

theorem wakes_append (steps more : List Step) :
    t.wakes lines (steps ++ more) = t.wakes lines steps ++ (t.run lines steps).wakes lines more := by
  induction steps generalizing t with
  | nil => rfl
  | cons s rest ih => exact (congrArg _ ih).trans (List.append_assoc ..).symm

/-- A step that ends no wait by its timeout presents nothing. -/
theorem Does.quiet (h : Does lines t s t') (hquiet : t.woken s ≠ some .timeout) :
    t'.heartbeat.value = t.heartbeat.value ∧ t'.world = t.world := by
  cases h with
  | nothing | started | left | reload | last => exact ⟨rfl, rfl⟩
  | changed | told =>
    rw [heartbeat_send, world_send]
    exact ⟨rfl, rfl⟩
  | timeout hlooping hwake => exact absurd (woken_eq_some_iff.2 ⟨rfl, hlooping, hwake⟩) hquiet

/-! ## What the owner holds -/

def Step.isChange : Step → Bool
  | .setInterval _ => true
  | _ => false

def Step.isTurn : Step → Bool
  | .turn => true
  | _ => false

theorem Step.isTurn_iff : s.isTurn = true ↔ s = .turn := by
  cases s <;> simp [isTurn]

/-- The owner holds what a task is started with, or the task, or neither. Until the task is told to stop,
nothing but the changes of the interval was put into its inbox. -/
structure Owned (changes : Nat) (t : HeartbeatTask W) : Prop where
  pending : t.heartbeat.pending = true → t.heartbeat.handle = false ∧ t.heartbeat.looping = false
  inbox : t.heartbeat.pending = true ∨ t.heartbeat.handle = true → t.inbox.length ≤ changes

namespace Owned
variable {n : Nat}

theorem not_pending (h : Owned n t) (hheld : t.heartbeat.handle = true ∨ t.heartbeat.looping = true) :
    t.heartbeat.pending = false := by
  rw [← Bool.not_eq_true]
  intro hpending
  obtain ⟨hhandle, hlooping⟩ := h.pending hpending
  rw [hhandle, hlooping] at hheld
  cases hheld <;> contradiction

theorem does (h : Owned n t) (hdoes : Does lines t s t') : Owned (n + if s.isChange then 1 else 0) t' := by
  cases hdoes with
  | nothing s => exact ⟨h.pending, fun hheld => Nat.le_add_right_of_le (h.inbox hheld)⟩
  | changed seconds nanos =>
    constructor
    · rw [heartbeat_send]
      exact h.pending
    · rw [heartbeat_send]
      exact fun hheld => Nat.le_trans (length_inbox_send ..) (Nat.succ_le_succ (h.inbox hheld))
  | started hpending => exact ⟨nofun, fun _ => h.inbox (.inl hpending)⟩
  | told hhandle =>
    have hpending := h.not_pending (.inl hhandle)
    constructor
    · rw [heartbeat_send]
      exact fun hstill => absurd (hpending.symm.trans hstill) nofun
    · rw [heartbeat_send]
      exact fun hheld => absurd (hpending.symm.trans (hheld.resolve_right nofun)) nofun
  | left => exact ⟨h.pending, h.inbox⟩
  | timeout hlooping =>
    obtain ⟨looping, hadvance, -⟩ := Heartbeat.advance_cases lines hlooping t.world
    have hpending := h.not_pending (.inr hlooping)
    rw [hadvance]
    exact ⟨fun hstill => absurd (hpending.symm.trans hstill) nofun, h.inbox⟩
  | reload => exact ⟨h.pending, fun hheld => Nat.le_trans (List.tail_sublist _).length_le (h.inbox hheld)⟩
  | last => exact ⟨fun hpending => ⟨(h.pending hpending).1, rfl⟩, fun _ => Nat.zero_le n⟩

theorem step (h : Owned n t) (s : Step) : Owned (n + if s.isChange then 1 else 0) (t.step lines s) :=
  h.does (step_does lines t s)

theorem run (h : Owned n t) (steps : List Step) :
    Owned (n + steps.countP Step.isChange) (t.run lines steps) := by
  induction steps generalizing n t with
  | nil => exact h
  | cons s rest ih =>
    rw [List.countP_cons, Nat.add_comm (rest.countP _), ← Nat.add_assoc]
    exact ih (h.step s)

end Owned

/-! ## The end of the task -/

theorem over_of_does (h : t.heartbeat.Over) (hdoes : Does lines t s t') : t'.heartbeat.Over := by
  have hnot : ¬ t.heartbeat.looping = true := by
    rw [h.looping]
    decide
  cases hdoes with
  | nothing | left => exact h
  | changed | told =>
    rw [heartbeat_send]
    exact ⟨h.pending, h.looping⟩
  | started hpending => exact absurd (h.pending.symm.trans hpending) nofun
  | timeout hlooping | reload hlooping | last hlooping => exact absurd hlooping hnot

theorem over_step (lines : HeartbeatLines W) (h : t.heartbeat.Over) (s : Step) : (t.step lines s).heartbeat.Over :=
  over_of_does h (step_does lines t s)

theorem over_step_of_last {n : Nat} {wake : Wake} (howned : Owned n t) (h : t.woken s = some wake) (hlast : wake.Last) :
    (t.step lines s).heartbeat.Over := by
  obtain ⟨rfl, hlooping, rfl⟩ := woken_eq_some_iff.1 h
  show (t.turn lines).heartbeat.Over
  rw [turn_of_last hlooping hlast]
  exact ⟨howned.not_pending (.inr hlooping), rfl⟩

/-- What has ended stays so, and presents nothing. -/
theorem run_of_over (lines : HeartbeatLines W) (steps : List Step) (h : t.heartbeat.Over) :
    (t.run lines steps).heartbeat.Over ∧ (t.run lines steps).world = t.world := by
  induction steps generalizing t with
  | nil => exact ⟨h, rfl⟩
  | cons s rest ih =>
    have hquiet : t.woken s ≠ some .timeout := by
      intro htimeout
      obtain ⟨-, hlooping, -⟩ := woken_eq_some_iff.1 htimeout
      rw [h.looping] at hlooping
      cases hlooping
    obtain ⟨hover, hworld⟩ := ih (over_step lines h s)
    exact ⟨hover, hworld.trans ((step_does lines t s).quiet hquiet).2⟩

theorem over_of_last {n : Nat} {steps : List Step} {wake : Wake} (howned : Owned n t) (h : wake ∈ t.wakes lines steps)
    (hlast : wake.Last) : (t.run lines steps).heartbeat.Over := by
  induction steps generalizing n t with
  | nil => cases h
  | cons s rest ih =>
    rcases List.mem_append.1 h with hhere | hlater
    · exact (run_of_over lines rest (over_step_of_last howned (Option.mem_toList.1 hhere) hlast)).1
    · exact ih (howned.step s) hlater

/-- What is no turn leaves the task in its loop, and puts messages behind those that are there. -/
theorem Does.kept (h : Does lines t s t') (hs : s.isTurn = false) (hlooping : t.heartbeat.looping = true) :
    t'.heartbeat.looping = true ∧ t.inbox <+: t'.inbox := by
  cases h with
  | nothing | left => exact ⟨hlooping, List.prefix_refl _⟩
  | changed seconds nanos =>
    rw [heartbeat_send]
    exact ⟨hlooping, prefix_inbox_send .reload { t with heartbeat.interval := nanos }⟩
  | started => exact ⟨rfl, List.prefix_refl _⟩
  | told =>
    rw [heartbeat_send]
    exact ⟨hlooping, prefix_inbox_send .stop { t with heartbeat.handle := false }⟩
  | timeout | reload | last => cases hs

/-- Messages are received in order, one in each turn. -/
theorem stop_mem_wakes {steps : List Step} (hlooping : t.heartbeat.looping = true)
    (h : .stop ∈ t.inbox.take (steps.countP Step.isTurn)) : .message .stop ∈ t.wakes lines steps := by
  induction steps generalizing t with
  | nil => cases h
  | cons s rest ih =>
    by_cases hs : s.isTurn = true
    · obtain rfl := Step.isTurn_iff.1 hs
      rw [List.countP_cons_of_pos hs] at h
      match hinbox : t.inbox with
      | [] =>
        rw [hinbox] at h
        cases h
      | .stop :: behind =>
        refine List.mem_append_left _ (Option.mem_toList.2 (woken_eq_some_iff.2 ⟨rfl, hlooping, ?_⟩))
        rw [wake, hinbox]
      | .reload :: behind =>
        have hwake : t.wake = .message .reload := by rw [wake, hinbox]
        refine List.mem_append_right _ ?_
        show _ ∈ (t.turn lines).wakes lines rest
        rw [hinbox] at h
        rw [turn_of_reload hlooping hwake, hinbox]
        exact ih hlooping ((List.mem_cons.1 h).resolve_left nofun)
    · have hs' : s.isTurn = false := Bool.not_eq_true _ ▸ hs
      obtain ⟨hlooping', hfront⟩ := (step_does lines t s).kept hs' hlooping
      rw [List.countP_cons_of_neg hs] at h
      exact List.mem_append_right _ (ih hlooping' ((hfront.take _).subset h))

/-- Told to stop, a task in its loop has received it after a turn for each message and one more. -/
theorem stop_mem_wakes_of_told {steps : List Step} (hhandle : t.heartbeat.handle = true)
    (hlooping : t.heartbeat.looping = true) (h : t.inbox.length < steps.countP Step.isTurn) :
    .message .stop ∈ t.wakes lines (.tellToStop :: steps) := by
  have htold : t.step lines .tellToStop = _ := tellToStop_of_handle hhandle
  have hsent := send_of_reached (m := .stop) (t := { t with heartbeat.handle := false }) (.inr hlooping)
  refine List.mem_append_right _ (stop_mem_wakes ?_ ?_)
  · rw [htold, hsent]
    exact hlooping
  · rw [htold, hsent, List.take_of_length_le (by rw [List.length_append]; exact h)]
    exact List.mem_append_right _ List.mem_cons_self

/-! ## The values -/

/-- The values that watched lines were given. -/
def given (t : HeartbeatTask (W × List Nat)) : List Nat := t.world.2

/-- The values up to the `n`-th after the first, which is the one that shows. -/
structure Counted (n : Nat) (t : HeartbeatTask (W × List Nat)) : Prop where
  given : t.given = (List.range (n + 1)).map (· % 4)
  value : t.heartbeat.value = n % 4

namespace Counted
variable {n : Nat} {t : HeartbeatTask (W × List Nat)}

theorem step_of_timeout (h : Counted n t) (htimeout : t.woken s = some .timeout) :
    Counted (n + 1) (t.step lines.watched s) := by
  obtain ⟨rfl, hlooping, hwake⟩ := woken_eq_some_iff.1 htimeout
  obtain ⟨hvalue, hgiven⟩ := Heartbeat.advance_watched lines hlooping t.world
  have hturn : t.step lines.watched .turn = _ := turn_of_timeout hlooping hwake
  have hnext : (t.heartbeat.value + 1) % Heartbeat.modulus = (n + 1) % 4 := by
    rw [h.value, Heartbeat.modulus]
    omega
  rw [hturn]
  refine ⟨?_, hvalue.trans hnext⟩
  show (t.heartbeat.advance lines.watched t.world).2.2 = _
  have hbefore : t.world.2 = _ := h.given
  rw [hgiven, hnext, hbefore, List.range_succ (n := n + 1), List.map_append]
  rfl

theorem step_of_quiet (h : Counted n t) (hquiet : t.woken s ≠ some .timeout) : Counted n (t.step lines.watched s) := by
  obtain ⟨hvalue, hworld⟩ := (step_does lines.watched t s).quiet hquiet
  exact ⟨(congrArg Prod.snd hworld).trans h.given, hvalue.trans h.value⟩

theorem run (h : Counted n t) (steps : List Step) :
    Counted (n + (t.wakes lines.watched steps).count .timeout) (t.run lines.watched steps) := by
  -- the number of the last value goes along with the state
  induction steps generalizing n t with
  | nil => exact h
  | cons s rest ih =>
    have hcount : (t.wakes lines.watched (s :: rest)).count .timeout =
        (t.woken s).toList.count .timeout + ((t.step lines.watched s).wakes lines.watched rest).count .timeout :=
      List.count_append ..
    rw [hcount, ← Nat.add_assoc]
    refine ih ?_
    by_cases htimeout : t.woken s = some .timeout
    · rw [htimeout]
      exact h.step_of_timeout htimeout
    · have hnone : (t.woken s).toList.count .timeout = 0 := by
        rw [List.count_eq_zero, Option.mem_toList]
        exact htimeout
      rw [hnone]
      exact h.step_of_quiet htimeout

end Counted

/-- A heartbeat on watched lines, made with an interval. -/
def begun (lines : HeartbeatLines W) (interval : Nat) (w : W) : HeartbeatTask (W × List Nat) :=
  { init lines.watched (w, []) with heartbeat.interval := interval }

theorem counted_begun (lines : HeartbeatLines W) (interval : Nat) (w : W) : Counted 0 (begun lines interval w) := by
  have hgiven : (begun lines interval w).given = [0] := rfl
  exact ⟨hgiven, rfl⟩

theorem owned_begun (lines : HeartbeatLines W) (interval : Nat) (w : W) : Owned 0 (begun lines interval w) :=
  ⟨fun _ => ⟨rfl, rfl⟩, fun _ => Nat.le_refl 0⟩

theorem given_run_append (steps more : List Step) {t : HeartbeatTask (W × List Nat)}
    (h : (t.run lines.watched steps).heartbeat.Over) :
    (t.run lines.watched (steps ++ more)).given = (t.run lines.watched steps).given := by
  rw [run_append]
  exact congrArg Prod.snd (run_of_over lines.watched more h).2

/-- In every schedule the values that the lines are given are `0, 1, 2, 3, 0, …`: one when the heartbeat is made
and one for each timeout, whether or not it can be presented, and none for anything else. The value that can
be read is the one that was given last. Once the task has received that it is to stop, or finds itself deserted,
the lines are given no further value. A task that is told to stop has received it after more turns than there
were changes of the interval before, unless it has left its loop already; either way no further value is given. -/
theorem given_of_schedule (lines : HeartbeatLines W) (interval : Nat) (w : W) (steps : List Step) :
    let begin := begun lines interval w
    let after := begin.run lines.watched steps
    let waits := begin.wakes lines.watched steps
    after.given = (List.range (1 + waits.count .timeout)).map (· % 4) ∧
      after.given.getLast? = some after.heartbeat.value ∧
      ((.message .stop ∈ waits ∨ .deserted ∈ waits) →
        ∀ more, (begin.run lines.watched (steps ++ more)).given = after.given) ∧
      ∀ front back, steps = front ++ .tellToStop :: back →
        (begin.run lines.watched front).heartbeat.isRunning = true →
        front.countP Step.isChange < back.countP Step.isTurn →
          ((begin.run lines.watched front).heartbeat.looping = true → .message .stop ∈ waits) ∧
            ∀ more, (begin.run lines.watched (steps ++ more)).given = after.given := by
  dsimp only
  obtain ⟨hgiven, hvalue⟩ := (counted_begun lines interval w).run steps
  rw [Nat.zero_add] at hgiven hvalue
  have howned := owned_begun lines interval w
  refine ⟨by rw [hgiven, Nat.add_comm], ?_, fun hend more => given_run_append steps more ?_,
    fun front back hsteps hrunning hturns => ?_⟩
  · rw [hgiven, hvalue, List.range_succ, List.map_append]
    exact List.getLast?_concat
  · rcases hend with hstop | hdeserted
    · exact over_of_last howned hstop .stop
    · exact over_of_last howned hdeserted .deserted
  · have htold : Owned _ ((begun lines interval w).run lines.watched front) := howned.run front
    have hinbox := htold.inbox (.inr hrunning)
    rw [Nat.zero_add] at hinbox
    have hreceived (hlooping : ((begun lines interval w).run lines.watched front).heartbeat.looping = true) :
        .message .stop ∈ (begun lines interval w).wakes lines.watched steps := by
      rw [hsteps, wakes_append]
      exact List.mem_append_right _ (stop_mem_wakes_of_told hrunning hlooping (Nat.lt_of_le_of_lt hinbox hturns))
    refine ⟨hreceived, fun more => given_run_append steps more ?_⟩
    by_cases hlooping : ((begun lines interval w).run lines.watched front).heartbeat.looping = true
    · exact over_of_last howned (hreceived hlooping) .stop
    · rw [hsteps, run_append]
      exact (run_of_over _ _ ⟨htold.not_pending (.inl hrunning), Bool.not_eq_true _ ▸ hlooping⟩).1

/-- Lines that fail are given the values all the same, and a message that wakes the task gives none. -/
example :
    ((begun HeartbeatRecord.lines 1 { failing := true }).run HeartbeatRecord.lines.watched
      [.start, .turn, .setInterval 2, .turn, .turn, .tellToStop, .turn, .turn]).given = [0, 1, 2] := by decide +kernel

end HeartbeatTask

end DetectorControl
