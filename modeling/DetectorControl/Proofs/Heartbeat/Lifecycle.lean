import DetectorControl.Proofs.Heartbeat.Sequence

/-!
# Starting and stopping a heartbeat

The owner starts and stops the task in any order, while others change the interval and the task takes its
turns. What the owner holds is used up by the first start and by the stop behind it, so that it can only be
found in three ways (`Stage`): it holds what a task is started with, or the task, or nothing. The task runs from
the first start to the stop that follows, and meanwhile every timeout advances the counter; a start behind
that is accepted and begins nothing (`running_of_calls`).
-/

namespace DetectorControl

variable {W : Type}

namespace Heartbeat

inductive Call where
  | start
  | stop
  deriving DecidableEq, Repr

/-- A start, and a stop behind it. -/
def Ended (calls : List Call) : Prop := [Call.start, .stop].Sublist calls

instance (calls : List Call) : Decidable (Ended calls) :=
  inferInstanceAs (Decidable ([Call.start, .stop].Sublist calls))

/-- The calls so far, by what the owner holds. A stop before the first start counts for nothing. -/
inductive Stage (calls : List Call) (h : Heartbeat) : Prop
  | unstarted (hcalls : .start ∉ calls) (hpending : h.pending = true) (hhandle : h.handle = false)
    (hlooping : h.looping = false)
  /-- Between the calls the task may break off. -/
  | started (hlast : calls.getLast? = some .start) (hnot : ¬ Ended calls) (hpending : h.pending = false)
    (hhandle : h.handle = true)
  | stopped (hended : Ended calls) (hpending : h.pending = false) (hhandle : h.handle = false)
    (hlooping : h.looping = false)

theorem ended_concat_iff {calls : List Call} {c : Call} :
    Ended (calls ++ [c]) ↔ Ended calls ∨ c = .stop ∧ .start ∈ calls := by
  constructor
  · intro h
    obtain ⟨front, last, heq, hfront, hlast⟩ := List.sublist_append_iff.1 h
    rcases List.sublist_singleton.1 hlast with rfl | rfl
    · rw [List.append_nil] at heq
      rw [← heq] at hfront
      exact .inl hfront
    · obtain ⟨rfl, hc⟩ : [Call.start] = front ∧ [Call.stop] = [c] := List.append_inj' heq rfl
      exact .inr ⟨(List.cons.inj hc).1.symm, List.singleton_sublist.1 hfront⟩
  · rintro (h | ⟨rfl, hstarted⟩)
    · exact h.trans (List.sublist_append_left ..)
    · exact (List.singleton_sublist.2 hstarted).append (List.Sublist.refl [Call.stop])

theorem Ended.start_mem {calls : List Call} (h : Ended calls) : .start ∈ calls := h.subset List.mem_cons_self

namespace Stage
variable {calls : List Call} {h h' : Heartbeat}

theorem start (hstage : Stage calls h) : Stage (calls ++ [.start]) h.start := by
  have hlast : (calls ++ [Call.start]).getLast? = some .start := List.getLast?_concat
  have hkept : ¬ Ended calls → ¬ Ended (calls ++ [.start]) := by
    intro hnot hended
    rcases ended_concat_iff.1 hended with hended | ⟨hstop, -⟩
    · exact hnot hended
    · cases hstop
  unfold Heartbeat.start
  cases hstage with
  | unstarted hcalls hpending hhandle hlooping =>
    rw [if_pos hpending]
    exact .started hlast (hkept fun hended => hcalls hended.start_mem) rfl rfl
  | started _ hnot hpending hhandle =>
    rw [if_neg (by rw [hpending]; decide)]
    exact .started hlast (hkept hnot) hpending hhandle
  | stopped hended hpending hhandle hlooping =>
    rw [if_neg (by rw [hpending]; decide)]
    exact .stopped (ended_concat_iff.2 (.inl hended)) hpending hhandle hlooping

theorem stop (hstage : Stage calls h) : Stage (calls ++ [.stop]) h.stop := by
  unfold Heartbeat.stop
  cases hstage with
  | unstarted hcalls hpending hhandle hlooping =>
    rw [if_neg (by rw [hhandle]; decide)]
    refine .unstarted (fun hstart => ?_) hpending hhandle hlooping
    rcases List.mem_append.1 hstart with hstart | hstart
    · exact hcalls hstart
    · cases List.mem_singleton.1 hstart
  | started hlast _ hpending hhandle =>
    rw [if_pos hhandle]
    exact .stopped (ended_concat_iff.2 (.inr ⟨rfl, List.mem_of_getLast? hlast⟩)) hpending rfl rfl
  | stopped hended hpending hhandle hlooping =>
    rw [if_neg (by rw [hhandle]; decide)]
    exact .stopped (ended_concat_iff.2 (.inl hended)) hpending hhandle hlooping

/-- The task's own doings touch nothing that the owner holds, and do not put it back into its loop. -/
theorem congr (hstage : Stage calls h) (hpending : h'.pending = h.pending) (hhandle : h'.handle = h.handle)
    (hlooping : h.looping = false → h'.looping = false) : Stage calls h' := by
  cases hstage with
  | unstarted hcalls hp hh hl => exact .unstarted hcalls (hpending.trans hp) (hhandle.trans hh) (hlooping hl)
  | started hlast hnot hp hh => exact .started hlast hnot (hpending.trans hp) (hhandle.trans hh)
  | stopped hended hp hh hl => exact .stopped hended (hpending.trans hp) (hhandle.trans hh) (hlooping hl)

theorem handle_of_looping (hstage : Stage calls h) (hlooping : h.looping = true) : h.handle = true := by
  cases hstage with
  | unstarted _ _ _ hnot => exact absurd (hlooping.symm.trans hnot) nofun
  | started _ _ _ hhandle => exact hhandle
  | stopped _ _ _ hnot => exact absurd (hlooping.symm.trans hnot) nofun

theorem not_pending_of_handle (hstage : Stage calls h) (hhandle : h.handle = true) : h.pending = false := by
  cases hstage with
  | unstarted _ _ hnot => exact absurd (hhandle.symm.trans hnot) nofun
  | started _ _ hpending => exact hpending
  | stopped _ hpending => exact hpending

theorem over_of_ended (hstage : Stage calls h) (hended : Ended calls) : h.Over := by
  cases hstage with
  | unstarted hcalls => exact absurd hended.start_mem hcalls
  | started _ hnot => exact absurd hended hnot
  | stopped _ hpending _ hlooping => exact ⟨hpending, hlooping⟩

/-- What a task is started with is there until the first start. -/
theorem pending_iff (hstage : Stage calls h) : h.pending = true ↔ .start ∉ calls := by
  cases hstage with
  | unstarted hcalls hpending => exact iff_of_true hpending hcalls
  | started hlast _ hpending =>
    exact iff_of_false (by rw [hpending]; decide) (not_not_intro (List.mem_of_getLast? hlast))
  | stopped hended hpending =>
    exact iff_of_false (by rw [hpending]; decide) (not_not_intro hended.start_mem)

theorem isRunning_iff (hstage : Stage calls h) :
    h.isRunning = true ↔ calls.getLast? = some .start ∧ ¬ Ended calls := by
  unfold isRunning
  cases hstage with
  | unstarted hcalls _ hhandle =>
    exact iff_of_false (by rw [hhandle]; decide) fun hlast => hcalls (List.mem_of_getLast? hlast.1)
  | started hlast hnot _ hhandle => exact iff_of_true hhandle ⟨hlast, hnot⟩
  | stopped hended _ hhandle => exact iff_of_false (by rw [hhandle]; decide) fun hlast => hlast.2 hended

end Stage

end Heartbeat

namespace HeartbeatTask
open Heartbeat (Call Stage Ended)

variable {lines : HeartbeatLines W} {t : HeartbeatTask W}

theorem attended_send (m : HeartbeatMessage) (t : HeartbeatTask W) : (t.send m).attended = t.attended := by
  unfold send
  split <;> rfl

theorem mem_inbox_send {m m' : HeartbeatMessage} (h : m' ∈ (t.send m).inbox) : m' ∈ t.inbox ∨ m' = m := by
  unfold send at h
  split at h
  · exact (List.mem_append.1 h).imp_right List.mem_singleton.1
  · exact .inl h

/-! ## Many turns -/

theorem turns_of_not_looping (h : ¬ t.heartbeat.looping = true) (k : Nat) : t.turns lines k = t := by
  induction k with
  | zero => rfl
  | succ k ih =>
    show (t.turn lines).turns lines k = t
    rw [turn_of_not_looping h, ih]

theorem turns_succ (k : Nat) (t : HeartbeatTask W) : t.turns lines (k + 1) = (t.turns lines k).turn lines := by
  induction k generalizing t with
  | zero => rfl
  | succ k ih => exact ih (t.turn lines)

/-- The task receives one message in each turn, and what comes behind the order to stop is lost. -/
theorem turns_of_stop_mem (hlooping : t.heartbeat.looping = true) (h : .stop ∈ t.inbox) :
    t.turns lines t.inbox.length = { t with heartbeat.looping := false, inbox := [] } := by
  obtain ⟨heartbeat, inbox, attended, world⟩ := t
  dsimp only at hlooping h ⊢
  -- a changed interval is received in one turn, and behind the stop the turns that are left do nothing
  induction inbox with
  | nil => cases h
  | cons m rest ih =>
    show ((HeartbeatTask.mk heartbeat (m :: rest) attended world).turn lines).turns lines rest.length = _
    cases m with
    | reload =>
      rw [turn_of_reload hlooping rfl]
      exact ih ((List.mem_cons.1 h).resolve_left nofun)
    | stop =>
      have hend : (HeartbeatTask.mk heartbeat (.stop :: rest) attended world).wake.Last := .stop
      rw [turn_of_last hlooping hend]
      exact turns_of_not_looping Bool.false_ne_true _

theorem turns_of_reloads (hlooping : t.heartbeat.looping = true) (h : ∀ m ∈ t.inbox, m = .reload) :
    t.turns lines t.inbox.length = { t with inbox := [] } := by
  obtain ⟨heartbeat, inbox, attended, world⟩ := t
  dsimp only at hlooping h ⊢
  induction inbox with
  | nil => rfl
  | cons m rest ih =>
    obtain rfl := h m List.mem_cons_self
    show ((HeartbeatTask.mk heartbeat (.reload :: rest) attended world).turn lines).turns lines rest.length = _
    rw [turn_of_reload hlooping rfl]
    exact ih fun m hm => h m (List.mem_cons_of_mem _ hm)

/-- What stopping comes to: the task has ended, and presented nothing more. -/
theorem stop_eq {calls : List Call} (hstage : Stage calls t.heartbeat) :
    t.stop lines =
      { t with heartbeat := t.heartbeat.stop, inbox := if t.heartbeat.looping then [] else t.inbox } := by
  unfold stop Heartbeat.stop
  by_cases hhandle : t.heartbeat.handle = true
  · rw [if_pos hhandle, if_pos hhandle, tellToStop_of_handle hhandle]
    by_cases hlooping : t.heartbeat.looping = true
    · rw [if_pos hlooping, send_of_reached (t := { t with heartbeat.handle := false }) (.inr hlooping)]
      exact turns_of_stop_mem hlooping (List.mem_append_right _ List.mem_cons_self)
    · have hleft : t.heartbeat.looping = false := Bool.not_eq_true _ ▸ hlooping
      rw [if_neg hlooping, send_of_over (t := { t with heartbeat.handle := false })
        ⟨hstage.not_pending_of_handle hhandle, hleft⟩]
      refine (turns_of_not_looping (t := { t with heartbeat.handle := false }) hlooping _).trans ?_
      simp only [hleft]
  · have hlooping : ¬ t.heartbeat.looping = true := fun hlooping => hhandle (hstage.handle_of_looping hlooping)
    rw [if_neg hhandle, if_neg hhandle, if_neg hlooping]

/-! ## Calls -/

/-- The owner calls, and waits until the call returns; others change the interval; the task takes a turn. -/
inductive Event where
  | call (c : Call)
  | setInterval (seconds : Float)
  | turn

def happen (lines : HeartbeatLines W) (t : HeartbeatTask W) : Event → HeartbeatTask W
  | .call .start => t.start
  | .call .stop => t.stop lines
  | .setInterval seconds => t.step lines (.setInterval seconds)
  | .turn => t.turn lines

def live (lines : HeartbeatLines W) (t : HeartbeatTask W) (events : List Event) : HeartbeatTask W :=
  events.foldl (happen lines) t

def Event.call? : Event → Option Call
  | .call c => some c
  | _ => none

def calls (events : List Event) : List Call := events.filterMap Event.call?

/-- Between two calls of the owner the task finds nothing but changed intervals in its inbox, and it breaks off
only if presenting a value makes it. -/
structure Held (lines : HeartbeatLines W) (calls : List Call) (t : HeartbeatTask W) : Prop where
  stage : Stage calls t.heartbeat
  attended : t.attended = true
  reloads : ∀ m ∈ t.inbox, m = .reload
  whole : (∀ value w, (lines.present value w).1 ≠ .crashed) → t.heartbeat.handle = true → t.heartbeat.looping = true

namespace Held
variable {done : List Call}

theorem setInterval (h : Held lines done t) (seconds : Float) : Held lines done (t.step lines (.setInterval seconds)) := by
  have hdoes := step_does lines t (.setInterval seconds)
  generalize t.step lines (.setInterval seconds) = t' at hdoes ⊢
  cases hdoes with
  | nothing => exact h
  | changed _ nanos =>
    refine ⟨?_, ?_, fun m hm => (mem_inbox_send hm).elim (h.reloads m) id, ?_⟩
    · rw [heartbeat_send]
      exact h.stage.congr rfl rfl id
    · rw [attended_send]
      exact h.attended
    · rw [heartbeat_send]
      exact h.whole

theorem not_last (h : Held lines done t) : ¬ t.wake.Last := by
  unfold wake
  cases hinbox : t.inbox with
  | nil =>
    rw [h.attended]
    nofun
  | cons m rest =>
    rw [h.reloads m (by rw [hinbox]; exact List.mem_cons_self)]
    nofun

theorem turn (h : Held lines done t) : Held lines done (t.turn lines) := by
  have hdoes : Does lines t .turn (t.turn lines) := step_does lines t .turn
  generalize t.turn lines = t' at hdoes ⊢
  cases hdoes with
  | nothing => exact h
  | timeout hlooping =>
    obtain ⟨looping, hadvance, hcrashed⟩ := Heartbeat.advance_cases lines hlooping t.world
    rw [hadvance]
    refine ⟨h.stage.congr rfl rfl ?_, h.attended, h.reloads, fun hlines _ => ?_⟩
    · exact fun hnot => absurd (hlooping.symm.trans hnot) nofun
    · show looping = true
      rw [← Bool.not_eq_false]
      intro hleft
      obtain ⟨value, hvalue⟩ := hcrashed hleft
      exact hlines value _ hvalue
  | reload => exact ⟨h.stage, h.attended, fun m hm => h.reloads m (List.mem_of_mem_tail hm), h.whole⟩
  | last _ hwake => exact absurd hwake h.not_last

theorem start (h : Held lines done t) : Held lines (done ++ [.start]) t.start := by
  refine ⟨h.stage.start, h.attended, h.reloads, fun hlines => ?_⟩
  show t.heartbeat.start.handle = true → t.heartbeat.start.looping = true
  unfold Heartbeat.start
  split
  · exact fun _ => rfl
  · exact h.whole hlines

theorem stop (h : Held lines done t) : Held lines (done ++ [.stop]) (t.stop lines) := by
  rw [stop_eq h.stage]
  refine ⟨h.stage.stop, h.attended, fun m hm => ?_, fun hlines => ?_⟩
  · dsimp only at hm
    split at hm
    · cases hm
    · exact h.reloads m hm
  · show t.heartbeat.stop.handle = true → t.heartbeat.stop.looping = true
    unfold Heartbeat.stop
    split
    · nofun
    · exact h.whole hlines

theorem happen (h : Held lines done t) (e : Event) : Held lines (done ++ e.call?.toList) (t.happen lines e) := by
  match e with
  | .call .start => exact h.start
  | .call .stop => exact h.stop
  | .setInterval seconds => exact (List.append_nil done).symm ▸ h.setInterval seconds
  | .turn => exact (List.append_nil done).symm ▸ h.turn

theorem live (h : Held lines done t) (events : List Event) : Held lines (done ++ calls events) (t.live lines events) := by
  -- the calls that were made go along with the state
  induction events generalizing done t with
  | nil => exact (List.append_nil done).symm ▸ h
  | cons e rest ih =>
    have hcalls : calls (e :: rest) = e.call?.toList ++ calls rest := by
      cases e <;> rfl
    rw [hcalls, ← List.append_assoc]
    exact ih (h.happen e)

/-- The task receives the messages that are left, and then its wait ends by the timeout. -/
theorem advances {t : HeartbeatTask (W × List Nat)} (h : Held lines.watched done t)
    (hlooping : t.heartbeat.looping = true) :
    (t.turns lines.watched (t.inbox.length + 1)).heartbeat.value = (t.heartbeat.value + 1) % 4 ∧
      (t.turns lines.watched (t.inbox.length + 1)).given = t.given ++ [(t.heartbeat.value + 1) % 4] := by
  have hwake : wake { t with inbox := [] } = .timeout := if_pos h.attended
  rw [turns_succ, turns_of_reloads hlooping h.reloads, turn_of_timeout (t := { t with inbox := [] }) hlooping hwake]
  exact Heartbeat.advance_watched lines hlooping t.world

end Held

/-! ## Tasks that have ended -/

theorem happen_of_over (lines : HeartbeatLines W) (h : t.heartbeat.Over) (e : Event) :
    (t.happen lines e).heartbeat.Over ∧ (t.happen lines e).world = t.world := by
  match e with
  | .call .start => exact run_of_over lines [.start] h
  | .call .stop =>
    show (t.stop lines).heartbeat.Over ∧ (t.stop lines).world = _
    unfold stop
    split
    · have htold : t.tellToStop.heartbeat.Over := over_step lines h .tellToStop
      rw [turns_of_not_looping (by rw [htold.looping]; decide)]
      exact run_of_over lines [.tellToStop] h
    · exact ⟨h, rfl⟩
  | .setInterval seconds => exact run_of_over lines [.setInterval seconds] h
  | .turn => exact run_of_over lines [.turn] h

theorem world_live_of_over (h : t.heartbeat.Over) (events : List Event) : (t.live lines events).world = t.world := by
  induction events generalizing t with
  | nil => rfl
  | cons e rest ih =>
    obtain ⟨hover, hworld⟩ := happen_of_over lines h e
    exact (ih hover).trans hworld

theorem held_begun (lines : HeartbeatLines W) (interval : Nat) (w : W) :
    Held lines.watched [] (begun lines interval w) :=
  ⟨.unstarted List.not_mem_nil rfl rfl rfl, rfl, fun _ hm => absurd hm List.not_mem_nil, fun _ => nofun⟩

/-- Whatever is called and happens in between, the owner holds what a task is started with until the first start,
and the task runs if the last call was a start and no earlier start was followed by a stop. Unless presenting a
value has broken it off, it goes on then: after the messages that are left a timeout advances the counter and
presents the next value. Once a stop has followed a start, no value is given any more, even if the heartbeat is
started again. -/
theorem running_of_calls (lines : HeartbeatLines W) (interval : Nat) (w : W) (events : List Event) :
    let t := (begun lines interval w).live lines.watched events
    (t.heartbeat.pending = true ↔ .start ∉ calls events) ∧
      (t.heartbeat.isRunning = true ↔ (calls events).getLast? = some .start ∧ ¬ Ended (calls events)) ∧
      (t.heartbeat.isRunning = true → (∀ value w, (lines.present value w).1 ≠ .crashed) → t.heartbeat.looping = true) ∧
      (t.heartbeat.looping = true → ∃ k,
        (t.turns lines.watched k).heartbeat.value = (t.heartbeat.value + 1) % 4 ∧
          (t.turns lines.watched k).given = t.given ++ [(t.heartbeat.value + 1) % 4]) ∧
      (Ended (calls events) →
        ∀ more, ((begun lines interval w).live lines.watched (events ++ more)).given = t.given) := by
  dsimp only
  have hheld := (held_begun lines interval w).live events
  rw [List.nil_append] at hheld
  refine ⟨hheld.stage.pending_iff, hheld.stage.isRunning_iff,
    fun hrunning hlines => hheld.whole (fun value w => hlines value w.1) hrunning,
    fun hlooping => ⟨_, hheld.advances hlooping⟩, fun hended more => ?_⟩
  have happend : (begun lines interval w).live lines.watched (events ++ more) =
      ((begun lines interval w).live lines.watched events).live lines.watched more := List.foldl_append ..
  rw [happend]
  exact congrArg Prod.snd (world_live_of_over (hheld.stage.over_of_ended hended) more)

/-- A heartbeat that is started again after it was stopped does not run. -/
theorem not_running_restarted :
    let events : List Event := [.call .start, .call .stop, .call .start]
    (calls events).getLast? = some .start ∧
      ((begun HeartbeatRecord.lines 10000000000 {}).live HeartbeatRecord.lines.watched events).heartbeat.isRunning =
        false :=
  ⟨rfl, rfl⟩

end HeartbeatTask

end DetectorControl
