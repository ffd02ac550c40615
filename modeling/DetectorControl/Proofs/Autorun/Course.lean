import DetectorControl.Proofs.Autorun.History

/-!
# The course of a tick

After its readings a tick says what belongs to its outcome and nothing else, whatever that is answered
(`Act.commands`). Only the replies to readings make a difference: ticks of the same supervisor with the
same replies to their readings take the same course (`Heeds`, `course_eq_of_readings`).
-/

namespace DetectorControl

/-- Whether a command is one of those named, whatever its options are. -/
def Command.OneOf (names : List (String × String)) (c : Command) : Prop := ∃ n ∈ names, c.Is n.1 n.2

namespace Command
variable {names names' : List (String × String)} {c : Command}

instance : Decidable (c.OneOf names) := inferInstanceAs (Decidable (∃ n ∈ names, c.Is n.1 n.2))

theorem OneOf.not (h : c.OneOf names)
    (hne : ∀ n ∈ names, ∀ m ∈ names', (Target.ofName n.1, n.2) ≠ (Target.ofName m.1, m.2)) :
    ¬ c.OneOf names' := by
  rintro ⟨m, hm, htarget', hverb'⟩
  obtain ⟨n, hn, htarget, hverb⟩ := h
  exact hne n hn m hm (by rw [← htarget, ← htarget', ← hverb, ← hverb'])

theorem OneOf.mono (h : c.OneOf names) (hsub : names ⊆ names') : c.OneOf names' := by
  obtain ⟨n, hn, hc⟩ := h
  exact ⟨n, hsub hn, hc⟩

/-- The commands that ask for a state and change nothing. -/
def readings : List (String × String) := [("hk", "read"), ("daq", "status"), ("hv", "status")]

end Command

namespace Dialogue
variable {α β : Type} {W W' : Type u}

/-- Says some commands, whatever it is answered, and goes on. -/
def recite (cs : List Command) (d : Dialogue α) : Dialogue α := cs.foldr (fun c d => .ask c fun _ => d) d

theorem recite_bind (cs : List Command) (d : Dialogue α) (f : α → Dialogue β) :
    recite cs d >>= f = recite cs (d >>= f) := by
  induction cs with
  | nil => rfl
  | cons c cs ih =>
    show (Dialogue.ask c fun _ => recite cs d >>= f) = _
    rw [ih]
    rfl

theorem recite_append (cs cs' : List Command) (d : Dialogue α) :
    recite (cs ++ cs') d = recite cs (recite cs' d) :=
  List.foldr_append ..

theorem run_ask {port : Port W} {c : Command} {next : Reply → Dialogue α} {a : α} {w w' : W}
    {said : List Exchange} (h : (Dialogue.ask c next).run port w = (a, said, w')) :
    ∃ later, said = ⟨c, (port c w).1⟩ :: later ∧
      (next (port c w).1).run port (port c w).2 = (a, later, w') := by
  cases h
  exact ⟨_, rfl, rfl⟩

theorem run_recite {port : Port W} {cs : List Command} {a b : α} {w w' : W} {said : List Exchange}
    (h : (recite cs (.done a)).run port w = (b, said, w')) : b = a ∧ said.map (·.command) = cs := by
  induction cs generalizing w said with
  | nil =>
    cases h
    exact ⟨rfl, rfl⟩
  | cons c cs ih =>
    obtain ⟨later, rfl, hrun⟩ := run_ask h
    obtain ⟨hb, hsaid⟩ := ih hrun
    exact ⟨hb, congrArg (c :: ·) hsaid⟩

/-! ### The world after a dialogue -/

theorem world_done (port : Port W) (a : α) (w : W) : ((Dialogue.done a).run port w).2.2 = w := rfl

theorem world_ask (port : Port W) (c : Command) (next : Reply → Dialogue α) (w : W) :
    ((Dialogue.ask c next).run port w).2.2 = ((next (port c w).1).run port (port c w).2).2.2 := rfl

theorem world_bind (port : Port W) (d : Dialogue α) (f : α → Dialogue β) (w : W) :
    ((d >>= f).run port w).2.2 = ((f (d.run port w).1).run port (d.run port w).2.2).2.2 := by
  rw [run_bind]

theorem world_recite (port : Port W) (cs : List Command) (a : α) (b : β) (w : W) :
    ((recite cs (.done a)).run port w).2.2 = ((recite cs (.done b)).run port w).2.2 := by
  induction cs generalizing w with
  | nil => rfl
  | cons c cs ih => exact ih (port c w).2

/-- No replies make a difference but those to commands of a kind. -/
inductive Heeds (Q : Command → Prop) : Dialogue α → Prop
  | done (a : α) : Heeds Q (.done a)
  | ask {c : Command} {next : Reply → Dialogue α} (hc : Q c) (h : ∀ r, Heeds Q (next r)) : Heeds Q (.ask c next)
  | tell {c : Command} {d : Dialogue α} (hc : ¬ Q c) (h : Heeds Q d) : Heeds Q (.ask c fun _ => d)

namespace Heeds
variable {Q : Command → Prop}

theorem bind {d : Dialogue α} {f : α → Dialogue β} (hd : Heeds Q d) (hf : ∀ a, Heeds Q (f a)) :
    Heeds Q (d >>= f) := by
  induction hd with
  | done a => exact hf a
  | ask hc _ ih => exact .ask hc ih
  | tell hc _ ih => exact .tell hc ih

theorem recite {cs : List Command} {d : Dialogue α} (hcs : ∀ c ∈ cs, ¬ Q c) (hd : Heeds Q d) :
    Heeds Q (Dialogue.recite cs d) := by
  induction cs with
  | nil => exact hd
  | cons c cs ih => exact .tell (hcs c (by simp)) (ih fun c hc => hcs c (by simp [hc]))

/-- With the same replies to what is heeded, a dialogue comes to the same end over the same commands. -/
theorem run_eq [DecidablePred Q] {d : Dialogue α} (hd : Heeds Q d) (port : Port W) (port' : Port W')
    (w : W) (w' : W')
    (h : ((d.run port w).2.1.filter (Q ·.command)).map (·.reply) =
      ((d.run port' w').2.1.filter (Q ·.command)).map (·.reply)) :
    (d.run port w).1 = (d.run port' w').1 ∧
      (d.run port w).2.1.map (·.command) = (d.run port' w').2.1.map (·.command) := by
  induction hd generalizing w w' with
  | done a => exact ⟨rfl, rfl⟩
  | @ask c next hc _ ih =>
    simp only [run, List.filter_cons, hc, decide_true, if_true, List.map_cons, List.cons.injEq] at h
    obtain ⟨hreply, h⟩ := h
    simp only [run]
    rw [hreply] at h ⊢
    obtain ⟨hend, hcommands⟩ := ih _ _ _ h
    exact ⟨hend, congrArg (c :: ·) hcommands⟩
  | @tell c d hc _ ih =>
    simp only [run, List.filter_cons, hc, decide_false, if_false, Bool.false_eq_true] at h
    obtain ⟨hend, hcommands⟩ := ih _ _ h
    exact ⟨hend, congrArg (c :: ·) hcommands⟩

end Heeds

end Dialogue

namespace Supervisor

section
variable {config : Config} {channel : Nat} {level : Float}

theorem level?_eq_some_iff :
    level? config channel = some level ↔ config.default? channel = some level ∧ 0 < level := by
  unfold level?
  rw [Option.filter_eq_some_iff, decide_eq_true_iff]

theorem level?_eq_none_iff :
    level? config channel = none ↔ ∀ level, config.default? channel = some level → ¬ 0 < level := by
  unfold level?
  rw [Option.filter_eq_none_iff]
  simp only [decide_eq_true_iff]

end

/-- What switches on the high voltage: each channel with a default level above zero is set to that level and then
switched on. -/
def powerCommands (config : Config) (channels : List Nat) : List Command :=
  channels.flatMap fun channel =>
    match config.default? channel with
    | some level =>
      if 0 < level then
        [⟨.ofName "hv", "set", .ofPairs [("ch", .nat channel), ("value_in_mV", .float level)]⟩,
          ⟨.ofName "hv", "on", .ofPairs [("ch", .nat channel)]⟩]
      else []
    | none => []

theorem powerOn_eq (config : Config) (channels : List Nat) :
    powerOn config channels = Dialogue.recite (powerCommands config channels) (.done ()) := by
  induction channels with
  | nil => rfl
  | cons channel rest ih =>
    unfold powerOn powerCommands
    rw [List.flatMap_cons, Dialogue.recite_append, ih]
    cases hdefault : config.default? channel with
    | none =>
      rw [level?_eq_none_iff.2 (by simp [hdefault])]
      rfl
    | some level =>
      by_cases hlevel : 0 < level
      · rw [level?_eq_some_iff.2 ⟨hdefault, hlevel⟩]
        simp only [if_pos hlevel]
        rfl
      · rw [level?_eq_none_iff.2 (by simp [hdefault, hlevel])]
        simp only [if_neg hlevel]
        rfl

/-- The commands of the supply that switch on. -/
def powering : List (String × String) := [("hv", "set"), ("hv", "on")]

/-- These commands and those of the data acquisition that go on. -/
def starting : List (String × String) :=
  [("hv", "set"), ("hv", "on"), ("daq", "resume"), ("daq", "switch_output")]

def ending : List (String × String) := [("daq", "pause"), ("hv", "off_all")]

end Supervisor

/-- The commands that belong to an outcome, behind the readings of the tick. -/
def Autorun.Action.commands (config : Config) : Autorun.Action → List Command
  | .unreachable => []
  | .stayPaused => []
  | .resumed => Supervisor.powerCommands config [0, 1] ++ [.plain "daq" "resume"]
  | .continued recovered switched =>
    .plain "hv" "status" :: ((if recovered then Supervisor.powerCommands config [0, 1] else []) ++
      if switched then [.plain "daq" "switch_output"] else [])
  | .suspended => [.plain "daq" "pause", .plain "hv" "off_all"]

namespace Supervisor

theorem powering_of_power {config : Config} {channels : List Nat} {c : Command}
    (h : c ∈ powerCommands config channels) : c.OneOf powering := by
  obtain ⟨channel, -, hc⟩ := List.mem_flatMap.1 h
  cases hdefault : config.default? channel with
  | none =>
    simp only [hdefault] at hc
    cases hc
  | some level =>
    simp only [hdefault] at hc
    split at hc
    · rcases List.mem_cons.1 hc with rfl | hc
      · exact ⟨("hv", "set"), by simp [powering], rfl, rfl⟩
      · obtain rfl := List.mem_singleton.1 hc
        exact ⟨("hv", "on"), by simp [powering], rfl, rfl⟩
    · cases hc

theorem starting_of_power {config : Config} {channels : List Nat} {c : Command}
    (h : c ∈ powerCommands config channels) : c.OneOf starting :=
  (powering_of_power h).mono (by simp [powering, starting])

/-! ## The outcomes -/

section
variable {s : Supervisor} {config : Config} {status : RunStatus}

/-- Whether a report on the high voltage is one that misses a channel. -/
def lacksPower (r : Reply) : Bool := r.isOk && !channels.all (reportsOn r)

theorem recover_eq (config : Config) :
    recover config = .ask (.plain "hv" "status") fun r =>
      .recite (if lacksPower r then powerCommands config channels else []) (.done (lacksPower r)) := by
  unfold recover
  rw [powerOn_eq]
  refine congrArg (Dialogue.ask _) (funext fun r => ?_)
  show (if !r.isOk then pure false else if channels.all (reportsOn r) then pure false else
    Dialogue.recite (powerCommands config channels) (.done ()) >>= fun _ => pure true) = _
  unfold lacksPower
  cases r.isOk with
  | false => rfl
  | true =>
    cases channels.all (reportsOn r) with
    | false => exact Dialogue.recite_bind ..
    | true => rfl

theorem rotate_eq (config : Config) (status : RunStatus) :
    rotate config status =
      .recite (if fileDue config status then [.plain "daq" "switch_output"] else []) (.done (fileDue config status)) := by
  unfold rotate
  cases fileDue config status <;> rfl

theorem resume_eq (s : Supervisor) :
    s.resume = .recite (powerCommands s.config channels ++ [.plain "daq" "resume"])
      (.done (.resumed, { s with state := .active })) := by
  unfold resume
  rw [powerOn_eq, Dialogue.recite_bind, Dialogue.recite_append]
  rfl

variable {W : Type u} {port : Port W} {w w' world : W} {said : List Exchange}

theorem commands_recover {recovered : Bool} (h : (recover config).run port w = (recovered, said, w')) :
    said.map (·.command) =
      .plain "hv" "status" :: if recovered then powerCommands config channels else [] := by
  rw [recover_eq] at h
  obtain ⟨power, rfl, hrun⟩ := Dialogue.run_ask h
  obtain ⟨rfl, hpower⟩ := Dialogue.run_recite hrun
  rw [List.map_cons, hpower]

/-- The high voltage is switched on exactly if a report misses a channel. -/
theorem run_recover {recovered : Bool} (h : (recover config).run port w = (recovered, said, w')) :
    recovered = lacksPower (port (.plain "hv" "status") w).1 ∧
      w' = if recovered then ((powerOn config channels).run port (port (.plain "hv" "status") w).2).2.2
        else (port (.plain "hv" "status") w).2 := by
  rw [recover_eq] at h
  obtain ⟨power, -, hrun⟩ := Dialogue.run_ask h
  obtain ⟨rfl, -⟩ := Dialogue.run_recite hrun
  refine ⟨rfl, ?_⟩
  have hworld := congrArg (·.2.2) hrun
  dsimp only at hworld
  rw [← hworld, powerOn_eq]
  split
  · exact Dialogue.world_recite ..
  · rfl

theorem commands_rotate {switched : Bool} (h : (rotate config status).run port w = (switched, said, w')) :
    said.map (·.command) = if switched then [.plain "daq" "switch_output"] else [] := by
  rw [rotate_eq] at h
  obtain ⟨rfl, hsaid⟩ := Dialogue.run_recite h
  exact hsaid

/-- What is said upon a report belongs to the outcome. -/
theorem Act.commands {action : Autorun.Action} {after : Supervisor}
    (h : Act port s status w action said after world) : said.map (·.command) = action.commands s.config := by
  cases h with
  | stayPaused => rfl
  | resumed _ _ hpower =>
    rw [powerOn_eq] at hpower
    rw [List.map_append, (Dialogue.run_recite hpower).2]
    rfl
  | continued _ _ hrecover hrotate =>
    rw [List.map_append, commands_recover hrecover, commands_rotate hrotate]
    rfl
  | suspended => rfl

/-- Nothing changes upon a report but the state. -/
theorem Act.after_eq {action : Autorun.Action} {after : Supervisor}
    (h : Act port s status w action said after world) : after = { s with state := after.state } := by
  cases h with
  | stayPaused =>
    unfold Supervisor.stayPaused
    split <;> rfl
  | _ => rfl

theorem Act.keeps {action : Autorun.Action} {after : Supervisor}
    (h : Act port s status w action said after world) :
    after.permitted = s.permitted ∧ after.config = s.config ∧ after.limits = s.limits := by
  rw [h.after_eq]
  exact ⟨rfl, rfl, rfl⟩

end

/-! ## The replies that make a difference -/

section
variable {s : Supervisor} {config : Config}

theorem not_reading {c : Command} (h : c.OneOf starting ∨ c.OneOf ending) : ¬ c.OneOf Command.readings := by
  rcases h with h | h
  · exact h.not (by decide)
  · exact h.not (by decide)

theorem heeds_recover (config : Config) : Dialogue.Heeds (·.OneOf Command.readings) (recover config) := by
  rw [recover_eq]
  refine .ask (by decide) fun r => .recite (fun c hc => ?_) (.done _)
  split at hc
  · exact not_reading (.inl (starting_of_power hc))
  · cases hc

theorem heeds_rotate (config : Config) (status : RunStatus) :
    Dialogue.Heeds (·.OneOf Command.readings) (rotate config status) := by
  rw [rotate_eq]
  refine .recite (fun c hc => ?_) (.done _)
  split at hc
  · rw [List.mem_singleton.1 hc]
    decide
  · cases hc

theorem heeds_resume (s : Supervisor) : Dialogue.Heeds (·.OneOf Command.readings) s.resume := by
  rw [resume_eq]
  refine .recite (fun c hc => ?_) (.done _)
  rcases List.mem_append.1 hc with hc | hc
  · exact not_reading (.inl (starting_of_power hc))
  · rw [List.mem_singleton.1 hc]
    decide

theorem heeds_tick (s : Supervisor) : Dialogue.Heeds (·.OneOf Command.readings) s.tick := by
  have hcheck : Dialogue.Heeds (·.OneOf Command.readings) s.check := by
    by_cases hdue : s.checkDue = true
    · rw [check_due hdue]
      exact .ask (by decide) fun r => .done _
    · rw [check_idle hdue]
      exact .done _
  rw [tick_eq]
  refine .bind hcheck fun s₁ => .ask (by decide) fun r => ?_
  unfold answered
  split
  · rename_i status hdecode
    unfold act
    split
    · exact heeds_resume s₁
    · exact .done _
    · exact .bind (heeds_recover _) fun recovered => .bind (heeds_rotate ..) fun switched => .done _
    · exact .tell (by decide) (.tell (by decide) (.done _))
  · exact .done _

end

end Supervisor

namespace Visit
variable {W : Type u}

/-- The replies to the readings of a tick. -/
def readings (v : Visit W) : List Reply :=
  (v.said.filter (·.command.OneOf Command.readings)).map (·.reply)

/-- What a tick did and said, and how it left the supervisor. -/
def course (v : Visit W) : Autorun.Action × List Command × Supervisor :=
  (v.action, v.said.map (·.command), v.after)

theorem after_eq_of_course {W' : Type u} {v : Visit W} {v' : Visit W'} (h : v.course = v'.course) :
    v.after = v'.after :=
  congrArg (·.2.2) h

end Visit

namespace Supervisor
variable {W W' : Type u} {port : Port W} {port' : Port W'}

theorem course_eq_of_readings {s : Supervisor} {w : W} {w' : W'}
    (h : (s.visit port w).readings = (s.visit port' w').readings) :
    (s.visit port w).course = (s.visit port' w').course := by
  have hheeds := (heeds_tick s).run_eq port port' w w'
  obtain ⟨⟨⟨action, after⟩, said, world⟩, hrun⟩ : ∃ result, s.tick.run port w = result := ⟨_, rfl⟩
  obtain ⟨⟨⟨action', after'⟩, said', world'⟩, hrun'⟩ : ∃ result, s.tick.run port' w' = result := ⟨_, rfl⟩
  rw [visit_eq hrun, visit_eq hrun'] at h ⊢
  rw [hrun, hrun'] at hheeds
  obtain ⟨hend, hcommands⟩ := hheeds h
  cases hend
  exact congrArg (action, ·, after) hcommands

theorem history_cons (change : W → W) (rest : List (W → W)) (s : Supervisor) (w : W) :
    history port (change :: rest) s w =
      s.visit port (change w) ::
        history port rest (s.visit port (change w)).after (s.visit port (change w)).world := rfl

/-- Runs with the same replies to their readings take the same course, whoever answers, and whatever the
other commands are answered. -/
theorem courses_eq_of_readings {changes : List (W → W)} {changes' : List (W' → W')} {s : Supervisor} {w : W}
    {w' : W'} (h : (history port changes s w).map Visit.readings = (history port' changes' s w').map Visit.readings) :
    (history port changes s w).map Visit.course = (history port' changes' s w').map Visit.course := by
  induction changes generalizing changes' s w w' with
  | nil =>
    cases changes' with
    | nil => rfl
    | cons change' rest' => cases h
  | cons change rest ih =>
    cases changes' with
    | nil => cases h
    | cons change' rest' =>
      rw [history_cons, history_cons, List.map_cons, List.map_cons] at h ⊢
      obtain ⟨hfirst, hlater⟩ := List.cons.inj h
      have hcourse := course_eq_of_readings hfirst
      have hafter := Visit.after_eq_of_course hcourse
      rw [hafter] at hlater
      rw [hcourse, hafter, ih hlater]

end Supervisor

end DetectorControl
