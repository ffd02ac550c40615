import DetectorControl.Proofs.Autorun.Course
import DetectorControl.Proofs.Autorun.Shutdown
import DetectorControl.Proofs.Config.Accepted

/-!
# Evidence for what autorun does

A supervisor goes by the reply to the last reading of the sensors, however many ticks ago that was, and by
what the data acquisition has just reported (`Visit.Evident`). Because the first tick of all reads the
sensors (`knows_new`), there is such a reply whenever anything is done; every tick keeps it so
(`visit_evident`), and so does every run, whatever the partner answers (`evidence_of_history`).
-/

namespace DetectorControl

/-- The reply to the last reading of the sensors. -/
def lastReading? (said : List Exchange) : Option Reply :=
  (said.filter fun x => x.command.Is "hk" "read").getLast?.map (·.reply)

section
variable {log said : List Exchange}

theorem lastReading?_concat (log : List Exchange) (r : Reply) :
    lastReading? (log ++ [⟨.plain "hk" "read", r⟩]) = some r := by
  have hread : (Command.plain "hk" "read").Is "hk" "read" := Command.plain_is ..
  simp [lastReading?, List.filter_append, hread]

theorem lastReading?_append (h : ∀ x ∈ said, ¬ x.command.Is "hk" "read") :
    lastReading? (log ++ said) = lastReading? log := by
  have hnone : said.filter (fun x => x.command.Is "hk" "read") = [] := by
    simpa [List.filter_eq_nil_iff] using h
  rw [lastReading?, List.filter_append, hnone, List.append_nil]
  rfl

theorem eq_append_of_not_mem {α : Type} {looks said front rest : List α} {x : α}
    (h : looks ++ said = front ++ x :: rest) (hx : x ∉ looks) :
    ∃ front', front = looks ++ front' ∧ said = front' ++ x :: rest := by
  rcases List.append_eq_append_iff.1 h with ⟨front', hfront, hsaid⟩ | ⟨tail, hlooks, hrest⟩
  · exact ⟨front', hfront, hsaid⟩
  · cases tail with
    | nil => exact ⟨[], by simp [hlooks], by simpa using hrest.symm⟩
    | cons y tail =>
      obtain ⟨rfl, -⟩ := List.cons.inj hrest
      exact absurd (by simp [hlooks]) hx

end

/-- The readings with which a tick begins: of the sensors or not, and always of the data acquisition. -/
def Supervisor.looks : List (List Command) :=
  [[.plain "daq" "status"], [.plain "hk" "read", .plain "daq" "status"]]

/-- What a tick did, after all that was said before it and with the supervisor as it was before it. -/
structure Visit.Evident {W : Type u} (config : Config) (limits : TemperatureLimits) (log : List Exchange)
    (before : Supervisor) (v : Visit W) : Prop where
  /-- The high voltage is switched on, and the data acquisition told to go on, only after a usable report
  of it and while the last reading of the sensors permits it. -/
  starts : ∀ front x rest, v.said = front ++ x :: rest → x.command.OneOf Supervisor.starting →
    ∃ status r, v.report? = some status ∧ lastReading? (log ++ front) = some r ∧ r.permits limits = true
  /-- The data acquisition is paused, and the high voltage switched off, only after a report that something
  is recorded and while the last reading of the sensors does not permit it. -/
  ends : ∀ front x rest, v.said = front ++ x :: rest → x.command.OneOf Supervisor.ending →
    ∃ status r, v.report? = some status ∧ status.state.isPaused = false ∧
      lastReading? (log ++ front) = some r ∧ r.permits limits = false
  /-- Behind its readings a tick says what belongs to its outcome. -/
  commands : ∃ looks ∈ Supervisor.looks, v.said.map (·.command) = looks ++ v.action.commands config
  /-- Without a usable report nothing happens. -/
  unanswered : v.report? = none → v.action = .unreachable ∧ v.after.state = before.state

namespace Supervisor
open Autorun
variable {W : Type u} {port : Port W} {s s₁ : Supervisor} {w w₁ : W} {log asked : List Exchange}

/-- The permission is that of the last reading of the sensors, unless they are read at once. -/
def Knows (log : List Exchange) (s : Supervisor) : Prop :=
  s.checkDue = true ∨ ∃ r, lastReading? log = some r ∧ s.permitted = r.permits s.limits

theorem knows_new {config : Config} (hnew : new config = .ok s) (h : config.autorun.Bounded) :
    s.Knows [] ∧ s.config = config ∧ config.temperature = some s.limits := by
  unfold new at hnew
  split at hnew
  · rename_i limits hlimits
    cases hnew
    refine ⟨.inl (decide_eq_true ?_), rfl, hlimits⟩
    have hperiod := h.checkPeriod
    have helapsed : min longestTime (longestTime + ofSeconds config.autorun.period) = longestTime :=
      Nat.min_eq_left (Nat.le_add_right ..)
    show ofSeconds config.autorun.checkPeriod ≤ min longestTime (longestTime + ofSeconds config.autorun.period)
    rw [helapsed]
    unfold longestTime ofSeconds
    omega
  · cases hnew

/-- In front of what a tick does there is a reading of the sensors, in this tick or before. -/
theorem check_knows (hcheck : s.check.run port w = (s₁, asked, w₁)) (h : s.Knows log) :
    ∃ r, lastReading? (log ++ asked) = some r ∧ s₁.permitted = r.permits s.limits := by
  by_cases hdue : s.checkDue = true
  · rw [check_due hdue] at hcheck
    cases hcheck
    exact ⟨_, lastReading?_concat .., rfl⟩
  · rw [check_idle hdue] at hcheck
    cases hcheck
    rw [List.append_nil]
    exact h.resolve_left hdue

theorem kind_of_commands {config : Config} {action : Action} {c : Command} (h : c ∈ action.commands config) :
    action ≠ .suspended ∧ c.OneOf (("hv", "status") :: starting) ∨ action = .suspended ∧ c.OneOf ending := by
  have hpower {c : Command} (h : c ∈ powerCommands config channels) :
      c.OneOf (("hv", "status") :: starting) := by
    obtain ⟨n, hn, hc⟩ := starting_of_power h
    exact ⟨n, List.mem_cons_of_mem _ hn, hc⟩
  cases action with
  | unreachable => cases h
  | stayPaused => cases h
  | resumed =>
    refine .inl ⟨nofun, ?_⟩
    rcases List.mem_append.1 h with h | h
    · exact hpower h
    · rw [List.mem_singleton.1 h]
      decide
  | continued recovered switched =>
    refine .inl ⟨nofun, ?_⟩
    rcases List.mem_cons.1 h with rfl | h
    · decide
    · rcases List.mem_append.1 h with h | h
      · split at h
        · exact hpower h
        · cases h
      · split at h
        · rw [List.mem_singleton.1 h]
          decide
        · cases h
  | suspended =>
    refine .inr ⟨rfl, ?_⟩
    rcases List.mem_cons.1 h with rfl | h
    · decide
    · rw [List.mem_singleton.1 h]
      decide

/-- What is said upon a report, and what it takes to say it. -/
theorem Act.kind {status : RunStatus} {action : Action} {said : List Exchange} {after : Supervisor} {world : W}
    (h : Act port s status w action said after world) {x : Exchange} (hx : x ∈ said) :
    s.permitted = true ∧ x.command.OneOf (("hv", "status") :: starting) ∨
      s.permitted = false ∧ status.state.isPaused = false ∧ x.command.OneOf ending := by
  have hcommand : x.command ∈ action.commands s.config := h.commands ▸ List.mem_map_of_mem hx
  have hkind := kind_of_commands hcommand
  cases h with
  | stayPaused => cases hx
  | resumed _ hpermitted => exact .inl ⟨hpermitted, (hkind.resolve_right fun heq => nomatch heq.1).2⟩
  | continued _ hpermitted => exact .inl ⟨hpermitted, (hkind.resolve_right fun heq => nomatch heq.1).2⟩
  | suspended hrecording hdenied =>
    exact .inr ⟨hdenied, hrecording, (hkind.resolve_left fun hne => hne.1 rfl).2⟩

/-- A tick says its readings and then what belongs to its outcome, for which there is a report and the
permission that it takes. -/
theorem visit_kind (port : Port W) (s : Supervisor) (w : W) :
    ∃ s₁ asked w₁ r rest, s.check.run port w = (s₁, asked, w₁) ∧
      (s.visit port w).said = asked ++ ⟨.plain "daq" "status", r⟩ :: rest ∧
      rest.map (·.command) = (s.visit port w).action.commands s.config ∧
      (∀ x ∈ rest, ∃ status, (s.visit port w).report? = some status ∧
        (s₁.permitted = true ∧ x.command.OneOf (("hv", "status") :: starting) ∨
          s₁.permitted = false ∧ status.state.isPaused = false ∧ x.command.OneOf ending)) ∧
      ((s.visit port w).after.permitted = s₁.permitted ∧ (s.visit port w).after.config = s.config ∧
        (s.visit port w).after.limits = s.limits) ∧
      ((s.visit port w).report? = none →
        (s.visit port w).action = .unreachable ∧ (s.visit port w).after.state = s.state) := by
  obtain ⟨s₁, asked, w₁, r, w₂, hcheck, -, hcases⟩ := visit_cases port s w
  obtain ⟨hconfig, hlimits, hstate, -⟩ := check_cases hcheck
  rcases hcases with ⟨e, hdecode, hvisit⟩ | ⟨status, action, said, after, world, hdecode, hact, hvisit⟩
  · refine ⟨s₁, asked, w₁, r, [], hcheck, ?_⟩
    rw [hvisit]
    exact ⟨rfl, rfl, nofun, ⟨rfl, hconfig, hlimits⟩, fun _ => ⟨rfl, hstate⟩⟩
  · have hreport := report?_visit hcheck (by rw [hvisit])
    rw [hdecode] at hreport
    obtain ⟨hpermitted, hconfig', hlimits'⟩ := hact.keeps
    refine ⟨s₁, asked, w₁, r, said, hcheck, ?_⟩
    rw [hvisit] at hreport ⊢
    refine ⟨rfl, by rw [hact.commands, hconfig], fun x hx => ⟨status, hreport, hact.kind hx⟩,
      ⟨hpermitted, hconfig'.trans hconfig, hlimits'.trans hlimits⟩, fun hnone => ?_⟩
    rw [hreport] at hnone
    cases hnone

section
variable {front rest : List Exchange} {r : Reply}

theorem reading_of_look (hasked : asked = [] ∨ ∃ r', asked = [⟨.plain "hk" "read", r'⟩]) {x : Exchange}
    (hx : x ∈ asked ++ [⟨.plain "daq" "status", r⟩]) : x.command.OneOf Command.readings := by
  have hread : (Command.plain "hk" "read").OneOf Command.readings := by decide
  have hstatus : (Command.plain "daq" "status").OneOf Command.readings := by decide
  rcases hasked with rfl | ⟨r', rfl⟩
  · rw [List.mem_singleton.1 hx]
    exact hstatus
  · rcases List.mem_cons.1 hx with rfl | hx
    · exact hread
    · rw [List.mem_singleton.1 hx]
      exact hstatus

theorem not_read_of_kind {c : Command} (h : c.OneOf (("hv", "status") :: starting) ∨ c.OneOf ending) :
    ¬ c.Is "hk" "read" := by
  intro hread
  have hone : c.OneOf [("hk", "read")] := ⟨_, List.mem_singleton_self _, hread⟩
  rcases h with h | h
  · exact h.not (by decide) hone
  · exact h.not (by decide) hone

/-- So the last reading of the sensors is the one before. -/
theorem lastReading?_behind
    (h : ∀ x ∈ front, x.command.OneOf (("hv", "status") :: starting) ∨ x.command.OneOf ending) :
    lastReading? (log ++ (asked ++ [⟨.plain "daq" "status", r⟩] ++ front)) = lastReading? (log ++ asked) := by
  have hstatus : ¬ (Command.plain "daq" "status").Is "hk" "read" := by decide
  rw [List.append_assoc, ← List.append_assoc]
  refine lastReading?_append fun x hx => ?_
  rcases List.mem_append.1 hx with hx | hx
  · rw [List.mem_singleton.1 hx]
    exact hstatus
  · exact not_read_of_kind (h x hx)

end

/-- Every tick has evidence for what it does, and leaves a supervisor that knows. -/
theorem visit_evident (port : Port W) (w : W) (h : s.Knows log) :
    (s.visit port w).Evident s.config s.limits log s ∧
      (s.visit port w).after.Knows (log ++ (s.visit port w).said) ∧
      (s.visit port w).after.config = s.config ∧ (s.visit port w).after.limits = s.limits := by
  obtain ⟨s₁, asked, w₁, r, rest, hcheck, hsaid, hcommands, hrest, ⟨hafter, hconfig, hlimits⟩, hnone⟩ :=
    visit_kind port s w
  obtain ⟨reading, hreading, hpermitted⟩ := check_knows hcheck h
  have hasked : asked = [] ∨ ∃ r', asked = [⟨.plain "hk" "read", r'⟩] := by
    obtain ⟨-, -, -, ⟨hasked, -⟩ | ⟨r', hasked, -⟩⟩ := check_cases hcheck
    · exact .inl hasked
    · exact .inr ⟨r', hasked⟩
  generalize s.visit port w = v at hsaid hcommands hrest hafter hconfig hlimits hnone ⊢
  rw [List.append_cons] at hsaid
  have hkind : ∀ x ∈ rest, x.command.OneOf (("hv", "status") :: starting) ∨ x.command.OneOf ending := by
    intro x hx
    obtain ⟨status, -, hkind⟩ := hrest x hx
    exact hkind.imp (·.2) (·.2.2)
  -- a command that is no reading stands behind them
  have hbehind {front later : List Exchange} {x : Exchange} (hsplit : v.said = front ++ x :: later)
      (hx : ¬ x.command.OneOf Command.readings) :
      x ∈ rest ∧ lastReading? (log ++ front) = some reading := by
    obtain ⟨front', rfl, rfl⟩ := eq_append_of_not_mem (hsaid.symm.trans hsplit)
      fun hlook => hx (reading_of_look hasked hlook)
    refine ⟨by simp, ?_⟩
    rw [← hreading]
    exact lastReading?_behind fun y hy => hkind y (by simp [hy])
  refine ⟨⟨fun front x later hsplit hx => ?_, fun front x later hsplit hx => ?_, ?_, hnone⟩, ?_, hconfig, hlimits⟩
  · obtain ⟨hmem, hlast⟩ := hbehind hsplit (not_reading (.inl hx))
    obtain ⟨status, hreport, ⟨hyes, -⟩ | ⟨-, -, hends⟩⟩ := hrest x hmem
    · exact ⟨status, reading, hreport, hlast, hpermitted.symm.trans hyes⟩
    · exact absurd hends (hx.not (by decide))
  · obtain ⟨hmem, hlast⟩ := hbehind hsplit (not_reading (.inr hx))
    obtain ⟨status, hreport, ⟨-, hstarts⟩ | ⟨hno, hrecording, -⟩⟩ := hrest x hmem
    · exact absurd hstarts (hx.not (by decide))
    · exact ⟨status, reading, hreport, hrecording, hlast, hpermitted.symm.trans hno⟩
  · rw [hsaid, List.map_append, hcommands]
    refine ⟨_, ?_, rfl⟩
    rcases hasked with rfl | ⟨r', rfl⟩ <;> simp [looks]
  · refine .inr ⟨reading, ?_, by rw [hafter, hlimits, hpermitted]⟩
    rw [hsaid, lastReading?_behind hkind, hreading]

/-- In a run each tick has evidence for what it does, from all ticks before it. -/
theorem history_evident {changes : List (W → W)} {front rest : List (Visit W)} {v : Visit W}
    (h : s.Knows log) (hrun : history port changes s w = front ++ v :: rest) :
    v.Evident s.config s.limits (log ++ front.flatMap (·.said)) ((front.map (·.after)).getLastD s) := by
  induction front generalizing changes s w log with
  | nil =>
    obtain ⟨w', -, rfl, -⟩ := history_eq_cons hrun
    rw [List.flatMap_nil, List.append_nil]
    exact (visit_evident port w' h).1
  | cons u front ih =>
    obtain ⟨w', changes', hu, hlater⟩ := history_eq_cons hrun
    obtain ⟨-, hknows, hconfig, hlimits⟩ := visit_evident port w' h
    rw [← hu] at hknows hconfig hlimits
    have hv := ih hknows hlater.symm
    rw [hconfig, hlimits] at hv
    rw [List.flatMap_cons, ← List.append_assoc, List.map_cons, List.getLastD_cons]
    exact hv

/-- A supervisor with an accepted configuration, any partner, and any changes between ticks. Each tick has
evidence for what it does; and another run with the same replies to its readings takes the same course,
whatever the other commands are answered there. -/
theorem evidence_of_history {repository : Option String} {text : String} {config : Config}
    (hconfig : Config.ofText repository text = .ok config) (hnew : new config = .ok s) (port : Port W)
    (changes : List (W → W)) (w : W) :
    (∀ front v rest, history port changes s w = front ++ v :: rest →
      v.Evident config s.limits (front.flatMap (·.said)) ((front.map (·.after)).getLastD s)) ∧
    ∀ {W' : Type u} (port' : Port W') (changes' : List (W' → W')) (w' : W'),
      (history port changes s w).map Visit.readings = (history port' changes' s w').map Visit.readings →
      (history port changes s w).map Visit.course = (history port' changes' s w').map Visit.course := by
  obtain ⟨hknows, rfl, -⟩ := knows_new hnew (Config.bounded_of_ofText hconfig)
  refine ⟨fun front v rest hrun => ?_, fun port' changes' w' => courses_eq_of_readings⟩
  exact history_evident hknows hrun

/-! ## A run -/

/-- A configuration with a level for channel 0 only, and limits to the temperature of the environment. -/
def benchText : String :=
  "detector_id = \"bench\"\n[hv.default]\n0 = 1000\n[limits.temperature]\nsource = \"bme280\"\n"

/-- The sensors permit a run and the data acquisition is resumed; at the second tick, in which the sensors
are not read, it does not answer; at the third it records, and the sensors cannot be read any more. -/
def interruptedRun : List Reply :=
  let quantity (value : Float) := Json.object [("value", .float value), ("units", .string "")]
  let environment := Json.object [("temperature", quantity 20), ("pressure", quantity 1000),
    ("humidity", quantity 50)]
  [.ok none [("hk", .object [("bme280", environment), ("slide_switch", .string "on")]), ("unixtime", .int 0)],
    .ok none [("daqStatus", .string "Paused")], .done, .done, .done, .error "no connection",
    .error "SlowADC read failed", .ok none [("daqStatus", .string "Running")]]

theorem evidence_of_interruptedRun :
    ∃ config s, Config.ofText none benchText = .ok config ∧ new config = .ok s ∧
      (history Port.script [id, id, id] s interruptedRun).map (·.action) =
        [.resumed, .unreachable, .suspended] ∧
      ∀ front v rest, history Port.script [id, id, id] s interruptedRun = front ++ v :: rest →
        v.Evident config s.limits (front.flatMap (·.said)) ((front.map (·.after)).getLastD s) := by
  have hactions : ((Config.ofText none benchText).toOption.bind fun config =>
      (new config).toOption.map fun s =>
        (history Port.script [id, id, id] s interruptedRun).map (·.action)) =
      some [.resumed, .unreachable, .suspended] := by decide +kernel
  cases hconfig : Config.ofText none benchText with
  | error e =>
    rw [hconfig] at hactions
    cases hactions
  | ok config =>
    rw [hconfig] at hactions
    cases hnew : new config with
    | error e =>
      rw [Except.toOption, Option.bind_some, hnew] at hactions
      cases hactions
    | ok s =>
      rw [Except.toOption, Option.bind_some, hnew] at hactions
      refine ⟨config, s, rfl, hnew, Option.some.inj hactions, ?_⟩
      exact (evidence_of_history hconfig hnew Port.script [id, id, id] interruptedRun).1

end Supervisor

end DetectorControl
