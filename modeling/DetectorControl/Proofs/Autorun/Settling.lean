import DetectorControl.Proofs.Autorun.Evidence
import DetectorControl.Proofs.Autorun.Power
import DetectorControl.Proofs.Supply.Report

/-!
# A run that is switched on once

A tick that finds the data acquisition recording switches on the high voltage if the report on the supply
misses a channel (`recovered_iff`). Afterwards no channel is off but those that have no level, and these are
left as they were: the next tick switches on again exactly if one of them is off (`powered_again_iff`).
-/

namespace DetectorControl

open Dispatcher Json Supervisor

namespace Supervisor
variable {W : Type u} {port : Port W} {config : Config}

theorem powering_commands (recovered switched : Bool) :
    ((Autorun.Action.continued recovered switched).commands config).filter (·.OneOf powering) =
      if recovered then powerCommands config [0, 1] else [] := by
  have hstatus : ¬ (Command.plain "hv" "status").OneOf powering := by decide
  have hswitch : ¬ (Command.plain "daq" "switch_output").OneOf powering := by decide
  have hpower : (powerCommands config [0, 1]).filter (·.OneOf powering) = powerCommands config [0, 1] :=
    List.filter_eq_self.2 fun c hc => decide_eq_true (powering_of_power hc)
  unfold Autorun.Action.commands
  rw [List.filter_cons_of_neg (by simpa using hstatus), List.filter_append]
  cases recovered <;> cases switched <;> simp [hpower, hswitch]

/-- Nothing is switched on in front of the report on the data acquisition. -/
theorem powering_asked {s s₁ : Supervisor} {asked said : List Exchange} {w w₁ : W} (r : Reply)
    (hcheck : s.check.run port w = (s₁, asked, w₁)) :
    ((asked ++ ⟨.plain "daq" "status", r⟩ :: said).map (·.command)).filter (·.OneOf powering) =
      (said.map (·.command)).filter (·.OneOf powering) := by
  have hread : ¬ (Command.plain "hk" "read").OneOf powering := by decide
  have hstatus : ¬ (Command.plain "daq" "status").OneOf powering := by decide
  obtain ⟨-, -, -, ⟨rfl, -⟩ | ⟨r', rfl, -⟩⟩ := check_cases hcheck
  · simp [hstatus]
  · simp [hread, hstatus]

theorem visit_config (port : Port W) (s : Supervisor) (w : W) : (s.visit port w).after.config = s.config := by
  obtain ⟨s₁, asked, w₁, r, rest, -, -, -, -, ⟨-, hconfig, -⟩, -⟩ := visit_kind port s w
  exact hconfig

end Supervisor

/-- The channel is recorded with a level that is a number. -/
def Channel.Regular (c : Channel) : Prop := c.record.level.isFinite = true

namespace Channel
variable {config : Config} {ch : Fin 2} {c : Channel}

theorem Regular.powered (h : c.Regular) : (c.powered config ch).Regular := by
  unfold Channel.powered
  split
  · rename_i level hlevel
    show (c.asked config ch (reread level)).Regular
    unfold asked
    split
    · rename_i hadmits
      exact hadmits.finite
    · exact h
  · exact h

/-- Only a channel without a level is still off. -/
theorem off_powered : (c.powered config ch).record.output ≠ .on ↔ level? config ch = none ∧ c.record.output ≠ .on := by
  unfold Channel.powered
  cases level? config ch with
  | none => simp
  | some level => simp [enabled]

end Channel

namespace Plant
variable {P : Type} {a : Acquirer P} {config : Config} {host : Host} {endpoints : Rig.Endpoints}
  {view : Fin 2 → Channel} {x : Dispatcher (Plant P) × Plant P}

/-- What a controller of a plant says of its supply is what is recorded. -/
theorem reports_of_stands (h : Stands a config host endpoints view x) (hregular : ∀ ch, (view ch).Regular) :
    (port (.plain "hv" "status") x).1.isOk = true ∧
      ∀ ch : Fin 2, reportsOn (port (.plain "hv" "status") x).1 ch = ((view ch).record.output == .on) := by
  obtain ⟨d, w⟩ := x
  obtain ⟨⟨s, hs, rfl⟩, -⟩ := h
  have hstatus : Named "hv" "status" := by decide
  obtain ⟨d', hport, -⟩ := port_handle hs .status hstatus (o := .empty) (.object .nil nofun) (w := w) rfl
  have hwritable : s.supply.Writable := hregular
  obtain ⟨message, fields, hreceived, hfields⟩ := Supply.reports_received hwritable "hv"
  have hreply : (port (.plain "hv" "status") (d, w)).1 = .ok message fields :=
    (congrArg (·.1) hport).trans hreceived
  rw [hreply]
  refine ⟨rfl, fun ch => ?_⟩
  have hfield : (Reply.ok message fields).field? (toString (ch : Nat)) = some (s.supply.channels.get ch).toJson.again :=
    hfields ch
  unfold reportsOn
  rw [hfield, Option.bind_some, ChannelStatus.ofTree?_again (hwritable ch)]
  rfl

theorem lacksPower_iff (h : Stands a config host endpoints view x) (hregular : ∀ ch, (view ch).Regular) :
    lacksPower (port (.plain "hv" "status") x).1 = true ↔ ∃ ch, (view ch).record.output ≠ .on := by
  obtain ⟨hok, hreports⟩ := reports_of_stands h hregular
  unfold lacksPower
  rw [hok, Bool.true_and, Bool.not_eq_true', ← Bool.not_eq_true, List.all_eq_true]
  constructor
  · intro hmissing
    refine Classical.byContradiction fun hon => hmissing fun channel hchannel => ?_
    have hlt : channel < 2 := List.mem_range.1 hchannel
    have hrecord : (view ⟨channel, hlt⟩).record.output = .on := Classical.not_not.1 fun hoff => hon ⟨_, hoff⟩
    rw [hreports ⟨channel, hlt⟩, hrecord]
    rfl
  · rintro ⟨ch, hoff⟩ hall
    have hreported := hall ch (List.mem_range.2 ch.isLt)
    rw [hreports ch, beq_iff_eq] at hreported
    exact hoff hreported

theorem stands_beside {change : Plant P → Plant P} (hchange : ∀ w, (change w).supplied = w.supplied)
    (h : Stands a config host endpoints view x) : Stands a config host endpoints view (beside change x) := by
  obtain ⟨⟨s, hs, rfl⟩, hanswers⟩ := h
  obtain ⟨hlevels, houtputs, hspi⟩ := board_of_supplied_eq (hchange x.2)
  refine ⟨⟨s, hs, ?_⟩, hspi.trans hanswers⟩
  funext ch
  unfold Channel.of beside
  rw [hlevels, houtputs]

/-- A tick with permission that finds the data acquisition recording. It switches on the high voltage exactly
if a channel is recorded as off. -/
theorem recovered_iff {s : Supervisor} (hs : s.config = config) (h : Stands a config host endpoints view x)
    (hregular : ∀ ch, (view ch).Regular) {status : RunStatus}
    (hreport : (s.visit port x).report? = some status) (hrecording : status.state.isPaused = false)
    (hpermitted : (s.visit port x).after.permitted = true) :
    ∃ recovered switched, (s.visit port x).action = .continued recovered switched ∧
      (recovered = true ↔ ∃ ch, (view ch).record.output ≠ .on) ∧
      ((s.visit port x).said.map (·.command)).filter (·.OneOf powering) =
        if recovered then powerCommands config [0, 1] else [] := by
  obtain ⟨s₁, asked, x₁, r, x₂, hcheck, hstatus, hcases⟩ := Supervisor.visit_cases port s x
  have hconfig : s₁.config = config := (check_cases hcheck).1.trans hs
  have h₂ := stands_told .status (by decide) (stands_check h hcheck) hstatus
  rcases hcases with ⟨e, herror, hvisit⟩ | ⟨status', action, said, after, world, hok, hact, hvisit⟩
  · have hsaid : (s.visit port x).said = asked ++ ⟨.plain "daq" "status", r⟩ :: [] := by rw [hvisit]
    rw [report?_visit hcheck hsaid, herror] at hreport
    cases hreport
  · have hsaid : (s.visit port x).said = asked ++ ⟨.plain "daq" "status", r⟩ :: said := by rw [hvisit]
    rw [report?_visit hcheck hsaid, hok] at hreport
    cases hreport
    rw [hvisit] at hpermitted ⊢
    have hcommands := hact.commands
    rw [hact.keeps.1] at hpermitted
    cases hact with
    | stayPaused hpaused | resumed hpaused => cases hpaused.symm.trans hrecording
    | suspended _ hdenied => cases hpermitted.symm.trans hdenied
    | @continued recovered switched _ _ _ _ _ _ hrecover =>
      refine ⟨recovered, switched, rfl, ?_, ?_⟩
      · rw [(run_recover hrecover).1]
        exact lacksPower_iff h₂ hregular
      · dsimp only
        rw [powering_asked r hcheck, hcommands, hconfig, powering_commands]

variable {repository : Option String} {text : String} {s : Supervisor} {change : Plant P → Plant P} {switched : Bool}

/-- Two ticks follow each other, both with permission while the data acquisition records, and the first one
switched on the high voltage. If the supply is left alone between them, the second one does so again exactly if
a channel without a positive level was not reported to be on before the first; otherwise it sends nothing that
switches on. -/
theorem powered_again_iff (hconfig : Config.ofText repository text = .ok config) (hs : s.config = config)
    (hx : Reached (equipment a config host endpoints) x) (hanswers : x.2.board.spiFault = false)
    (hfirst : (s.visit port x).action = .continued true switched)
    (hchange : ∀ w, (change w).supplied = w.supplied) :
    let v := (s.visit port x).after.visit port (beside change (s.visit port x).world)
    ∀ status, v.report? = some status → status.state.isPaused = false → v.after.permitted = true →
      ∃ recovered switched, v.action = .continued recovered switched ∧
        (recovered = true ↔ ∃ ch : Fin 2, (∀ level, config.default? ch = some level → ¬ 0 < level) ∧
          reportsOn (port (.plain "hv" "status") x).1 ch = false) ∧
        (v.said.map (·.command)).filter (·.OneOf powering) =
          if recovered then powerCommands config [0, 1] else [] := by
  intro v status hreport hrecording hpermitted
  have hfinite : ∀ channel level, level? config channel = some level → level.isFinite = true :=
    fun channel level hlevel => Config.isFinite_of_ofText hconfig channel level (level?_eq_some_iff.1 hlevel).1
  obtain ⟨d, w⟩ := x
  obtain ⟨subsystems, hregistry, hwritable⟩ := hx.writable
  have hbefore : Stands a config host endpoints (.of (subsystems.supply, w.board)) (d, w) :=
    ⟨⟨subsystems, hregistry, rfl⟩, hanswers⟩
  have hregular : ∀ ch, (Channel.of (subsystems.supply, w.board) ch).Regular := hwritable
  have hbetween := stands_beside hchange (stands_visit hfinite hs hbefore (.inr ⟨_, hfirst⟩))
  obtain ⟨recovered, switched', haction, hiff, hsaid⟩ :=
    recovered_iff ((visit_config port s _).trans hs) hbetween (fun ch => (hregular ch).powered) hreport hrecording hpermitted
  refine ⟨recovered, switched', haction, hiff.trans (exists_congr fun ch => ?_), hsaid⟩
  rw [Channel.off_powered, level?_eq_none_iff, (reports_of_stands hbefore hregular).2 ch]
  simp

end Plant

/-! ## Two ticks -/

namespace Config

def singleText : String :=
  "detector_id = \"g\"\n[hv.default]\n0 = 1000\n[limits.temperature]\n[autorun]\nhk_check_period_sec = 3600\n"

/-- One channel has a level, and the other has none. -/
def single : Config where
  detectorId := "g"
  repository := none
  logLevel := .info
  defaults := [(0, 1000)]
  conversion := none
  limits := none
  temperature := some {}
  autorun := { checkPeriod := 3600 }

theorem ofText_single : ofText none singleText = .ok single := by
  have haccepted : (ofText none singleText).toOption = some single := by decide +kernel
  exact toOption_eq_some_iff.1 haccepted

end Config

namespace Plant

/-- The program is recording, and the high voltage is off. -/
def runStart (config : Config) : Dispatcher (Plant Bool) × Plant Bool :=
  controller .bench config host Rig.localEndpoints bench

/-- A tick that need not ask for a reading, and the next one. -/
def firstVisit (config : Config) : Visit (Dispatcher (Plant Bool) × Plant Bool) :=
  Supervisor.visit port { config, limits := {}, permitted := true, sinceCheck := 0 } (runStart config)

def secondVisit (config : Config) : Visit (Dispatcher (Plant Bool) × Plant Bool) :=
  (firstVisit config).after.visit port (beside id (firstVisit config).world)

theorem capped_settled :
    (firstVisit .capped).action = .continued true true ∧
      ∃ recovered switched, (secondVisit .capped).action = .continued recovered switched ∧
        (recovered = true ↔ ∃ ch : Fin 2, (∀ level, Config.capped.default? ch = some level → ¬ 0 < level) ∧
          reportsOn (port (.plain "hv" "status") (runStart .capped)).1 ch = false) ∧
        ((secondVisit .capped).said.map (·.command)).filter (·.OneOf powering) =
          if recovered then powerCommands .capped [0, 1] else [] := by
  have hfirst : (firstVisit .capped).action = .continued true true := by decide +kernel
  have hreport : (secondVisit .capped).report?.map (·.state.isPaused) = some false := by decide +kernel
  have hpermitted : (secondVisit .capped).after.permitted = true := by decide +kernel
  have hanswers : (runStart .capped).2.board.spiFault = false := by decide +kernel
  obtain ⟨status, hstatus, hrecording⟩ := Option.map_eq_some_iff.1 hreport
  have hreached : Reached (equipment .bench .capped host Rig.localEndpoints) (runStart .capped) := .start bench
  unfold secondVisit firstVisit at *
  exact ⟨hfirst, powered_again_iff Config.ofText_capped rfl hreached hanswers hfirst (fun _ => rfl) status hstatus
    hrecording hpermitted⟩

/-- A channel without a level is found off at every tick, and the other one is switched on again. -/
theorem single_unsettled :
    Config.ofText none Config.singleText = .ok .single ∧ Config.single.temperature.isSome = true ∧
      Config.single.default? 0 = some 1000 ∧ (0 : Float) < 1000 ∧ Config.single.Admits 0 1000 ∧
      Reached (equipment .bench .single host Rig.localEndpoints) (runStart .single) ∧
      (runStart .single).2.board.spiFault = false ∧
      (firstVisit .single).action = .continued true true ∧
      (secondVisit .single).after.permitted = true ∧
      (secondVisit .single).report?.map (·.state.isPaused) = some false ∧
      (secondVisit .single).action = .continued true true ∧
      ((secondVisit .single).said.map (·.command)).filter (·.OneOf powering) ≠ [] := by
  have hadmits : Config.single.Admits 0 1000 := by decide +kernel
  have hanswers : (runStart .single).2.board.spiFault = false := by decide +kernel
  have hfirst : (firstVisit .single).action = .continued true true := by decide +kernel
  refine ⟨Config.ofText_single, rfl, rfl, by decide +kernel, hadmits, .start bench, hanswers, hfirst, ?_⟩
  decide +kernel

end Plant

end DetectorControl
