import DetectorControl.Proofs.Autorun.Commands
import DetectorControl.Proofs.Autorun.Course
import DetectorControl.Proofs.Autorun.Safety
import DetectorControl.Proofs.Config.Accepted
import DetectorControl.Proofs.Supply.Power

/-!
# Switching on the high voltage

When a tick switches on the high voltage, be it that a run is resumed or that a channel was found off, each
channel that has a level to be set to is enabled, and stands at the level that is read where its level is
written, if the configuration admits that; the others are left as they were (`run_powerOn`,
`powered_of_visit`).
-/

namespace DetectorControl

open Dispatcher Json

/-! ## The options of the commands -/

namespace Supervisor

def channelOptions (channel : Nat) : Options := .ofPairs [("ch", .nat channel)]

def levelOptions (channel : Nat) (level : Float) : Options :=
  .ofPairs [("ch", .nat channel), ("value_in_mV", .float level)]

end Supervisor

open Supervisor

section
variable {ch : Fin 2} {level : Float}

theorem shaped_channel (ch : Fin 2) (depth : Nat) : Shaped depth (.nat ch) := by
  refine Json.shaped_int (i := ch) ?_ ?_
  · unfold Bounds.least64
    omega
  · unfold Bounds.natural64
    omega

theorem again_channel (ch : Fin 2) : (Json.nat ch).again = .nat ch :=
  (again_eq_self_iff (shaped_channel ch 0)).2 (.int _)

theorem shaped_channelOptions (ch : Fin 2) : Shaped (depthLimit - 1) (channelOptions ch).toJson := by
  refine .object (List.pairwise_singleton ..) fun m hm => ?_
  rw [List.mem_singleton.1 hm]
  exact shaped_channel ch _

theorem get?_channelOptions (ch : Fin 2) : (channelOptions ch).again.get? "ch" = some (.nat ch) := by
  show ((some (Json.nat ch).again).filter fun v => !v.isNull) = _
  rw [again_channel]
  rfl

theorem levelOptions_map (h : level.isFinite = true) :
    (levelOptions ch level).map = [("ch", .nat ch), ("value_in_mV", .number (.float level))] := by
  have hlt : ("ch" : String) < "value_in_mV" := by decide
  have hfloat : Json.float level = .number (.float level) := if_pos h
  unfold levelOptions Options.ofPairs
  rw [hfloat]
  exact Entries.ofList_of_sorted (List.pairwise_pair.2 hlt)

theorem shaped_levelOptions (h : level.isFinite = true) : Shaped (depthLimit - 1) (levelOptions ch level).toJson := by
  have hlt : ("ch" : String) < "value_in_mV" := by decide
  unfold Options.toJson
  rw [levelOptions_map h]
  refine .object (List.pairwise_pair.2 hlt) fun m hm => ?_
  simp only [List.mem_cons, List.not_mem_nil, or_false] at hm
  rcases hm with rfl | rfl
  · exact shaped_channel ch _
  · exact .number h

theorem get?_levelOptions (h : level.isFinite = true) :
    (levelOptions ch level).again.get? "ch" = some (.nat ch) ∧
      (levelOptions ch level).again.get? "value_in_mV" = some (.number (Number.float level).again) := by
  unfold Options.again
  rw [levelOptions_map h]
  refine ⟨?_, rfl⟩
  show ((some (Json.nat ch).again).filter fun v => !v.isNull) = _
  rw [again_channel]
  rfl

end

/-! ## The commands -/

theorem SupplyVerb.parse?_name (verb : SupplyVerb) : Verb.parse? (Verb.name verb) = some verb := by
  cases verb <;> rfl

namespace Plant
variable {P : Type} {a : Acquirer P} {config : Config} {host : Host} {endpoints : Rig.Endpoints}
  {d : Dispatcher (Plant P)} {s : Subsystems} {w : Plant P}

/-- A command to the supply does what the handler does with the options that are read. -/
theorem port_handle (hd : d.registry = (equipment a config host endpoints).registry s) (verb : SupplyVerb)
    (hname : Named "hv" (Verb.name verb)) {o : Options} (ho : Shaped (depthLimit - 1) o.toJson)
    {r : Reply} {supply : Supply} {w' : Plant P}
    (h : Supply.handle (equipment a config host endpoints).supply config verb o.again s.supply w =
      ((r, supply), w')) :
    ∃ d', port ⟨.ofName "hv", Verb.name verb, o⟩ (d, w) = (received (Bytes.ofString (r.frame "hv").text), d', w') ∧
      d'.registry = (equipment a config host endpoints).registry { s with supply } := by
  have hserve : (equipment a config host endpoints).serve "hv" (Verb.name verb) o.again s w =
      ((.reply r, { s with supply }), w') := by
    have hby : serveBy (Supply.handle (equipment a config host endpoints).supply config) (Verb.name verb) o.again
        s.supply w = ((.reply r, supply), w') := by
      unfold serveBy
      simp only [SupplyVerb.parse?_name, bind, StateT.bind, h]
      rfl
    show (serveBy (Supply.handle _ config) (Verb.name verb) o.again s.supply >>= _) w = _
    simp only [bind, StateT.bind, hby]
    rfl
  obtain ⟨d', hd', hport⟩ := port_subsystem hd (c := ⟨.ofName "hv", Verb.name verb, o⟩)
    (decode_shaped hname ho) (by decide) w
  rw [hserve] at hd' hport
  exact ⟨d', hport, hd'⟩

variable (a config host endpoints) in
/-- A controller of a plant whose supply answers, and the channels as it records them and as they are. -/
structure Stands (view : Fin 2 → Channel) (x : Dispatcher (Plant P) × Plant P) : Prop where
  registry : ∃ s, x.1.registry = (equipment a config host endpoints).registry s ∧
    Channel.of (s.supply, x.2.board) = view
  answers : x.2.board.spiFault = false

variable {view : Fin 2 → Channel} {x : Dispatcher (Plant P) × Plant P}

theorem stands_of_governs (h : Governs a config host endpoints x.1) (hanswers : x.2.board.spiFault = false) :
    ∃ view, Stands a config host endpoints view x ∧ ∀ ch, (view ch).On ch x.2.board := by
  obtain ⟨s, hs⟩ := h
  exact ⟨_, ⟨⟨s, hs, rfl⟩, hanswers⟩, fun _ => ⟨rfl, rfl⟩⟩

theorem Stands.board (h : Stands a config host endpoints view x) (ch : Fin 2) : (view ch).On ch x.2.board := by
  obtain ⟨s, -, rfl⟩ := h.registry
  exact ⟨rfl, rfl⟩

/-- A command to another subsystem leaves the channels alone. -/
theorem stands_plain {target verb : String} (hname : Named target verb) (htarget : target ∈ Equipment.names)
    (hne : target ≠ "hv") (h : Stands a config host endpoints view x) :
    Stands a config host endpoints view (port (.plain target verb) x).2 := by
  obtain ⟨d, w⟩ := x
  obtain ⟨⟨s, hs, hview⟩, hanswers⟩ := h
  have hsubsystem : Target.ofName target = .subsystem target := by
    unfold Target.ofName
    refine if_neg ?_
    rintro rfl
    exact absurd htarget (by decide)
  have hdecode := decode_plain target verb hname
  rw [hsubsystem] at hdecode
  have hcommand : Command.plain target verb = ⟨.subsystem target, verb, .empty⟩ := by
    rw [Command.plain, hsubsystem]
  rw [hcommand]
  obtain ⟨d', hd', hport⟩ := port_subsystem hs hdecode htarget w
  have hsupplied := Equipment.keeps_serve (keepsApart_supplied a config host endpoints) hne verb .empty s w
  have hrecord := Equipment.serve_supply (e := equipment a config host endpoints) hne verb .empty s w
  rw [hport]
  generalize (equipment a config host endpoints).serve target verb .empty s w = result at hd' hsupplied hrecord ⊢
  obtain ⟨hlevels, houtputs, hspi⟩ := board_of_supplied_eq hsupplied
  refine ⟨⟨_, hd', ?_⟩, hspi.trans hanswers⟩
  rw [← hview]
  funext ch
  unfold Channel.of
  simp only [hrecord, hlevels, houtputs]

/-- A command to the supply turns a channel as the handler does. -/
theorem stands_handle (verb : SupplyVerb) (hname : Named "hv" (Verb.name verb)) {o : Options}
    (ho : Shaped (depthLimit - 1) o.toJson) {ch : Fin 2} {f : Channel → Channel}
    (hhandle : ∀ (s : Supply) (w : Plant P), w.board.spiFault = false →
      ∃ r s' b, Supply.handle (equipment a config host endpoints).supply config verb o.again s w =
          ((r, s'), w.putBoard b) ∧
        b.spiFault = w.board.spiFault ∧ Channel.of (s', b) = turned ch f (.of (s, w.board)))
    (h : Stands a config host endpoints view x) :
    Stands a config host endpoints (turned ch f view) (port ⟨.ofName "hv", Verb.name verb, o⟩ x).2 := by
  obtain ⟨d, w⟩ := x
  obtain ⟨⟨s, hs, rfl⟩, hanswers⟩ := h
  obtain ⟨r, supply, b, hhandle, hspi, hturned⟩ := hhandle s.supply w hanswers
  obtain ⟨d', hport, hd'⟩ := port_handle hs verb hname ho hhandle
  rw [hport]
  exact ⟨⟨_, hd', hturned⟩, hspi.trans hanswers⟩

section
variable (ch : Fin 2) {level : Float}

theorem stands_set (hlevel : level.isFinite = true) (h : Stands a config host endpoints view x) :
    Stands a config host endpoints (turned ch (.asked config ch (reread level)) view)
      (port ⟨.ofName "hv", "set", levelOptions ch level⟩ x).2 := by
  have hset : Named "hv" "set" := by decide
  have hread : (levelOptions ch level).again.get? "ch" = some (.nat ch) ∧
      (levelOptions ch level).again.get? "value_in_mV" = some (.number (Number.float level).again) :=
    get?_levelOptions hlevel
  obtain ⟨hch, hvalue⟩ := hread
  exact stands_handle .set hset (shaped_levelOptions hlevel) (fun s w hspi => handle_set hch hvalue s hspi) h

theorem stands_on (h : Stands a config host endpoints view x) :
    Stands a config host endpoints (turned ch .enabled view) (port ⟨.ofName "hv", "on", channelOptions ch⟩ x).2 := by
  have hon : Named "hv" "on" := by decide
  exact stands_handle .on hon (shaped_channelOptions ch) (fun s w _ => handle_on (get?_channelOptions ch) s w) h

/-- A channel that is powered is asked for its level and enabled. -/
theorem stands_powerChannel (hlevel : level.isFinite = true) (h : Stands a config host endpoints view x) :
    Stands a config host endpoints (turned ch (Channel.enabled ∘ .asked config ch (reread level)) view)
      ((powerChannel ch level).run port x).2.2 := by
  have hcommands : powerChannel ch level = .ask ⟨.ofName "hv", "set", levelOptions ch level⟩ fun _ =>
    .ask ⟨.ofName "hv", "on", channelOptions ch⟩ fun _ => .done () := rfl
  rw [← turned_turned, hcommands, Dialogue.world_ask, Dialogue.world_ask, Dialogue.world_done]
  exact stands_on ch (stands_set ch hlevel h)

end

end Plant

/-- The channel after the high voltage was switched on: it is powered if there is a level for it. -/
def Channel.powered (config : Config) (ch : Fin 2) (c : Channel) : Channel :=
  match level? config ch with
  | some level => (c.asked config ch (reread level)).enabled
  | none => c

namespace Plant
variable {P : Type} {a : Acquirer P} {config : Config} {host : Host} {endpoints : Rig.Endpoints}
  {view : Fin 2 → Channel} {x : Dispatcher (Plant P) × Plant P}

/-- Each channel of the list is powered, one after the other. -/
theorem stands_powerOn (hfinite : ∀ channel level, level? config channel = some level → level.isFinite = true)
    (cs : List (Fin 2)) (h : Stands a config host endpoints view x) :
    Stands a config host endpoints (cs.foldl (fun view c => turned c (.powered config c) view) view)
      ((powerOn config (cs.map Fin.val)).run port x).2.2 := by
  induction cs generalizing view x with
  | nil => exact h
  | cons c rest ih =>
    have hfirst : Stands a config host endpoints (turned c (.powered config c) view)
        ((match level? config c with
          | some level => powerChannel c level
          | none => pure ()).run port x).2.2 := by
      cases hlevel : level? config c with
      | some level =>
        have hpowered : Channel.powered config c = Channel.enabled ∘ .asked config c (reread level) := by
          funext ch
          simp only [Channel.powered, hlevel, Function.comp_apply]
        rw [hpowered]
        exact stands_powerChannel c (hfinite c level hlevel) h
      | none =>
        have hpowered : Channel.powered config c = id := by
          funext ch
          simp only [Channel.powered, hlevel, id]
        rw [hpowered, turned_id]
        exact h
    have hsplit : powerOn config ((c :: rest).map Fin.val) =
        (match level? config c with
          | some level => powerChannel c level
          | none => pure ()) >>= fun _ => powerOn config (rest.map Fin.val) := by
      rw [List.map_cons, powerOn]
      cases level? config c <;> rfl
    rw [hsplit, Dialogue.world_bind, List.foldl_cons]
    exact ih hfirst

theorem stands_powerOn_channels (hfinite : ∀ channel level, level? config channel = some level → level.isFinite = true)
    (h : Stands a config host endpoints view x) :
    Stands a config host endpoints (fun ch => (view ch).powered config ch) ((powerOn config channels).run port x).2.2 := by
  have hview : [0, 1].foldl (fun view c => turned c (.powered config c) view) view =
      fun ch => (view ch).powered config ch := by
    funext ch
    match ch with
    | 0 => rfl
    | 1 => rfl
  rw [← hview]
  exact stands_powerOn hfinite [0, 1] h

/-! ## Ticks -/

theorem stands_check {s s₁ : Supervisor} {asked : List Exchange} {x₁ : Dispatcher (Plant P) × Plant P}
    (h : Stands a config host endpoints view x) (hcheck : s.check.run port x = (s₁, asked, x₁)) :
    Stands a config host endpoints view x₁ := by
  obtain ⟨-, -, -, ⟨-, rfl, -⟩ | ⟨r, -, hread, -⟩⟩ := Supervisor.check_cases hcheck
  · exact h
  · have hname : Named "hk" "read" := by decide
    have hafter := stands_plain hname (by decide) (by decide) h
    rwa [hread] at hafter

theorem stands_told (verb : AcquisitionVerb) (hname : Named "daq" (Verb.name verb)) {r : Reply}
    {x₁ : Dispatcher (Plant P) × Plant P} (h : Stands a config host endpoints view x)
    (hport : port (.plain "daq" (Verb.name verb)) x = (r, x₁)) : Stands a config host endpoints view x₁ := by
  have hafter := stands_plain hname (by decide) (by decide) h
  rwa [hport] at hafter

theorem stands_rotate {c : Config} {status : RunStatus} {switched : Bool} {turn : List Exchange}
    {x₁ : Dispatcher (Plant P) × Plant P} (h : Stands a config host endpoints view x)
    (hrotate : (rotate c status).run port x = (switched, turn, x₁)) : Stands a config host endpoints view x₁ := by
  rcases rotate_cases hrotate with ⟨-, rfl⟩ | ⟨r, -, hswitch⟩
  · exact h
  · exact stands_told .switchOutput (by decide) h hswitch

/-- A report on the supply leaves the channels alone. -/
theorem stands_report (h : Stands a config host endpoints view x) :
    Stands a config host endpoints view (port (.plain "hv" "status") x).2 := by
  have hstatus : Named "hv" "status" := by decide
  rw [← turned_id 0 view]
  exact stands_handle .status hstatus (o := .empty) (.object .nil nofun)
    (fun s w _ => ⟨s.status, s, w.board, rfl, rfl, by rw [turned_id]⟩) h

/-- A tick that switches on the high voltage powers every channel. -/
theorem stands_visit (hfinite : ∀ channel level, level? config channel = some level → level.isFinite = true)
    {s : Supervisor} (hs : s.config = config) (h : Stands a config host endpoints view x)
    (hran : (s.visit port x).action = .resumed ∨ ∃ switched, (s.visit port x).action = .continued true switched) :
    Stands a config host endpoints (fun ch => (view ch).powered config ch) (s.visit port x).world := by
  obtain ⟨s₁, asked, x₁, r, x₂, hcheck, hstatus, hcases⟩ := Supervisor.visit_cases port s x
  have hconfig : s₁.config = config := (check_cases hcheck).1.trans hs
  have h₂ := stands_told .status (by decide) (stands_check h hcheck) hstatus
  rcases hcases with ⟨e, -, hvisit⟩ | ⟨status, action, said, after, world, -, hact, hvisit⟩
  · rw [hvisit] at hran
    obtain hresumed | ⟨switched, hcontinued⟩ := hran
    · cases hresumed
    · cases hcontinued
  · rw [hvisit] at hran ⊢
    cases hact with
    | stayPaused | suspended =>
      obtain hresumed | ⟨switched, hcontinued⟩ := hran
      · cases hresumed
      · cases hcontinued
    | resumed _ _ hpower hresume =>
      have hpowered := stands_powerOn_channels hfinite h₂
      rw [hconfig] at hpower
      rw [hpower] at hpowered
      exact stands_told .resume (by decide) hpowered hresume
    | continued _ _ hrecover hrotate =>
      obtain hresumed | ⟨switched', hcontinued⟩ := hran
      · cases hresumed
      · cases hcontinued
        rw [hconfig] at hrecover
        obtain ⟨-, hworld⟩ := run_recover hrecover
        rw [if_pos rfl] at hworld
        have hpowered := stands_powerOn_channels hfinite (stands_report h₂)
        rw [← hworld] at hpowered
        exact stands_rotate hpowered hrotate

end Plant

/-! ## Accepted configurations -/

namespace Config
variable {repository : Option String} {config : Config} {text : String}

theorem isFinite_of_ofText (h : ofText repository text = .ok config) (channel : Nat) (level : Float)
    (hlevel : config.default? channel = some level) : level.isFinite = true := by
  obtain ⟨hlow, hhigh⟩ := inRange_of_ofText h hlevel
  exact Decimal.isFinite_of_le_of_le (by decide) (by decide) hlow hhigh

/-- A level of an accepted configuration is admitted unless its voltage exceeds the limit. -/
theorem admits_iff_of_ofText (h : ofText repository text = .ok config) {channel : Nat} {level : Float}
    (hlevel : config.default? channel = some level) :
    config.Admits channel level ↔
      (config.limits.isSome = true → config.conversion.isSome = true →
        ∃ v ∈ config.voltage? channel level, v ≤ config.limit channel) := by
  obtain ⟨hlow, hhigh⟩ := inRange_of_ofText h hlevel
  rw [admits_iff]
  exact ⟨fun hadmits => hadmits.2.2.2, fun hlimit => ⟨isFinite_of_ofText h _ _ hlevel, hlow, hhigh, hlimit⟩⟩

end Config

/-- A channel of the board after the high voltage was switched on: one that has a level is enabled, and stands
at the level that is read where its level is written, if that is admitted, and as before if not. -/
structure Board.Powered (config : Config) (ch : Fin 2) (before after : Board) : Prop where
  enabled : ∀ level, config.default? ch = some level → 0 < level → after.outputs.get ch = true
  set : ∀ level, config.default? ch = some level → 0 < level → config.Admits ch (reread level) →
    after.levels.get ch = reread level
  refused : ∀ level, config.default? ch = some level → 0 < level → ¬ config.Admits ch (reread level) →
    after.levels.get ch = before.levels.get ch
  others : (∀ level, config.default? ch = some level → ¬ 0 < level) →
    after.outputs.get ch = before.outputs.get ch ∧ after.levels.get ch = before.levels.get ch

theorem Channel.On.powered {config : Config} {ch : Fin 2} {before after : Board} {c : Channel}
    (hbefore : c.On ch before) (hafter : (c.powered config ch).On ch after) : Board.Powered config ch before after := by
  obtain ⟨hlevelBefore, houtputBefore⟩ := hbefore
  obtain ⟨hlevelAfter, houtputAfter⟩ := hafter
  have hpowered {level : Float} (hdefault : config.default? ch = some level) (hpositive : 0 < level) :
      c.powered config ch = (c.asked config ch (reread level)).enabled := by
    simp only [Channel.powered, level?_eq_some_iff.2 ⟨hdefault, hpositive⟩]
  refine ⟨fun level hdefault hpositive => ?_, fun level hdefault hpositive hadmits => ?_,
    fun level hdefault hpositive hrefused => ?_, fun hnone => ?_⟩
  · rw [houtputAfter, hpowered hdefault hpositive]
    rfl
  · rw [hlevelAfter, hpowered hdefault hpositive, Channel.asked, if_pos hadmits]
    rfl
  · rw [hlevelAfter, hpowered hdefault hpositive, Channel.asked, if_neg hrefused, hlevelBefore]
    rfl
  · have hsame : c.powered config ch = c := by
      simp only [Channel.powered, level?_eq_none_iff.2 hnone]
    rw [houtputAfter, hlevelAfter, hsame]
    exact ⟨houtputBefore.symm, hlevelBefore.symm⟩

namespace Plant
variable {P : Type} {a : Acquirer P} {config : Config} {host : Host} {endpoints : Rig.Endpoints}
  {repository : Option String} {text : String} {s : Supervisor} {x : Dispatcher (Plant P) × Plant P}

/-- After a tick that switched on the high voltage the channels of the board are powered. A level that is read
as it was written is admitted unless limits and conversions are configured and its voltage exceeds the limit of its
channel. -/
theorem powered_of_visit (hconfig : Config.ofText repository text = .ok config) (hs : s.config = config)
    (hgoverns : Governs a config host endpoints x.1) (hanswers : x.2.board.spiFault = false)
    (hran : (s.visit port x).action = .resumed ∨ ∃ switched, (s.visit port x).action = .continued true switched)
    (ch : Fin 2) :
    Board.Powered config ch x.2.board (s.visit port x).world.2.board ∧
      ∀ level, config.default? ch = some level → reread level = level →
        (config.Admits ch (reread level) ↔
          (config.limits.isSome = true → config.conversion.isSome = true →
            ∃ v ∈ config.voltage? ch level, v ≤ config.limit ch)) := by
  have hfinite : ∀ channel level, level? config channel = some level → level.isFinite = true :=
    fun channel level hlevel => Config.isFinite_of_ofText hconfig channel level (level?_eq_some_iff.1 hlevel).1
  obtain ⟨view, hview, hbefore⟩ := stands_of_governs hgoverns hanswers
  refine ⟨(hbefore ch).powered ((stands_visit hfinite hs hview hran).board ch), fun level hlevel hsame => ?_⟩
  rw [hsame]
  exact Config.admits_iff_of_ofText hconfig hlevel

end Plant

/-! ## A level beyond the limit -/

deriving instance DecidableEq for TemperatureLimits
deriving instance DecidableEq for Config

namespace Config

def cappedText : String :=
  "detector_id = \"g\"\n[hv.default]\n0 = 1000\n1 = 600\n[hv.conversion]\n0 = [0.0, 1.0]\n1 = [0.0, 1.0]\n" ++
    "[limits.hv]\n0 = 700\n[limits.temperature]\n[autorun]\nhk_check_period_sec = 3600\n"

/-- The level of one channel is within the limits, and that of the other is not. -/
def capped : Config where
  detectorId := "g"
  repository := none
  logLevel := .info
  defaults := [(0, 1000), (1, 600)]
  conversion := some [(0, [0, 1]), (1, [0, 1])]
  limits := some [(0, 700)]
  temperature := some {}
  autorun := { checkPeriod := 3600 }

theorem ofText_capped : ofText none cappedText = .ok capped := by
  have haccepted : (ofText none cappedText).toOption = some capped := by decide +kernel
  exact toOption_eq_some_iff.1 haccepted

end Config

namespace Plant

/-- The program is paused. -/
def paused : Plant Bool := { bench with program := false }

def cappedStart : Dispatcher (Plant Bool) × Plant Bool := controller .bench .capped host Rig.localEndpoints paused

/-- A tick that need not ask for a reading, as there was permission at the last one. -/
def cappedVisit : Visit (Dispatcher (Plant Bool) × Plant Bool) :=
  Supervisor.visit port { config := .capped, limits := {}, permitted := true, sinceCheck := 0 } cappedStart

/-- Both channels are enabled, but only the one whose level is within the limits stands at it. -/
theorem capped_powered :
    cappedVisit.action = .resumed ∧
      ∀ ch : Fin 2, Board.Powered .capped ch cappedStart.2.board cappedVisit.world.2.board ∧
        ∀ level, Config.capped.default? ch = some level → reread level = level →
          (Config.capped.Admits ch (reread level) ↔
            (Config.capped.limits.isSome = true → Config.capped.conversion.isSome = true →
              ∃ v ∈ Config.capped.voltage? ch level, v ≤ Config.capped.limit ch)) := by
  have hresumed : cappedVisit.action = .resumed := by decide +kernel
  have hanswers : cappedStart.2.board.spiFault = false := by decide +kernel
  have hgoverns : Governs .bench .capped host Rig.localEndpoints cappedStart.1 :=
    (controller_board .bench .capped host Rig.localEndpoints (w := paused) rfl).1
  unfold cappedVisit at hresumed ⊢
  exact ⟨hresumed, powered_of_visit Config.ofText_capped rfl hgoverns hanswers (.inl hresumed)⟩

theorem unset_beyond_limit :
    Config.ofText none Config.cappedText = .ok .capped ∧ cappedStart.2.board.spiFault = false ∧
      cappedVisit.action = .resumed ∧ Config.capped.default? 0 = some 1000 ∧ (0 : Float) < 1000 ∧
      cappedVisit.world.2.board.outputs.get 0 = true ∧ cappedVisit.world.2.board.levels.get 0 ≠ 1000 := by
  refine ⟨Config.ofText_capped, ?_⟩
  decide +kernel

end Plant

end DetectorControl
