import DetectorControl.Proofs.Autorun.Actions
import DetectorControl.Proofs.Autorun.Evidence
import Mathlib.Algebra.Order.Floor.Div

/-!
# How often the sensors are read

The time since the last reading of the sensors is counted in whole periods, and a reading is due as soon as the
check period is over. So the sensors are read at the first tick and then at every `stride`-th one, whatever the
partner answers (`visit_timely`), and a run goes at every tick by a reading that is less than a check period old
(`cadence_of_history`). No sum of times that matters reaches the longest time.
-/

namespace DetectorControl

open Autorun

namespace AutorunSettings
variable {a : AutorunSettings} {k : Nat}

/-- The number of ticks from one reading of the sensors to the next. -/
def stride (a : AutorunSettings) : Nat := a.checkPeriod ⌈/⌉ a.period

structure Positive (a : AutorunSettings) : Prop extends a.Bounded where
  period_pos : 0 < a.period
  checkPeriod_pos : 0 < a.checkPeriod

theorem stride_le_iff (h : 0 < a.period) : a.stride ≤ k ↔ a.checkPeriod ≤ k * a.period := by
  rw [stride, ceilDiv_le_iff_le_mul h, Nat.mul_comm]

theorem Positive.stride_pos (h : a.Positive) : 0 < a.stride := by
  rw [← Nat.not_le, stride_le_iff h.period_pos, Nat.zero_mul, Nat.not_le]
  exact h.checkPeriod_pos

end AutorunSettings

theorem Config.positive_of_ofFile {repository : Option String} {f : ConfigFile} {config : Config}
    (hf : f.autorun.Bounded) (h : ofFile repository f = .ok config) : config.autorun.Positive := by
  obtain ⟨hautorun, -, hperiod, hcheckPeriod⟩ := of_check (check_of_ofFile h)
  rw [hautorun]
  exact ⟨hf, Nat.pos_of_ne_zero hperiod, Nat.pos_of_ne_zero hcheckPeriod⟩

namespace Autorun
variable {t t' : Nat}

theorem ofSeconds_add : ofSeconds (t + t') = ofSeconds t + ofSeconds t' := Nat.add_mul ..

theorem ofSeconds_le_iff : ofSeconds t ≤ ofSeconds t' ↔ t ≤ t' := by
  unfold ofSeconds
  omega

theorem ofSeconds_le_longestTime (h : t ≤ Bounds.natural64) : ofSeconds t ≤ longestTime :=
  Nat.le_trans (ofSeconds_le_iff.2 h) (Nat.le_add_right ..)

end Autorun

theorem succ_mod_cases (n : Nat) {c : Nat} (hc : 0 < c) :
    (n % c + 1 = c ∧ (n + 1) % c = 0) ∨ (n % c + 1 < c ∧ (n + 1) % c = n % c + 1) := by
  have hlt := Nat.mod_lt n hc
  rw [← Nat.mod_add_mod]
  rcases Nat.lt_or_eq_of_le (Nat.succ_le_of_lt hlt) with h | h
  · exact .inr ⟨h, Nat.mod_eq_of_lt h⟩
  · have hlast : n % c + 1 = c := h
    exact .inl ⟨hlast, by rw [hlast, Nat.mod_self]⟩

namespace Supervisor
variable {s : Supervisor} {n : Nat}

/-- A supervisor before the tick of the given number. -/
structure Counts (s : Supervisor) (n : Nat) : Prop where
  due : s.checkDue = true ↔ s.config.autorun.stride ∣ n
  elapsed : ¬ s.config.autorun.stride ∣ n →
    s.elapsed = ofSeconds (n % s.config.autorun.stride * s.config.autorun.period)

theorem counts_new {config : Config} (h : config.autorun.Positive) (hnew : new config = .ok s) : s.Counts 0 := by
  have hdue := ((knows_new hnew h.toBounded).1).resolve_right nofun
  exact ⟨iff_of_true hdue (Nat.dvd_zero _), fun hnot => absurd (Nat.dvd_zero _) hnot⟩

/-- A time counted so far is the time counted at the next tick, if it is not over then. -/
theorem counts_succ (h : s.config.autorun.Positive)
    (hsince : s.sinceCheck = ofSeconds (n % s.config.autorun.stride * s.config.autorun.period)) :
    s.Counts (n + 1) := by
  have hsum : s.elapsed =
      min longestTime (ofSeconds ((n % s.config.autorun.stride + 1) * s.config.autorun.period)) := by
    rw [Nat.add_mul, Nat.one_mul, ofSeconds_add, ← hsince]
    rfl
  -- a sum that is cut to the longest time is past the check period as well
  have hover : s.checkDue = true ↔ s.config.autorun.stride ≤ n % s.config.autorun.stride + 1 := by
    have hlongest := ofSeconds_le_longestTime h.checkPeriod
    rw [checkDue, decide_eq_true_eq, hsum, Nat.le_min, ofSeconds_le_iff, AutorunSettings.stride_le_iff h.period_pos]
    exact and_iff_right hlongest
  rcases succ_mod_cases n h.stride_pos with ⟨hlast, hmod⟩ | ⟨hlater, hmod⟩
  · have hdvd := Nat.dvd_of_mod_eq_zero hmod
    exact ⟨hover.trans (iff_of_true hlast.ge hdvd), fun hnot => absurd hdvd hnot⟩
  · have hnot : ¬ s.config.autorun.stride ∣ n + 1 := by
      rw [Nat.dvd_iff_mod_eq_zero, hmod]
      omega
    refine ⟨hover.trans (iff_of_false (Nat.not_le.2 hlater) hnot), fun _ => ?_⟩
    have hshort := Nat.not_le.1 (mt (AutorunSettings.stride_le_iff h.period_pos).2 (Nat.not_le.2 hlater))
    rw [hsum, hmod]
    exact Nat.min_eq_right (ofSeconds_le_longestTime (hshort.le.trans h.checkPeriod))

/-! ## A tick -/

section
variable {W : Type u} {port : Port W}

theorem Act.sinceCheck_eq {after : Supervisor} {status : RunStatus} {w world : W} {action : Action}
    {said : List Exchange} (h : Act port s status w action said after world) : after.sinceCheck = s.sinceCheck := by
  rw [h.after_eq]

theorem sinceCheck_visit {s₁ : Supervisor} {w w₁ : W} {asked : List Exchange}
    (hcheck : s.check.run port w = (s₁, asked, w₁)) : (s.visit port w).after.sinceCheck = s₁.sinceCheck := by
  obtain ⟨s₁', asked', w₁', r, w₂, hcheck', -, hcases⟩ := visit_cases port s w
  cases hcheck.symm.trans hcheck'
  rcases hcases with ⟨e, -, hvisit⟩ | ⟨status, action, said, after, world, -, hact, hvisit⟩
  · rw [hvisit]
  · rw [hvisit]
    exact hact.sinceCheck_eq

end

end Supervisor

/-- A tick that was the one of the given number. -/
structure Visit.Timely {W : Type u} (config : Config) (n : Nat) (v : Visit W) : Prop where
  /-- The sensors are read in front of everything else, or not at all. -/
  commands : v.said.map (·.command) =
    (if config.autorun.stride ∣ n then [.plain "hk" "read"] else []) ++
      .plain "daq" "status" :: v.action.commands config
  /-- The time that is counted is the time that has gone by. -/
  sinceCheck : v.after.sinceCheck = ofSeconds (n % config.autorun.stride * config.autorun.period)

theorem Visit.Timely.reads {W : Type u} {config : Config} {n : Nat} {v : Visit W} (h : v.Timely config n) :
    v.said.countP (·.command.Is "hk" "read") = if config.autorun.stride ∣ n then 1 else 0 := by
  have hcount : v.said.countP (fun x => x.command.Is "hk" "read") =
      (v.said.map (·.command)).countP (·.Is "hk" "read") := by
    rw [List.countP_map]
    rfl
  have hnone : (v.action.commands config).countP (·.Is "hk" "read") = 0 := by
    rw [List.countP_eq_zero]
    intro c hc
    have hkind := (Supervisor.kind_of_commands hc).imp (·.2) (·.2)
    simpa using Supervisor.not_read_of_kind hkind
  rw [hcount, h.commands, List.countP_append, List.countP_cons, hnone]
  split <;> rfl

namespace Supervisor
variable {s : Supervisor} {n : Nat} {W : Type u}

/-- What is permitted is what is read at the tick, and otherwise what was permitted before. -/
theorem visit_timely (h : s.Counts n) (port : Port W) (w : W) :
    (s.visit port w).Timely s.config n ∧
      (s.config.autorun.stride ∣ n → ∃ r, (s.visit port w).said.head? = some ⟨.plain "hk" "read", r⟩ ∧
        (s.visit port w).after.permitted = r.permits s.limits) ∧
      (¬ s.config.autorun.stride ∣ n → (s.visit port w).after.permitted = s.permitted) := by
  obtain ⟨s₁, asked, w₁, r, rest, hcheck, hsaid, hcommands, -, ⟨hpermitted, -⟩, -⟩ := visit_kind port s w
  have hsince := sinceCheck_visit hcheck
  by_cases hdvd : s.config.autorun.stride ∣ n
  · rw [check_due (h.due.2 hdvd)] at hcheck
    cases hcheck
    refine ⟨⟨?_, ?_⟩, fun _ => ⟨_, by rw [hsaid]; rfl, hpermitted⟩, fun hnot => absurd hdvd hnot⟩
    · rw [hsaid, if_pos hdvd, ← hcommands]
      rfl
    · rw [hsince, Nat.mod_eq_zero_of_dvd hdvd, Nat.zero_mul]
      rfl
  · rw [check_idle (mt h.due.1 hdvd)] at hcheck
    cases hcheck
    refine ⟨⟨?_, ?_⟩, fun hyes => absurd hyes hdvd, fun _ => hpermitted⟩
    · rw [hsaid, if_neg hdvd, ← hcommands]
      rfl
    · rw [hsince]
      exact h.elapsed hdvd

/-! ## A run -/

section
variable {port : Port W} {changes : List (W → W)} {w : W} {v : Visit W}

theorem history_getElem?_zero (h : (history port changes s w)[0]? = some v) : ∃ w', v = s.visit port w' := by
  cases changes with
  | nil => cases h
  | cons change rest => exact ⟨change w, (Option.some.inj h).symm⟩

theorem history_getElem?_succ (h : (history port changes s w)[n + 1]? = some v) :
    ∃ (u : Visit W) (w' : W), (history port changes s w)[n]? = some u ∧ v = u.after.visit port w' := by
  induction changes generalizing s w n with
  | nil => cases h
  | cons change rest ih =>
    rw [history_cons, List.getElem?_cons_succ] at h
    cases n with
    | zero =>
      obtain ⟨w', hv⟩ := history_getElem?_zero h
      exact ⟨_, w', rfl, hv⟩
    | succ n => exact ih h

/-- Every tick of a run is in time, and goes by the last reading of the sensors. -/
theorem history_timely (h : s.config.autorun.Positive) (hbegins : s.Counts 0)
    (hv : (history port changes s w)[n]? = some v) :
    v.Timely s.config n ∧ v.after.config = s.config ∧ v.after.limits = s.limits ∧
      ∃ u r, (history port changes s w)[n - n % s.config.autorun.stride]? = some u ∧
        u.said.head? = some ⟨.plain "hk" "read", r⟩ ∧ v.after.permitted = r.permits s.limits := by
  induction n generalizing v with
  | zero =>
    obtain ⟨w', rfl⟩ := history_getElem?_zero hv
    obtain ⟨htimely, hreads, -⟩ := visit_timely hbegins port w'
    obtain ⟨r, hr, hpermitted⟩ := hreads (Nat.dvd_zero _)
    obtain ⟨-, -, -, -, -, -, -, -, -, ⟨-, hconfig, hlimits⟩, -⟩ := visit_kind port s w'
    exact ⟨htimely, hconfig, hlimits, _, r, by rwa [Nat.zero_sub], hr, hpermitted⟩
  | succ n ih =>
    obtain ⟨u, w', hu, rfl⟩ := history_getElem?_succ hv
    obtain ⟨hlast, hconfig, hlimits, u', r', hu', hr', hpermitted'⟩ := ih hu
    obtain ⟨-, -, -, -, -, -, -, -, -, ⟨-, hconfig', hlimits'⟩, -⟩ := visit_kind port u.after w'
    have hsince := hlast.sinceCheck
    rw [← hconfig] at h hsince
    obtain ⟨htimely, hreads, hkeeps⟩ := visit_timely (counts_succ h hsince) port w'
    have hpos := h.stride_pos
    rw [hconfig] at htimely hreads hkeeps hconfig' hpos
    rw [hlimits] at hreads hlimits'
    refine ⟨htimely, hconfig', hlimits', ?_⟩
    -- either this tick reads, or the reading of the tick before still counts
    rcases succ_mod_cases n hpos with ⟨-, hmod⟩ | ⟨-, hmod⟩
    · obtain ⟨r, hr, hpermitted⟩ := hreads (Nat.dvd_of_mod_eq_zero hmod)
      exact ⟨_, r, by rwa [hmod], hr, hpermitted⟩
    · have hnot : ¬ s.config.autorun.stride ∣ n + 1 := by
        rw [Nat.dvd_iff_mod_eq_zero, hmod]
        omega
      exact ⟨u', r', by rwa [hmod, Nat.add_sub_add_right], hr', (hkeeps hnot).trans hpermitted'⟩

/-- A supervisor with any accepted times, any partner, and any changes between ticks: the sensors are read at every
tick whose number is a multiple of the check period in periods, rounded up, once and in front of everything else.
Each tick goes by a reading that is less than a check period old, and the time since then is counted exactly. -/
theorem cadence_of_history {repository : Option String} {f : ConfigFile} (hf : f.autorun.Bounded) {config : Config}
    (hconfig : Config.ofFile repository f = .ok config) (hnew : new config = .ok s)
    (hv : (history port changes s w)[n]? = some v) :
    let every := config.autorun.checkPeriod ⌈/⌉ config.autorun.period
    v.said.countP (·.command.Is "hk" "read") = (if every ∣ n then 1 else 0) ∧
      (∃ rest, v.said.map (·.command) =
        (if every ∣ n then [.plain "hk" "read"] else []) ++ .plain "daq" "status" :: rest) ∧
      (∃ m ≤ n, n - m ≤ every - 1 ∧ (n - m) * config.autorun.period < config.autorun.checkPeriod ∧
        ∃ u r, (history port changes s w)[m]? = some u ∧ u.said.head? = some ⟨.plain "hk" "read", r⟩ ∧
          v.after.permitted = r.permits s.limits ∧
          (v.action ≠ .unreachable → (v.action.Records ↔ r.permits s.limits = true))) ∧
      v.after.sinceCheck = ofSeconds (n % every * config.autorun.period) ∧ v.after.sinceCheck < longestTime := by
  intro every
  have hpositive := Config.positive_of_ofFile hf hconfig
  have hbegins := counts_new hpositive hnew
  obtain ⟨-, rfl, -⟩ := knows_new hnew hpositive.toBounded
  obtain ⟨htimely, -, -, u, r, hu, hr, hpermitted⟩ := history_timely hpositive hbegins hv
  have hlt : n % every < every := Nat.mod_lt n hpositive.stride_pos
  have hle : n % every ≤ n := Nat.mod_le ..
  have hshort : n % every * s.config.autorun.period < s.config.autorun.checkPeriod :=
    Nat.not_le.1 (mt (AutorunSettings.stride_le_iff hpositive.period_pos).2 (Nat.not_le.2 hlt))
  refine ⟨htimely.reads, ⟨_, htimely.commands⟩,
    ⟨n - n % every, Nat.sub_le .., ?_, ?_, u, r, hu, hr, hpermitted, fun hreported => ?_⟩, htimely.sinceCheck, ?_⟩
  · omega
  · rwa [Nat.sub_sub_self hle]
  · obtain ⟨s', w', rfl⟩ := visit_of_mem (List.mem_of_getElem? hv)
    rw [← hpermitted]
    exact (state_visit port s' w').2 hreported
  · rw [htimely.sinceCheck]
    exact Nat.lt_of_lt_of_le (Nat.not_le.1 (mt ofSeconds_le_iff.1 (Nat.not_le.2 hshort)))
      (ofSeconds_le_longestTime hpositive.checkPeriod)

end

/-- Ticks so far apart that two periods are longer than the longest time. -/
def rareFile : ConfigFile where
  detectorId := "rare"
  highVoltage := some ⟨none, none⟩
  limits := { temperature := some {} }
  autorun := { period := 9223372036854775808, checkPeriod := 18446744073709551615 }

def rare : Config where
  detectorId := "rare"
  repository := none
  logLevel := .info
  defaults := []
  conversion := none
  limits := none
  temperature := some {}
  autorun := { period := 9223372036854775808, checkPeriod := 18446744073709551615 }

def rareTicks : Supervisor where
  config := rare
  limits := {}

/-- Paused at every tick, and the sensors cannot be read. -/
def rareReplies : List Reply :=
  [.error "SlowADC read failed", .ok none [("daqStatus", .string "Paused")],
    .ok none [("daqStatus", .string "Paused")],
    .error "SlowADC read failed", .ok none [("daqStatus", .string "Paused")]]

theorem cadence_of_rareTicks :
    let visits := history Port.script [id, id, id] rareTicks rareReplies
    let every := rare.autorun.checkPeriod ⌈/⌉ rare.autorun.period
    rareFile.autorun.Bounded ∧ Config.ofFile none rareFile = .ok rare ∧ new rare = .ok rareTicks ∧ every = 2 ∧
      ∃ v, visits[1]? = some v ∧ v.said.countP (·.command.Is "hk" "read") = (if every ∣ 1 then 1 else 0) ∧
        v.after.sinceCheck = ofSeconds (1 % every * rare.autorun.period) ∧ v.after.sinceCheck < longestTime := by
  intro visits every
  have hbounded : rareFile.autorun.Bounded := ⟨by decide, by decide, by decide⟩
  have hconfig : Config.ofFile none rareFile = .ok rare := rfl
  have hnew : new rare = .ok rareTicks := rfl
  obtain ⟨v, hv⟩ : ∃ v, visits[1]? = some v := ⟨_, rfl⟩
  obtain ⟨hreads, -, -, hsince, hlt⟩ := cadence_of_history hbounded hconfig hnew hv
  exact ⟨hbounded, hconfig, hnew, rfl, v, hv, hreads, hsince, hlt⟩

end Supervisor

end DetectorControl
