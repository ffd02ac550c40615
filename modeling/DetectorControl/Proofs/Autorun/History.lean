import DetectorControl.Autorun.Supervisor
import DetectorControl.Proofs.Basic

/-!
# What a tick can do

`Supervisor.visit` is one tick against a port, with all that is known of it once it is over, and
`Supervisor.history` is a run of ticks between which the world may change. `visit_cases` takes a tick
apart: it may look at the sensors (`check_cases`), asks for the state of the data acquisition, and
acts on a usable answer in one of the four ways of `Act`. No proof about runs opens `tick` again.
-/

namespace DetectorControl

/-- A command without options. -/
def Command.plain (target verb : String) : Command := ⟨.ofName target, verb, .empty⟩

/-- Whether a command is the named one, whatever its options are. -/
def Command.Is (c : Command) (target verb : String) : Prop :=
  c.target = .ofName target ∧ c.verb = verb

instance (c : Command) (target verb : String) : Decidable (c.Is target verb) :=
  inferInstanceAs (Decidable (_ ∧ _))

theorem Command.plain_is (target verb : String) : (plain target verb).Is target verb := ⟨rfl, rfl⟩

/-- A tick that is over: what it did, what was said, and the supervisor and the world after it. -/
structure Visit (W : Type u) where
  action : Autorun.Action
  said : List Exchange
  after : Supervisor
  world : W

/-- What a tick got to know about the data acquisition. -/
def Visit.report? {W : Type u} (v : Visit W) : Option RunStatus :=
  (v.said.find? fun x => x.command.Is "daq" "status").bind fun x =>
    (x.reply.decode RunStatus.ofTree?).toOption

theorem Dialogue.run_bind_ask {W : Type u} {α β : Type} {port : Port W} {d : Dialogue α} {c : Command}
    {next : α → Reply → Dialogue β} {w w₁ w₂ w₃ : W} {a : α} {b : β} {r : Reply}
    {said said' : List Exchange} (hd : d.run port w = (a, said, w₁)) (hc : port c w₁ = (r, w₂))
    (hnext : (next a r).run port w₂ = (b, said', w₃)) :
    (d >>= fun a => .ask c (next a)).run port w = (b, said ++ ⟨c, r⟩ :: said', w₃) := by
  simp only [run_bind, hd, run, hc, hnext]

namespace Supervisor

/-- A new supervisor with the bench configuration. -/
def bench : Supervisor := { config := .bench, limits := {} }

section
variable {W : Type u} (port : Port W)

def visit (s : Supervisor) (w : W) : Visit W :=
  let result := s.tick.run port w
  ⟨result.1.1, result.2.1, result.1.2, result.2.2⟩

/-- A run of ticks, before each of which the world changes. -/
def history : (changes : List (W → W)) → Supervisor → W → List (Visit W)
  | [], _, _ => []
  | change :: rest, s, w =>
    let v := s.visit port (change w)
    v :: history rest v.after v.world

/-- The ways to act on a report: what is done and said, and the supervisor and the world after it. -/
inductive Act (s : Supervisor) (status : RunStatus) (w : W) :
    Autorun.Action → List Exchange → Supervisor → W → Prop
  | stayPaused (hpaused : status.state.isPaused = true) (hdenied : s.permitted = false) :
    Act s status w .stayPaused [] s.stayPaused w
  | resumed {power : List Exchange} {r : Reply} {w₁ w₂ : W}
    (hpaused : status.state.isPaused = true) (hpermitted : s.permitted = true)
    (hpower : (powerOn s.config channels).run port w = ((), power, w₁))
    (hresume : port (.plain "daq" "resume") w₁ = (r, w₂)) :
    Act s status w .resumed (power ++ [⟨.plain "daq" "resume", r⟩]) { s with state := .active } w₂
  | continued {recovered switched : Bool} {power turn : List Exchange} {w₁ w₂ : W}
    (hrecording : status.state.isPaused = false) (hpermitted : s.permitted = true)
    (hrecover : (recover s.config).run port w = (recovered, power, w₁))
    (hrotate : (rotate s.config status).run port w₁ = (switched, turn, w₂)) :
    Act s status w (.continued recovered switched) (power ++ turn) { s with state := .active } w₂
  | suspended {r₁ r₂ : Reply} {w₁ w₂ : W}
    (hrecording : status.state.isPaused = false) (hdenied : s.permitted = false)
    (hpause : port (.plain "daq" "pause") w = (r₁, w₁))
    (hoff : port (.plain "hv" "off_all") w₁ = (r₂, w₂)) :
    Act s status w .suspended [⟨.plain "daq" "pause", r₁⟩, ⟨.plain "hv" "off_all", r₂⟩]
      { s with state := .suspended } w₂

variable {port}

theorem run_resume (s : Supervisor) (w : W) :
    s.resume.run port w =
      match (powerOn s.config channels).run port w with
      | ((), power, w₁) =>
        match port (.plain "daq" "resume") w₁ with
        | (r, w₂) =>
          ((.resumed, { s with state := .active }), power ++ [⟨.plain "daq" "resume", r⟩], w₂) := by
  unfold resume
  rw [Dialogue.run_bind]
  rfl

theorem run_proceed (s : Supervisor) (status : RunStatus) (w : W) :
    (s.proceed status).run port w =
      match (recover s.config).run port w with
      | (recovered, power, w₁) =>
        match (rotate s.config status).run port w₁ with
        | (switched, turn, w₂) =>
          ((.continued recovered switched, { s with state := .active }), power ++ turn, w₂) := by
  unfold proceed
  rw [Dialogue.run_bind]
  simp only [Dialogue.run_bind, Dialogue.pure_eq, Dialogue.run, List.append_nil]

theorem act_cases (port : Port W) (s : Supervisor) (status : RunStatus) (w : W) :
    ∃ action said after world, (s.act status).run port w = ((action, after), said, world) ∧
      Act port s status w action said after world := by
  cases hstate : status.state.isPaused <;> cases hpermitted : s.permitted <;>
    simp only [act, hstate, hpermitted]
  · exact ⟨_, _, _, _, rfl, .suspended hstate hpermitted rfl rfl⟩
  · exact ⟨_, _, _, _, run_proceed s status w, .continued hstate hpermitted rfl rfl⟩
  · exact ⟨_, _, _, _, rfl, .stayPaused hstate hpermitted⟩
  · exact ⟨_, _, _, _, run_resume s w, .resumed hstate hpermitted rfl rfl⟩

theorem check_due {s : Supervisor} (h : s.checkDue = true) :
    s.check = .ask (.plain "hk" "read") fun r =>
      .done { s with sinceCheck := 0, permitted := r.permits s.limits } := by
  unfold check
  rw [if_pos h]
  rfl

theorem check_idle {s : Supervisor} (h : ¬ s.checkDue = true) :
    s.check = .done { s with sinceCheck := s.elapsed } := by
  unfold check
  rw [if_neg h]
  rfl

/-- In front of a tick there is a reading of the sensors, or nothing. -/
theorem check_cases {s s₁ : Supervisor} {w w₁ : W} {asked : List Exchange}
    (h : s.check.run port w = (s₁, asked, w₁)) :
    s₁.config = s.config ∧ s₁.limits = s.limits ∧ s₁.state = s.state ∧
      ((asked = [] ∧ w₁ = w ∧ s₁.permitted = s.permitted) ∨
        ∃ r, asked = [⟨.plain "hk" "read", r⟩] ∧ port (.plain "hk" "read") w = (r, w₁) ∧
          s₁.permitted = r.permits s.limits) := by
  by_cases hdue : s.checkDue = true
  · rw [check_due hdue] at h
    cases h
    exact ⟨rfl, rfl, rfl, .inr ⟨_, rfl, rfl, rfl⟩⟩
  · rw [check_idle hdue] at h
    cases h
    exact ⟨rfl, rfl, rfl, .inl ⟨rfl, rfl, rfl⟩⟩

/-- A new output file is begun, or nothing happens. -/
theorem rotate_cases {c : Config} {status : RunStatus} {switched : Bool} {w w₁ : W} {turn : List Exchange}
    (h : (rotate c status).run port w = (switched, turn, w₁)) :
    (turn = [] ∧ w₁ = w) ∨
      ∃ r, turn = [⟨.plain "daq" "switch_output", r⟩] ∧ port (.plain "daq" "switch_output") w = (r, w₁) := by
  unfold rotate at h
  split at h
  · cases h
    exact .inr ⟨_, rfl, rfl⟩
  · cases h
    exact .inl ⟨rfl, rfl⟩

/-- What follows upon the answer of the data acquisition. -/
def answered (s : Supervisor) (r : Reply) : Dialogue (Autorun.Action × Supervisor) :=
  match r.decode RunStatus.ofTree? with
  | .ok status => s.act status
  | .error _ => .done (.unreachable, s)

theorem tick_eq (s : Supervisor) :
    s.tick = s.check >>= fun s₁ => .ask (.plain "daq" "status") s₁.answered := by
  unfold tick
  exact congrArg (s.check >>= ·) (funext fun _ => rfl)

theorem run_tick {s s₁ : Supervisor} {w w₁ w₂ w₃ : W} {asked said : List Exchange} {r : Reply}
    {result : Autorun.Action × Supervisor} (hcheck : s.check.run port w = (s₁, asked, w₁))
    (hstatus : port (.plain "daq" "status") w₁ = (r, w₂))
    (hanswered : (s₁.answered r).run port w₂ = (result, said, w₃)) :
    s.tick.run port w = (result, asked ++ ⟨.plain "daq" "status", r⟩ :: said, w₃) := by
  rw [tick_eq]
  exact Dialogue.run_bind_ask hcheck hstatus hanswered

theorem visit_eq {s after : Supervisor} {w world : W} {action : Autorun.Action} {said : List Exchange}
    (h : s.tick.run port w = ((action, after), said, world)) :
    s.visit port w = ⟨action, said, after, world⟩ := by
  rw [visit, h]

/-- A tick looks at the sensors or not, asks for the state of the data acquisition, and acts on the
answer if it is one. -/
theorem visit_cases (port : Port W) (s : Supervisor) (w : W) :
    ∃ s₁ asked w₁ r w₂, s.check.run port w = (s₁, asked, w₁) ∧
      port (.plain "daq" "status") w₁ = (r, w₂) ∧
      ((∃ e, r.decode RunStatus.ofTree? = .error e ∧
        s.visit port w = ⟨.unreachable, asked ++ [⟨.plain "daq" "status", r⟩], s₁, w₂⟩) ∨
      ∃ status action said after world, r.decode RunStatus.ofTree? = .ok status ∧
        Act port s₁ status w₂ action said after world ∧
        s.visit port w = ⟨action, asked ++ ⟨.plain "daq" "status", r⟩ :: said, after, world⟩) := by
  obtain ⟨⟨s₁, asked, w₁⟩, hcheck⟩ : ∃ checked, s.check.run port w = checked := ⟨_, rfl⟩
  obtain ⟨⟨r, w₂⟩, hr⟩ : ∃ answer, port (.plain "daq" "status") w₁ = answer := ⟨_, rfl⟩
  refine ⟨s₁, asked, w₁, r, w₂, hcheck, hr, ?_⟩
  cases hdecode : r.decode RunStatus.ofTree? with
  | error e =>
    have hanswered : s₁.answered r = .done (.unreachable, s₁) := by rw [answered, hdecode]
    have hrun : (s₁.answered r).run port w₂ = ((.unreachable, s₁), [], w₂) := by rw [hanswered]; rfl
    exact .inl ⟨e, rfl, visit_eq (run_tick hcheck hr hrun)⟩
  | ok status =>
    have hanswered : s₁.answered r = s₁.act status := by rw [answered, hdecode]
    obtain ⟨action, said, after, world, hact, hcases⟩ := act_cases port s₁ status w₂
    have hrun : (s₁.answered r).run port w₂ = ((action, after), said, world) := by
      rw [hanswered, hact]
    exact .inr ⟨status, action, said, after, world, rfl, hcases, visit_eq (run_tick hcheck hr hrun)⟩

theorem report?_visit {s s₁ : Supervisor} {w w₁ : W} {asked said : List Exchange} {r : Reply}
    (hcheck : s.check.run port w = (s₁, asked, w₁))
    (hsaid : (s.visit port w).said = asked ++ ⟨.plain "daq" "status", r⟩ :: said) :
    (s.visit port w).report? = (r.decode RunStatus.ofTree?).toOption := by
  have hstatus : (Command.plain "daq" "status").Is "daq" "status" := Command.plain_is ..
  have hread : ¬ (Command.plain "hk" "read").Is "daq" "status" := by decide
  unfold Visit.report?
  obtain ⟨-, -, -, ⟨rfl, -⟩ | ⟨r', rfl, -⟩⟩ := check_cases hcheck
  · rw [hsaid, List.nil_append, List.find?_cons, decide_eq_true hstatus]
    rfl
  · rw [hsaid, List.cons_append, List.nil_append, List.find?_cons, decide_eq_false hread,
      List.find?_cons, decide_eq_true hstatus]
    rfl

/-! ## Runs -/

theorem history_eq_cons {changes : List (W → W)} {s : Supervisor} {w : W} {v : Visit W}
    {later : List (Visit W)} (h : history port changes s w = v :: later) :
    ∃ w' changes', v = s.visit port w' ∧ later = history port changes' v.after v.world := by
  cases changes with
  | nil => cases h
  | cons change rest =>
    obtain ⟨rfl, rfl⟩ := List.cons.inj h
    exact ⟨change w, rest, rfl, rfl⟩

theorem history_eq_append {changes : List (W → W)} {s : Supervisor} {w : W}
    {front later : List (Visit W)} (h : history port changes s w = front ++ later) :
    ∃ changes' s' w', later = history port changes' s' w' := by
  induction front generalizing changes s w with
  | nil => exact ⟨changes, s, w, h.symm⟩
  | cons v front ih =>
    obtain ⟨-, changes', -, hlater⟩ := history_eq_cons h
    exact ih hlater.symm

end

end Supervisor

end DetectorControl
