import DetectorControl.Proofs.Autorun.History

/-!
# What follows upon a shutdown

A tick that may not go on recording pauses the data acquisition and switches off the high voltage.
As long as no permission comes, each later tick does the same again if it finds the data acquisition
still recording, and otherwise does nothing but look (`shutdown_of_history`). What the commands were
answered makes no difference: a switch-off that failed is not sent again once the data acquisition
is found paused (`shutdown_not_resent`).
-/

namespace DetectorControl

/-- Nothing is asked for but readings. -/
def OnlyLooks (said : List Exchange) : Prop :=
  ∀ x ∈ said, x.command.Is "hk" "read" ∨ x.command.Is "daq" "status"

/-- The run is stopped, after readings. -/
def Stops (said : List Exchange) : Prop :=
  ∃ looks r₁ r₂, OnlyLooks looks ∧
    said = looks ++ [⟨.plain "daq" "pause", r₁⟩, ⟨.plain "hv" "off_all", r₂⟩]

namespace Supervisor
variable {W : Type u} {port : Port W}

theorem onlyLooks_of_check {s s₁ : Supervisor} {w w₁ : W} {asked : List Exchange}
    (h : s.check.run port w = (s₁, asked, w₁)) (r : Reply) :
    OnlyLooks (asked ++ [⟨.plain "daq" "status", r⟩]) := by
  have hread : (Command.plain "hk" "read").Is "hk" "read" := Command.plain_is ..
  have hstatus : (Command.plain "daq" "status").Is "daq" "status" := Command.plain_is ..
  obtain ⟨-, -, -, ⟨rfl, -⟩ | ⟨r', rfl, -⟩⟩ := check_cases h
  · intro x hx
    rw [List.nil_append, List.mem_singleton] at hx
    exact .inr (hx ▸ hstatus)
  · intro x hx
    simp only [List.cons_append, List.nil_append, List.mem_cons, List.not_mem_nil, or_false] at hx
    rcases hx with rfl | rfl
    · exact .inl hread
    · exact .inr hstatus

theorem stops_or_looks {s : Supervisor} {w : W} (hdenied : (s.visit port w).after.permitted = false) :
    (∃ status, (s.visit port w).report? = some status ∧ status.state.isPaused = false ∧
      Stops (s.visit port w).said) ∨
    (∀ status, (s.visit port w).report? = some status → status.state.isPaused = true) ∧
      OnlyLooks (s.visit port w).said := by
  obtain ⟨s₁, asked, w₁, r, w₂, hcheck, -, hcases⟩ := visit_cases port s w
  have hlooks := onlyLooks_of_check hcheck r
  rcases hcases with ⟨e, hdecode, hvisit⟩ | ⟨status, action, said, after, world, hdecode, hact, hvisit⟩
  · have hreport := report?_visit hcheck (by rw [hvisit])
    refine .inr ⟨fun status hstatus => ?_, ?_⟩
    · rw [hreport, hdecode] at hstatus
      cases hstatus
    · rw [hvisit]
      exact hlooks
  · have hreport := report?_visit hcheck (by rw [hvisit])
    rw [hdecode] at hreport
    rw [hvisit] at hdenied
    cases hact with
    | stayPaused hpaused =>
      refine .inr ⟨fun status' hstatus => ?_, ?_⟩
      · rw [hreport] at hstatus
        cases hstatus
        exact hpaused
      · rw [hvisit]
        exact hlooks
    | resumed _ hpermitted => cases hpermitted.symm.trans hdenied
    | continued _ hpermitted => cases hpermitted.symm.trans hdenied
    | suspended hrecording =>
      rename_i r₁ r₂ _ _ _ _
      refine .inl ⟨status, hreport, hrecording, asked ++ [⟨.plain "daq" "status", r⟩], r₁, r₂, hlooks, ?_⟩
      rw [hvisit, List.append_assoc]
      rfl

theorem suspended_visit {s : Supervisor} {w : W} (hs : s.state = .suspended)
    (hdenied : (s.visit port w).after.permitted = false) :
    (s.visit port w).after.state = .suspended := by
  obtain ⟨s₁, asked, w₁, r, w₂, hcheck, -, hcases⟩ := visit_cases port s w
  obtain ⟨-, -, hs₁, -⟩ := check_cases hcheck
  rcases hcases with ⟨e, -, hvisit⟩ | ⟨status, action, said, after, world, -, hact, hvisit⟩
  · rw [hvisit]
    exact hs₁.trans hs
  · rw [hvisit] at hdenied ⊢
    cases hact with
    | stayPaused =>
      show s₁.stayPaused.state = _
      rw [stayPaused, if_pos (hs₁.trans hs)]
      exact hs₁.trans hs
    | resumed _ hpermitted => cases hpermitted.symm.trans hdenied
    | continued _ hpermitted => cases hpermitted.symm.trans hdenied
    | suspended => rfl

theorem suspended_of_action {s : Supervisor} {w : W} (h : (s.visit port w).action = .suspended) :
    (s.visit port w).after.state = .suspended := by
  obtain ⟨s₁, asked, w₁, r, w₂, -, -, hcases⟩ := visit_cases port s w
  rcases hcases with ⟨e, -, hvisit⟩ | ⟨status, action, said, after, world, -, hact, hvisit⟩
  · rw [hvisit] at h
    cases h
  · rw [hvisit] at h ⊢
    cases hact with
    | suspended => rfl
    | stayPaused => cases h
    | resumed => cases h
    | continued => cases h

/-- Until permission comes, the ticks of a run that begins suspended are those of a suspended one. -/
theorem suspended_of_history {changes : List (W → W)} {s : Supervisor} {w : W}
    {mid rest : List (Visit W)} {u : Visit W} (hs : s.state = .suspended)
    (hrun : history port changes s w = mid ++ u :: rest)
    (hmid : ∀ x ∈ mid, x.after.permitted = false) :
    ∃ (s' : Supervisor) (w' : W), s'.state = .suspended ∧ u = s'.visit port w' := by
  induction mid generalizing changes s w with
  | nil =>
    obtain ⟨w', -, hu, -⟩ := history_eq_cons hrun
    exact ⟨s, w', hs, hu⟩
  | cons x mid ih =>
    obtain ⟨w', changes', hx, hlater⟩ := history_eq_cons hrun
    have hdenied := hmid x (by simp)
    refine ih ?_ hlater.symm fun y hy => hmid y (by simp [hy])
    rw [hx] at hdenied ⊢
    exact suspended_visit hs hdenied

/-- After a tick that has suspended the run, whatever its commands were answered, and as long as
permission is denied: the run stays suspended, and each tick stops it again if it finds the data
acquisition recording, and otherwise only looks. -/
theorem shutdown_of_history {changes : List (W → W)} {s : Supervisor} {w : W}
    {front mid rest : List (Visit W)} {v u : Visit W}
    (hrun : history port changes s w = front ++ v :: (mid ++ u :: rest))
    (hv : v.action = .suspended) (hdenied : ∀ x ∈ mid ++ [u], x.after.permitted = false) :
    u.after.state = .suspended ∧
      ((∃ status, u.report? = some status ∧ status.state.isPaused = false ∧ Stops u.said) ∨
        (∀ status, u.report? = some status → status.state.isPaused = true) ∧ OnlyLooks u.said) := by
  obtain ⟨changes', s', w', hlater⟩ := history_eq_append hrun
  obtain ⟨w'', changes'', hvisit, hlater⟩ := history_eq_cons hlater.symm
  have hstate : v.after.state = .suspended := by
    rw [hvisit] at hv ⊢
    exact suspended_of_action hv
  obtain ⟨s₁, w₁, hs₁, hu⟩ := suspended_of_history hstate hlater.symm
    fun x hx => hdenied x (by simp [hx])
  have hu' := hdenied u (by simp)
  rw [hu] at hu' ⊢
  exact ⟨suspended_visit hs₁ hu', stops_or_looks hu'⟩

end Supervisor

/-- A partner that answers by a list, and with errors when the list is at its end. -/
def Port.script : Port (List Reply) :=
  fun _ replies => (replies.headD (.error ""), replies.tail)

namespace Supervisor

/-- The sensors cannot be read while the data acquisition records, and neither command is carried out. The next
tick finds the data acquisition still recording and pauses it; the one behind it finds it paused, and the sensors
still out of reach. -/
def repeatedShutdown : List Reply :=
  [.error "SlowADC read failed", .ok none [("daqStatus", .string "Running")], .error "no connection",
    .error "no connection", .ok none [("daqStatus", .string "Running")], .done, .error "no connection",
    .error "SlowADC read failed", .ok none [("daqStatus", .string "Paused")]]

theorem shutdown_of_repeatedShutdown :
    let v := bench.visit Port.script repeatedShutdown
    let u := v.after.visit Port.script v.world
    let u' := u.after.visit Port.script u.world
    v.action = .suspended ∧ u.after.permitted = false ∧ u'.after.permitted = false ∧
      u.after.state = .suspended ∧ Stops u.said ∧ u'.after.state = .suspended ∧ OnlyLooks u'.said := by
  intro v u u'
  have hv : v.action = .suspended := by decide +kernel
  have hu : u.after.permitted = false := by decide +kernel
  have hu' : u'.after.permitted = false := by decide +kernel
  have hrun : history Port.script [id, id, id] bench repeatedShutdown = [] ++ v :: ([] ++ u :: [u']) := rfl
  have hrun' : history Port.script [id, id, id] bench repeatedShutdown = [] ++ v :: ([u] ++ u' :: []) := rfl
  have hrecording : u.report?.map (·.state.isPaused) = some false := by decide +kernel
  have hpaused : u'.report?.map (·.state.isPaused) = some true := by decide +kernel
  obtain ⟨hstate, hsaid⟩ := shutdown_of_history hrun hv (List.forall_mem_singleton.2 hu)
  obtain ⟨hstate', hsaid'⟩ :=
    shutdown_of_history hrun' hv (List.forall_mem_cons.2 ⟨hu, List.forall_mem_singleton.2 hu'⟩)
  have hstops : Stops u.said := by
    rcases hsaid with ⟨_, _, _, hstops⟩ | ⟨hpaused, -⟩
    · exact hstops
    · obtain ⟨status, hreport, hstatus⟩ := Option.map_eq_some_iff.1 hrecording
      exact absurd ((hpaused status hreport).symm.trans hstatus) nofun
  have hlooks : OnlyLooks u'.said := by
    rcases hsaid' with ⟨status, hreport, hrecording, -⟩ | ⟨-, hlooks⟩
    · rw [hreport] at hpaused
      exact absurd (hrecording.symm.trans (Option.some.inj hpaused)) nofun
    · exact hlooks
  exact ⟨hv, hu, hu', hstate, hstops, hstate', hlooks⟩

/-- The sensors cannot be read while the data acquisition records; it is paused, but the high voltage
cannot be switched off. The next tick finds the data acquisition paused. -/
def failedShutdown : List Reply :=
  [.error "SlowADC read failed", .ok none [("daqStatus", .string "Running")], .done,
    .error "no connection", .ok none [("daqStatus", .string "Paused")]]

/-- The tick after a shutdown of which the switching off has failed does not send it again, though
permission is still denied. -/
theorem shutdown_not_resent :
    let v := bench.visit Port.script failedShutdown
    let u := v.after.visit Port.script v.world
    v.action = .suspended ∧ v.said.getLast?.map (·.reply.isOk) = some false ∧
      u.report?.map (·.state) = some .paused ∧ u.after.permitted = false ∧
      u.said.map (·.command.verb) = ["status"] := by
  decide +kernel

end Supervisor

end DetectorControl
