import DetectorControl.Proofs.Autorun.Commands

/-!
# The supervised plant is safe

A plant is `Guarded` while its supply answers and is off whenever nothing is recorded. A new
controller brings that about, and so does each tick of the supervisor; besides, a tick leaves the
data acquisition recording exactly if there is permission, and pauses it exactly if it was recording
and there is none (`visit_guarded`). A run of ticks, between which all else may change, then keeps
the plant safe and pauses the data acquisition once for each loss of permission (`safety_of_history`).
-/

namespace DetectorControl

open Dispatcher

/-- Where a list of truth values falls from true to false. -/
def falls : List Bool → Nat
  | [] => 0
  | b :: rest => falls rest + if b = true ∧ rest.head? = some false then 1 else 0

/-- Each pause is followed by switching off the high voltage. -/
def PausesFollowed : List Exchange → Prop
  | [] => True
  | x :: rest => (x.command.Is "daq" "pause" → ∃ y rest', rest = y :: rest' ∧ y.command.Is "hv" "off_all") ∧
      PausesFollowed rest

/-- How often the data acquisition is paused. -/
def pauses (said : List Exchange) : Nat := said.countP fun x => x.command.Is "daq" "pause"

/-- Nothing is paused. -/
def Lets (said : List Exchange) : Prop := ∀ x ∈ said, ¬ x.command.Is "daq" "pause"

section
variable {said said' : List Exchange}

theorem Lets.append (h : Lets said) (h' : Lets said') : Lets (said ++ said') := by
  intro x hx
  rcases List.mem_append.1 hx with hx | hx
  · exact h x hx
  · exact h' x hx

theorem Lets.pauses_eq (h : Lets said) : pauses said = 0 := by
  rw [pauses, List.countP_eq_zero]
  exact fun x hx hpause => h x hx (of_decide_eq_true hpause)

theorem Lets.followed (h : Lets said) : PausesFollowed said := by
  induction said with
  | nil => trivial
  | cons x rest ih => exact ⟨fun hx => absurd hx (h x (by simp)), ih fun y hy => h y (by simp [hy])⟩

theorem PausesFollowed.append (h : PausesFollowed said) (h' : PausesFollowed said') :
    PausesFollowed (said ++ said') := by
  induction said with
  | nil => exact h'
  | cons x rest ih =>
    refine ⟨fun hx => ?_, ih h.2⟩
    obtain ⟨y, rest', rfl, hy⟩ := h.1 hx
    exact ⟨y, rest' ++ said', rfl, hy⟩

theorem PausesFollowed.next (h : PausesFollowed said) {front rest : List Exchange} {x : Exchange}
    (hsaid : said = front ++ x :: rest) (hx : x.command.Is "daq" "pause") :
    ∃ y rest', rest = y :: rest' ∧ y.command.Is "hv" "off_all" := by
  induction front generalizing said with
  | nil =>
    subst hsaid
    exact h.1 hx
  | cons y front ih =>
    subst hsaid
    exact ih h.2 rfl

/-- A pause at the end of what is said, and the switching off behind it. -/
theorem followed_pause (h : Lets said) (r₁ r₂ : Reply) :
    pauses (said ++ [⟨.plain "daq" "pause", r₁⟩, ⟨.plain "hv" "off_all", r₂⟩]) = 1 ∧
      PausesFollowed (said ++ [⟨.plain "daq" "pause", r₁⟩, ⟨.plain "hv" "off_all", r₂⟩]) := by
  have hoff : ¬ (Command.plain "hv" "off_all").Is "daq" "pause" := by decide
  refine ⟨?_, h.followed.append ⟨fun _ => ⟨_, _, rfl, Command.plain_is ..⟩, fun hx => absurd hx hoff, trivial⟩⟩
  rw [pauses, List.countP_append]
  have hsaid := h.pauses_eq
  rw [pauses] at hsaid
  rw [hsaid]
  rfl

end

namespace Plant
variable {P : Type} (a : Acquirer P) (config : Config) (host : Host) (endpoints : Rig.Endpoints)

/-- The supply answers, and it is off whenever nothing is recorded. -/
structure Guarded (w : Plant P) : Prop where
  answers : w.board.spiFault = false
  off : a.recording w.program = false → w.SwitchedOff

/-- A change that touches neither the supply nor the state of the data acquisition. -/
structure Apart (change : Plant P → Plant P) : Prop where
  supplied : ∀ w, (change w).supplied = w.supplied
  recording : ∀ w, a.recording (change w).program = a.recording w.program

variable {a} {config} {host} {endpoints}

/-- What looks at no more than what is guarded. -/
theorem Guarded.congr {w w' : Plant P} (hsupplied : w'.supplied = w.supplied)
    (hrecording : a.recording w'.program = a.recording w.program) (h : Guarded a w) : Guarded a w' := by
  obtain ⟨hlevels, houtputs, hspi⟩ := board_of_supplied_eq hsupplied
  refine ⟨hspi.trans h.answers, fun hpaused ch => ?_⟩
  have hoff := h.off (hrecording.symm.trans hpaused) ch
  unfold Board.IsOff at hoff ⊢
  rw [hlevels, houtputs]
  exact hoff

/-- While something is recorded the supply may be anything. -/
theorem guarded_of_recording {w : Plant P} (hspi : w.board.spiFault = false)
    (hrecording : a.recording w.program = true) : Guarded a w :=
  ⟨hspi, fun hpaused => absurd (hpaused.symm.trans hrecording) nofun⟩

/-- A controller with its plant, whose program records or not. -/
structure Held (a : Acquirer P) (config : Config) (host : Host) (endpoints : Rig.Endpoints)
    (recording : Bool) (x : Dispatcher (Plant P) × Plant P) : Prop where
  governs : Governs a config host endpoints x.1
  guarded : Guarded a x.2
  recording : a.recording x.2.program = recording

theorem held_check {s s₁ : Supervisor} {x x₁ : Dispatcher (Plant P) × Plant P} {asked : List Exchange}
    {recording : Bool} (h : Held a config host endpoints recording x)
    (hcheck : s.check.run port x = (s₁, asked, x₁)) :
    Held a config host endpoints recording x₁ ∧ Lets asked := by
  obtain ⟨-, -, -, ⟨rfl, rfl, -⟩ | ⟨r, rfl, hread, -⟩⟩ := Supervisor.check_cases hcheck
  · exact ⟨h, nofun⟩
  · obtain ⟨d, w⟩ := x
    obtain ⟨r', d', w', hport, hd', hsupplied, hprogram⟩ := port_read h.governs w
    cases hread.symm.trans hport
    have hread : ¬ (Command.plain "hk" "read").Is "daq" "pause" := by decide
    refine ⟨⟨hd', h.guarded.congr hsupplied (congrArg _ hprogram), (congrArg _ hprogram).trans h.recording⟩, ?_⟩
    intro y hy
    rw [List.mem_singleton.1 hy]
    exact hread

theorem held_status (ha : a.Obeys) {x x₁ : Dispatcher (Plant P) × Plant P} {r : Reply}
    {recording : Bool} (h : Held a config host endpoints recording x)
    (hstatus : port (.plain "daq" "status") x = (r, x₁)) :
    Held a config host endpoints recording x₁ ∧
      ∃ status, r.decode RunStatus.ofTree? = .ok status ∧ status.state.isPaused = !recording := by
  obtain ⟨d, w⟩ := x
  obtain ⟨r', d', status, hport, hd', hdecode, hpaused⟩ := port_status ha h.governs w
  cases hstatus.symm.trans hport
  have hasked : a.recording (w.after a (Acquirer.request .status)).program = a.recording w.program :=
    ha.asked w.program
  refine ⟨⟨hd', h.guarded.congr (w := w) rfl hasked, hasked.trans h.recording⟩, status, hdecode, ?_⟩
  rw [hpaused]
  exact congrArg _ h.recording

/-- Commands to the supply while something is recorded. -/
theorem held_supply {α : Type} {dialogue : Dialogue α} (hasks : dialogue.Asks Supervisor.ToSupply)
    {x : Dispatcher (Plant P) × Plant P} (h : Governs a config host endpoints x.1) :
    Governs a config host endpoints (dialogue.run port x).2.2.1 ∧
      (dialogue.run port x).2.2.2.companions = x.2.companions ∧ Lets (dialogue.run port x).2.1 := by
  have hport : ∀ c y, Supervisor.ToSupply c →
      (Governs a config host endpoints y.1 ∧ y.2.companions = x.2.companions) →
      Governs a config host endpoints (port c y).2.1 ∧ (port c y).2.2.companions = x.2.companions := by
    rintro c ⟨d, w⟩ hc ⟨hd, hkept⟩
    obtain ⟨r, d', w', hport, hd', hkept'⟩ := port_supply hd hc w
    rw [hport]
    exact ⟨hd', hkept'.trans hkept⟩
  obtain ⟨⟨hd, hkept⟩, hsaid⟩ := hasks.run hport ⟨h, rfl⟩
  refine ⟨hd, hkept, fun y hy hpause => ?_⟩
  have htarget := (hsaid y hy).1
  rw [hpause.1] at htarget
  exact absurd htarget (by decide)

theorem held_told {x : Dispatcher (Plant P) × Plant P} {r : Reply} {x₁ : Dispatcher (Plant P) × Plant P}
    (h : Governs a config host endpoints x.1) (verb : AcquisitionVerb)
    (hname : Named "daq" (Verb.name verb))
    (hport : port (.plain "daq" (Verb.name verb)) x = (r, x₁)) :
    Governs a config host endpoints x₁.1 ∧ x₁.2.supplied = x.2.supplied ∧
      x₁.2.program = a.told verb x.2.program := by
  obtain ⟨d, w⟩ := x
  obtain ⟨r', d', hport', hd', -⟩ := port_acquisition h verb hname w
  cases hport.symm.trans hport'
  exact ⟨hd', rfl, rfl⟩

/-- Recording is permitted: what is recorded is recorded further, and what is paused is resumed.
Recording is not permitted: it is paused, and the supply is switched off. -/
theorem held_act (ha : a.Obeys) {s after : Supervisor} {status : RunStatus}
    {x x₁ : Dispatcher (Plant P) × Plant P} {action : Autorun.Action} {said : List Exchange}
    {recording : Bool} (h : Held a config host endpoints recording x)
    (hpaused : status.state.isPaused = !recording)
    (hact : Supervisor.Act port s status x action said after x₁) :
    Held a config host endpoints after.permitted x₁ ∧
      ((recording = true ∧ after.permitted = false ∧
          ∃ r₁ r₂, said = [⟨.plain "daq" "pause", r₁⟩, ⟨.plain "hv" "off_all", r₂⟩]) ∨
        ¬ (recording = true ∧ after.permitted = false) ∧ Lets said) := by
  have hspi := h.guarded.answers
  cases hact with
  | stayPaused hstatus hdenied =>
    have hrecording : recording = false := by simpa [hstatus] using hpaused
    subst hrecording
    have hafter : s.stayPaused.permitted = false := by
      unfold Supervisor.stayPaused
      split <;> exact hdenied
    rw [hafter]
    exact ⟨h, .inr ⟨nofun, nofun⟩⟩
  | resumed hstatus hpermitted hpower hresume =>
    obtain ⟨hd, hkept, hlets⟩ := held_supply (Supervisor.asks_powerOn s.config Supervisor.channels) h.governs
    rw [hpower] at hd hkept hlets
    obtain ⟨hd', hsupplied, hprogram⟩ := held_told hd .resume (by decide) hresume
    have hspi' : x₁.2.board.spiFault = false :=
      (congrArg (·.2.2) hsupplied).trans ((congrArg (·.1) hkept).trans hspi)
    have hrecording : a.recording x₁.2.program = true := by
      rw [hprogram]
      exact ha.resume _
    have hresumed : ¬ (Command.plain "daq" "resume").Is "daq" "pause" := by decide
    refine ⟨⟨hd', guarded_of_recording hspi' hrecording, hrecording.trans hpermitted.symm⟩, .inr ⟨?_, ?_⟩⟩
    · rintro ⟨-, hdenied⟩
      exact absurd (hpermitted.symm.trans hdenied) nofun
    · refine hlets.append fun y hy => ?_
      rw [List.mem_singleton.1 hy]
      exact hresumed
  | continued hstatus hpermitted hrecover hrotate =>
    have hrecording : recording = true := by simpa [hstatus] using hpaused
    obtain ⟨hd, hkept, hlets⟩ := held_supply (Supervisor.asks_recover s.config) h.governs
    rw [hrecover] at hd hkept hlets
    have hspi₁ := (congrArg (·.1) hkept).trans hspi
    have hrecording₁ := (congrArg (fun y => a.recording y.2) hkept).trans (h.recording.trans hrecording)
    have hpermitted' : ¬ (recording = true ∧ s.permitted = false) := by
      rintro ⟨-, hdenied⟩
      exact absurd (hpermitted.symm.trans hdenied) nofun
    rcases Supervisor.rotate_cases hrotate with ⟨rfl, rfl⟩ | ⟨r, rfl, hswitch⟩
    · rw [List.append_nil]
      exact ⟨⟨hd, guarded_of_recording hspi₁ hrecording₁, hrecording₁.trans hpermitted.symm⟩,
        .inr ⟨hpermitted', hlets⟩⟩
    · obtain ⟨hd', hsupplied, hprogram⟩ := held_told hd .switchOutput (by decide) hswitch
      have hrecording₂ : a.recording x₁.2.program = true := by
        rw [hprogram, ha.switchOutput]
        exact hrecording₁
      have hswitched : ¬ (Command.plain "daq" "switch_output").Is "daq" "pause" := by decide
      refine ⟨⟨hd', guarded_of_recording ((congrArg (·.2.2) hsupplied).trans hspi₁) hrecording₂,
        hrecording₂.trans hpermitted.symm⟩, .inr ⟨hpermitted', hlets.append fun y hy => ?_⟩⟩
      rw [List.mem_singleton.1 hy]
      exact hswitched
  | suspended hstatus hdenied hpause hoff =>
    rename_i r₁ r₂ x₂
    have hrecording : recording = true := by simpa [hstatus] using hpaused
    obtain ⟨hd, hsupplied, hprogram⟩ := held_told h.governs .pause (by decide) hpause
    have hspi₂ := (congrArg (·.2.2) hsupplied).trans hspi
    obtain ⟨d, w⟩ := x₂
    obtain ⟨r, d', w', hport, hd', hkept, hswitchedOff⟩ := port_offAll hd hspi₂
    cases hoff.symm.trans hport
    have hpaused' : a.recording w'.program = false := by
      have hprogram' : w'.program = a.told .pause x.2.program := (congrArg (·.2) hkept).trans hprogram
      rw [hprogram']
      exact ha.pause _
    exact ⟨⟨hd', ⟨(congrArg (·.1) hkept).trans hspi₂, fun _ => hswitchedOff⟩, hpaused'.trans hdenied.symm⟩,
      .inl ⟨hrecording, hdenied, r₁, _, rfl⟩⟩

/-- A tick leaves the plant guarded, and the data acquisition recording exactly if that is permitted. It
pauses the data acquisition exactly if it was recording and is no longer permitted to. -/
theorem visit_held (ha : a.Obeys) (s : Supervisor) {x : Dispatcher (Plant P) × Plant P}
    {recording : Bool} (h : Held a config host endpoints recording x) :
    Held a config host endpoints (s.visit port x).after.permitted (s.visit port x).world ∧
      PausesFollowed (s.visit port x).said ∧
      pauses (s.visit port x).said =
        if recording = true ∧ (s.visit port x).after.permitted = false then 1 else 0 := by
  obtain ⟨s₁, asked, x₁, r, x₂, hcheck, hstatus, hcases⟩ := Supervisor.visit_cases port s x
  obtain ⟨h₁, hasked⟩ := held_check h hcheck
  obtain ⟨h₂, status, hdecode, hpaused⟩ := held_status ha h₁ hstatus
  have hlooks : Lets (asked ++ [⟨.plain "daq" "status", r⟩]) := by
    have hstatus : ¬ (Command.plain "daq" "status").Is "daq" "pause" := by decide
    refine hasked.append fun y hy => ?_
    rw [List.mem_singleton.1 hy]
    exact hstatus
  rcases hcases with ⟨e, herror, -⟩ | ⟨status', action, said, after, world, hok, hact, hvisit⟩
  · cases hdecode.symm.trans herror
  · cases hdecode.symm.trans hok
    obtain ⟨hheld, hsaid⟩ := held_act ha h₂ hpaused hact
    have hsplit : asked ++ ⟨.plain "daq" "status", r⟩ :: said =
        (asked ++ [⟨.plain "daq" "status", r⟩]) ++ said := by rw [List.append_assoc]; rfl
    rw [hvisit]
    refine ⟨hheld, ?_⟩
    dsimp only
    rw [hsplit]
    rcases hsaid with ⟨hrecording, hdenied, r₁, r₂, rfl⟩ | ⟨hpermitted, hlets⟩
    · rw [if_pos ⟨hrecording, hdenied⟩]
      exact (followed_pause hlooks r₁ r₂).symm
    · rw [if_neg hpermitted]
      exact ⟨(hlooks.append hlets).followed, (hlooks.append hlets).pauses_eq⟩

/-- A change of the plant alone. -/
def beside (change : Plant P → Plant P) (x : Dispatcher (Plant P) × Plant P) :
    Dispatcher (Plant P) × Plant P :=
  (x.1, change x.2)

theorem held_beside {change : Plant P → Plant P} (hchange : Apart a change)
    {x : Dispatcher (Plant P) × Plant P} {recording : Bool}
    (h : Held a config host endpoints recording x) :
    Held a config host endpoints recording (beside change x) :=
  ⟨h.governs, h.guarded.congr (hchange.supplied x.2) (hchange.recording x.2),
    (hchange.recording x.2).trans h.recording⟩

/-- A run keeps what each tick does. -/
theorem history_held (ha : a.Obeys) {changes : List (Plant P → Plant P)}
    (hchanges : ∀ change ∈ changes, Apart a change) (s : Supervisor)
    {x : Dispatcher (Plant P) × Plant P} {recording : Bool}
    (h : Held a config host endpoints recording x) :
    let visits := s.history port (changes.map beside) x
    (∀ v ∈ visits, Held a config host endpoints v.after.permitted v.world) ∧
      PausesFollowed (visits.flatMap (·.said)) ∧
      pauses (visits.flatMap (·.said)) = falls (recording :: visits.map (·.after.permitted)) := by
  induction changes generalizing s x recording with
  | nil =>
    rw [List.map_nil, Supervisor.history]
    refine ⟨by simp, trivial, ?_⟩
    simp [pauses, falls]
  | cons change rest ih =>
    obtain ⟨hv, hfollowed, hpauses⟩ :=
      visit_held ha s (held_beside (hchanges change (by simp)) h)
    rw [List.map_cons, Supervisor.history]
    generalize s.visit port (beside change x) = v at hv hfollowed hpauses
    obtain ⟨hlater, hfollowed', hpauses'⟩ := ih (fun c hc => hchanges c (by simp [hc])) v.after hv
    generalize v.after.history port (rest.map beside) v.world = later at hlater hfollowed' hpauses'
    refine ⟨fun u hu => ?_, ?_, ?_⟩
    · rcases List.mem_cons.1 hu with rfl | hu
      · exact hv
      · exact hlater u hu
    · rw [List.flatMap_cons]
      exact hfollowed.append hfollowed'
    · rw [List.flatMap_cons, pauses, List.countP_append]
      rw [pauses] at hpauses hpauses'
      rw [hpauses, hpauses', Nat.add_comm]
      simp only [falls, List.map_cons, List.head?_cons, Option.some.injEq]

variable (config) (host) (endpoints) in
/-- A supervisor that drives a new controller of a plant whose supply answers, however the sensors, the
time and all else change between its ticks. After each tick without permission the data acquisition is
paused and the supply is off; after each tick with permission it records. It is paused once for each
loss of permission, and once at the first tick if it was recording then and is not permitted to; and
with each pause the supply is switched off. -/
theorem safety_of_history (ha : a.Obeys) {w : Plant P} (hspi : w.board.spiFault = false)
    {changes : List (Plant P → Plant P)} (hchanges : ∀ change ∈ changes, Apart a change) (s : Supervisor) :
    let visits := s.history port (changes.map beside) (controller a config host endpoints w)
    let permitted := visits.map (·.after.permitted)
    let said := visits.flatMap (·.said)
    (∀ v ∈ visits,
      (v.after.permitted = false → a.recording v.world.2.program = false ∧ v.world.2.SwitchedOff) ∧
      (v.after.permitted = true → a.recording v.world.2.program = true)) ∧
    pauses said =
      falls permitted + (if a.recording w.program = true ∧ permitted.head? = some false then 1 else 0) ∧
    ∀ front x rest, said = front ++ x :: rest → x.command.Is "daq" "pause" →
      ∃ y rest', rest = y :: rest' ∧ y.command.Is "hv" "off_all" := by
  intro visits permitted said
  obtain ⟨hgoverns, hboard⟩ := controller_board a config host endpoints hspi
  have hbegun : Held a config host endpoints (a.recording w.program) (controller a config host endpoints w) := by
    refine ⟨hgoverns, ?_, ?_⟩
    · rw [hboard]
      exact ⟨hspi, fun _ => w.switchedOff_putBoard⟩
    · rw [hboard]
      rfl
  obtain ⟨hheld, hfollowed, hpauses⟩ := history_held ha hchanges s hbegun
  refine ⟨fun v hv => ⟨fun hdenied => ?_, fun hpermitted => ?_⟩, hpauses, fun front x rest h hx => ?_⟩
  · have hpaused := (hheld v hv).recording.trans hdenied
    exact ⟨hpaused, (hheld v hv).guarded.off hpaused⟩
  · exact (hheld v hv).recording.trans hpermitted
  · exact hfollowed.next h hx

end Plant

/-! ## A plant to try things out with -/

namespace Acquirer

def report (recording : Bool) : ReplyFrame where
  status := .ok
  fields := [("daqStatus", .string (if recording then "Running" else "Paused")), ("nEvents", .nat 1234)]

/-- A program that does nothing but obey. -/
def bench : Acquirer Bool where
  answer body recording :=
    match (Request.ofText? body).map (·.command) with
    | some "getStatus" => (Bytes.ofString (report recording).text, recording)
    | some "pause" => (PeerProgram.success, false)
    | some "resume" => (PeerProgram.success, true)
    | _ => (PeerProgram.success, recording)
  recording := id

theorem report_again (recording : Bool) : (report recording).again = report recording := by
  have hcount : Number.again (.int 1234) = .int 1234 :=
    Number.again_eq (Number.token_int (by decide) (by decide))
  show ReplyFrame.mk .ok none none
    [("daqStatus", .string _), ("nEvents", .number (Number.again (.int 1234)))] = _
  rw [hcount]
  rfl

theorem read_report (recording : Bool) :
    ReplyFrame.read (Bytes.ofString (report recording).text) = .ok (report recording) := by
  have hshaped : (report recording).Shaped := by
    refine ⟨?_, fun m hm => ?_, fun m hm => ?_⟩
    · have hlt : ("daqStatus" : String) < "nEvents" := by decide
      exact List.pairwise_pair.2 hlt
    · simp only [report, List.mem_cons, List.not_mem_nil, or_false] at hm
      have hcount : Number.Proper (.int 1234) := by
        unfold Number.Proper
        decide
      rcases hm with rfl | rfl
      · exact .string _
      · exact .number hcount
    · have hkey : ∀ key ∈ ["daqStatus", "nEvents"], key ∉ ReplyFrame.header := by decide
      simp only [report, List.mem_cons, List.not_mem_nil, or_false] at hm
      rcases hm with rfl | rfl <;> exact hkey _ (by simp)
  rw [ReplyFrame.read_text hshaped, report_again]

theorem bench_obeys : bench.Obeys where
  status recording := by
    have hread := read_report recording
    cases recording
    · exact ⟨_, ⟨.paused, "", -1, 1234, 0⟩, hread, rfl, rfl⟩
    · exact ⟨_, ⟨.running, "", -1, 1234, 0⟩, hread, rfl, rfl⟩
  asked recording := by cases recording <;> decide +kernel
  pause recording := by cases recording <;> decide +kernel
  resume recording := by cases recording <;> decide +kernel
  switchOutput recording := by cases recording <;> decide +kernel

end Acquirer

namespace Plant

def bench : Plant Bool := { program := true, now := ⟨0, "", ""⟩ }

def host : Host := ⟨fun _ => none, .empty⟩

/-- The slow ADC stops answering. -/
def loseAdc (w : Plant Bool) : Plant Bool := { w with board := { w.board with adcFault := true } }

/-- Three ticks of a supervisor that had permission when it last looked at the sensors: it need not look again at
the first, in front of the second the slow ADC is lost. -/
def benchVisits : List (Visit (Dispatcher (Plant Bool) × Plant Bool)) :=
  { Supervisor.bench with permitted := true, sinceCheck := 0 }.history port ([id, loseAdc, id].map beside)
    (controller .bench .bench host Rig.localEndpoints bench)

/-- The high voltage is on after the first tick, and then permission is lost. -/
theorem safety_of_benchVisits :
    let permitted := benchVisits.map (·.after.permitted)
    let said := benchVisits.flatMap (·.said)
    permitted = [true, false, false] ∧ benchVisits.map (·.world.2.board.outputs.get 0) = [true, false, false] ∧
      pauses said = 1 ∧
      (∀ v ∈ benchVisits,
        (v.after.permitted = false →
          Acquirer.bench.recording v.world.2.program = false ∧ v.world.2.SwitchedOff) ∧
        (v.after.permitted = true → Acquirer.bench.recording v.world.2.program = true)) ∧
      ∀ front x rest, said = front ++ x :: rest → x.command.Is "daq" "pause" →
        ∃ y rest', rest = y :: rest' ∧ y.command.Is "hv" "off_all" := by
  have hapart : ∀ change ∈ [id, loseAdc, id], Apart Acquirer.bench change := by
    intro change hchange
    simp only [List.mem_cons, List.not_mem_nil, or_false] at hchange
    rcases hchange with rfl | rfl | rfl <;> exact ⟨fun _ => rfl, fun _ => rfl⟩
  have hrun : benchVisits.map (·.after.permitted) = [true, false, false] ∧
      benchVisits.map (·.world.2.board.outputs.get 0) = [true, false, false] := by decide +kernel
  obtain ⟨hpermitted, houtputs⟩ := hrun
  obtain ⟨hsafe, hpauses, hfollowed⟩ :=
    safety_of_history .bench host Rig.localEndpoints (w := bench) Acquirer.bench_obeys rfl hapart
      { Supervisor.bench with permitted := true, sinceCheck := 0 }
  have hcount : falls [true, false, false] + (if Acquirer.bench.recording bench.program = true ∧
      [true, false, false].head? = some false then 1 else 0) = 1 := rfl
  unfold benchVisits at hpermitted houtputs ⊢
  refine ⟨hpermitted, houtputs, ?_, hsafe, hfollowed⟩
  rw [hpauses, hpermitted]
  exact hcount

end Plant

end DetectorControl
