import DetectorControl.Proofs.Autorun.Commands
import DetectorControl.Proofs.Autorun.Course

/-!
# What a report on the data acquisition decides

A report tells the run state and the age of the output file, and for information the name of that file, a
count of events and a time. A tick goes by the state and the age only (`act_congr`), so that all reports
with the same state and age that can be read at all lead to the same commands and the same end
(`course_of_reports`). But a report is read as a whole: one in which the count is no natural number of 64
bits is not read (`Reply.Reports.counted`), and a tick that gets it ends there (`visit_unread`).
-/

namespace DetectorControl

/-- The same partner, but for the reply to a request for the state of the data acquisition. -/
def Port.reporting {W : Type u} (port : Port W) (r : Reply) : Port W := fun c w =>
  if c.Is "daq" "status" then (r, (port c w).2) else port c w

namespace Dialogue.Asks
variable {Q Q' : Command → Prop} {α : Type} {d : Dialogue α} {W : Type u} {port port' : Port W}

theorem mono (hd : Asks Q d) (h : ∀ c, Q c → Q' c) : Asks Q' d := by
  induction hd with
  | done a => exact .done a
  | ask hc _ ih => exact .ask (h _ hc) ih

theorem recite {cs : List Command} (hcs : ∀ c ∈ cs, Q c) (hd : Asks Q d) : Asks Q (Dialogue.recite cs d) := by
  induction cs with
  | nil => exact hd
  | cons c cs ih => exact .ask (hcs c (by simp)) fun _ => ih fun c hc => hcs c (by simp [hc])

/-- Partners that answer the commands of a kind alike hold the same dialogues of that kind. -/
theorem run_congr (hd : Asks Q d) (hport : ∀ c w, Q c → port c w = port' c w) (w : W) :
    d.run port w = d.run port' w := by
  induction hd generalizing w with
  | done a => rfl
  | ask hc _ ih =>
    simp only [Dialogue.run]
    rw [hport _ w hc, ih]

end Dialogue.Asks

/-! ## Reports -/

/-- A count of events that can be read, or none. -/
def Number.Counts (n? : Option Number) : Prop := ∀ n ∈ n?, ∃ i : Nat, n = .int i ∧ i ≤ Bounds.natural64

/-- A time in whole seconds that can be read, or none. -/
def Number.Dates (n? : Option Number) : Prop :=
  ∀ n ∈ n?, ∃ i : Int, n = .int i ∧ Bounds.least64 ≤ i ∧ i ≤ Bounds.greatest64

/-- The payload of a report: a run state and perhaps the age of the output file, its name, a count of events
and a time. Whatever else stands in it is not looked at. -/
structure Fields.Report (fields : Fields) (state : String) (elapsed events time : Option Number) : Prop where
  sorted : fields.Sorted
  state : fields.get? "daqStatus" = some (.string state)
  outputFile : ∃ name? : Option String, fields.get? "outputFileName" = name?.map Json.string
  elapsed : fields.get? "elapsedTimeOfCurrentOutputFile" = elapsed.map Json.number
  events : fields.get? "nEvents" = events.map Json.number
  time : fields.get? "unixTime" = time.map Json.number

/-- A success with such a payload. -/
def Reply.Reports (r : Reply) (state : String) (elapsed events time : Option Number) : Prop :=
  ∃ message fields, r = .ok message fields ∧ fields.Report state elapsed events time

/-- Whether a reply can be read as a report. -/
def Reply.Tells (r : Reply) : Prop := ∃ status, r.decode RunStatus.ofTree? = .ok status

section
open Json
variable {fields : Fields} {r : Reply} {state : String} {elapsed events time n? : Option Number}

theorem Json.Tree.int?_number {low high : Int} (n : Number) {i : Int} :
    Tree.int? low high (.number (some n)) = some i ↔ n = .int i ∧ low ≤ i ∧ i ≤ high := by
  cases n with
  | int j =>
    simp only [Tree.int?, Option.ite_none_right_eq_some, Option.some.injEq, Number.int.injEq]
    constructor
    · rintro ⟨h, rfl⟩
      exact ⟨rfl, h⟩
    · rintro ⟨rfl, h⟩
      exact ⟨h, rfl⟩
  | float x => simp [Tree.int?]

theorem orElse_counts {read : Nat}
    (h : Tree.orElse ((n?.map Json.number).map Tree.ofValue) 0 (Tree.nat? Bounds.natural64) = some read) :
    Number.Counts n? := by
  intro n hn
  obtain rfl := Option.mem_def.1 hn
  obtain ⟨i, hi, -⟩ := Option.map_eq_some_iff.1 h
  obtain ⟨rfl, hlow, hhigh⟩ := (Tree.int?_number n).1 hi
  obtain ⟨i, rfl⟩ := Int.eq_ofNat_of_zero_le hlow
  exact ⟨i, rfl, Int.ofNat_le.1 hhigh⟩

theorem orElse_of_counts (h : Number.Counts n?) :
    ∃ read, Tree.orElse ((n?.map Json.number).map Tree.ofValue) 0 (Tree.nat? Bounds.natural64) = some read := by
  cases n? with
  | none => exact ⟨0, rfl⟩
  | some n =>
    obtain ⟨i, rfl, hi⟩ := h n rfl
    have hread : Tree.int? 0 Bounds.natural64 (.number (some (.int i))) = some ↑i :=
      (Tree.int?_number _).2 ⟨rfl, Int.natCast_nonneg i, Int.ofNat_le.2 hi⟩
    exact ⟨i, congrArg (Option.map Int.toNat) hread⟩

theorem orElse_of_dates (h : Number.Dates n?) :
    ∃ read, Tree.orElse ((n?.map Json.number).map Tree.ofValue) 0
      (Tree.int? Bounds.least64 Bounds.greatest64) = some read := by
  cases n? with
  | none => exact ⟨0, rfl⟩
  | some n =>
    obtain ⟨i, rfl, hi⟩ := h n rfl
    exact ⟨i, (Tree.int?_number (.int i)).2 ⟨rfl, hi⟩⟩

/-- A report as it is read, from what is read of its count and its time. -/
theorem Fields.Report.ofTree? (h : fields.Report state elapsed events time) :
    ∃ name, RunStatus.ofTree? (.ofValue (.object fields)) =
      (Tree.orElse ((events.map Json.number).map Tree.ofValue) 0 (Tree.nat? Bounds.natural64)).bind fun events =>
        (Tree.orElse ((time.map Json.number).map Tree.ofValue) 0
            (Tree.int? Bounds.least64 Bounds.greatest64)).bind fun time =>
          some ⟨.ofName state, name, (elapsed.map Number.toFloat).getD (-1), events, time⟩ := by
  obtain ⟨name?, hname⟩ := h.outputFile
  have hstate : RunState.ofTree? (Tree.ofValue (.string state)) = some (.ofName state) := rfl
  have helapsed : Tree.orElse ((elapsed.map Json.number).map Tree.ofValue) (-1) Tree.float? =
      some ((elapsed.map Number.toFloat).getD (-1)) := by cases elapsed <;> rfl
  have hfile : Tree.orElse ((name?.map Json.string).map Tree.ofValue) "" Tree.string? =
      some (name?.getD "") := by cases name? <;> rfl
  refine ⟨name?.getD "", ?_⟩
  unfold RunStatus.ofTree?
  rw [Tree.record?_ofValue h.sorted]
  simp only [List.map_cons, List.map_nil, h.state, hname, h.elapsed, h.events, h.time, Option.bind_eq_bind,
    Option.bind_some, Option.map_some, hstate, hfile, helapsed]
  rfl

namespace Reply.Reports

/-- A report that can be read tells the state and the age that stand in it. -/
theorem tells (h : r.Reports state elapsed events time) {status : RunStatus}
    (hdecode : r.decode RunStatus.ofTree? = .ok status) :
    status.state = .ofName state ∧ status.elapsed = (elapsed.map Number.toFloat).getD (-1) := by
  obtain ⟨message, fields, rfl, hreport⟩ := h
  obtain ⟨name, hread⟩ := hreport.ofTree?
  rw [decode, hread] at hdecode
  split at hdecode
  · rename_i status' hstatus
    cases hdecode
    obtain ⟨events, -, hstatus⟩ := Option.bind_eq_some_iff.1 hstatus
    obtain ⟨time, -, hstatus⟩ := Option.bind_eq_some_iff.1 hstatus
    cases hstatus
    exact ⟨rfl, rfl⟩
  · cases hdecode

/-- It cannot be read unless the count is one. -/
theorem counted (h : r.Reports state elapsed events time) (htells : r.Tells) : Number.Counts events := by
  obtain ⟨message, fields, rfl, hreport⟩ := h
  obtain ⟨name, hread⟩ := hreport.ofTree?
  obtain ⟨status, hdecode⟩ := htells
  rw [decode, hread] at hdecode
  split at hdecode
  · rename_i status' hstatus
    obtain ⟨count, hcount, -⟩ := Option.bind_eq_some_iff.1 hstatus
    exact orElse_counts hcount
  · cases hdecode

theorem tells_of_counts (h : r.Reports state elapsed events time) (hevents : Number.Counts events)
    (htime : Number.Dates time) : r.Tells := by
  obtain ⟨message, fields, rfl, hreport⟩ := h
  obtain ⟨name, hread⟩ := hreport.ofTree?
  obtain ⟨count, hcount⟩ := orElse_of_counts hevents
  obtain ⟨date, hdate⟩ := orElse_of_dates htime
  rw [hcount, hdate] at hread
  exact ⟨_, by rw [decode, hread]; rfl⟩

end Reply.Reports

end

/-! ## Ticks -/

namespace Supervisor
variable {W : Type u} {port : Port W} {s : Supervisor} {r r' : Reply} {w : W}

/-- What is done upon a report depends on its state and on the age of the output file only. -/
theorem act_congr (s : Supervisor) {status status' : RunStatus} (hstate : status.state = status'.state)
    (helapsed : status.elapsed = status'.elapsed) : s.act status = s.act status' := by
  unfold act proceed rotate fileDue
  rw [hstate, helapsed]

theorem asks_check (s : Supervisor) : Dialogue.Asks (¬ ·.Is "daq" "status") s.check := by
  by_cases hdue : s.checkDue = true
  · rw [check_due hdue]
    exact .ask (by decide) fun r => .done _
  · rw [check_idle hdue]
    exact .done _

/-- The data acquisition is asked for its state once in a tick. -/
theorem asks_act (s : Supervisor) (status : RunStatus) :
    Dialogue.Asks (¬ ·.Is "daq" "status") (s.act status) := by
  have hsupply {α : Type} {d : Dialogue α} (h : d.Asks ToSupply) : d.Asks (¬ ·.Is "daq" "status") := by
    refine h.mono fun c hc hstatus => ?_
    have hname : Target.ofName "hv" ≠ Target.ofName "daq" := by decide
    exact hname (hc.1.symm.trans hstatus.1)
  unfold act
  split
  · exact .bind (hsupply (asks_powerOn ..)) fun _ => .bind (.send (by decide)) fun _ => .done _
  · exact .done _
  · refine .bind (hsupply (asks_recover _)) fun recovered => .bind ?_ fun switched => .done _
    rw [rotate_eq]
    refine .recite (fun c hc => ?_) (.done _)
    split at hc
    · rw [List.mem_singleton.1 hc]
      decide
    · cases hc
  · exact .bind (.send (by decide)) fun _ => .bind (.send (by decide)) fun _ => .done _

theorem reporting_of_not {c : Command} (h : ¬ c.Is "daq" "status") (w : W) : port.reporting r c w = port c w :=
  if_neg h

/-- A tick that gets a given report looks at the sensors as ever, and then goes on from that report. -/
theorem run_reporting {s₁ : Supervisor} {w₁ : W} {asked : List Exchange} (hcheck : s.check.run port w = (s₁, asked, w₁))
    {result : Autorun.Action × Supervisor} {said : List Exchange} {w₃ : W}
    (hanswered : (s₁.answered r).run (port.reporting r) (port (.plain "daq" "status") w₁).2 = (result, said, w₃)) :
    s.tick.run (port.reporting r) w = (result, asked ++ ⟨.plain "daq" "status", r⟩ :: said, w₃) := by
  have hsame : s.check.run (port.reporting r) w = s.check.run port w :=
    s.asks_check.run_congr (fun c w hc => reporting_of_not hc w) w
  exact run_tick (hsame.trans hcheck) rfl hanswered

/-- Behind a report that cannot be read nothing is said, and the state stays. -/
theorem visit_unread (port : Port W) (s : Supervisor) (w : W) (h : ¬ r.Tells) :
    (s.visit (port.reporting r) w).action = .unreachable ∧ (s.visit (port.reporting r) w).after.state = s.state ∧
      ∃ front, (s.visit (port.reporting r) w).said = front ++ [⟨.plain "daq" "status", r⟩] := by
  obtain ⟨⟨s₁, asked, w₁⟩, hcheck⟩ : ∃ checked, s.check.run port w = checked := ⟨_, rfl⟩
  have hanswered : s₁.answered r = .done (.unreachable, s₁) := by
    cases hdecode : r.decode RunStatus.ofTree? with
    | error e => rw [answered, hdecode]
    | ok status => exact absurd ⟨status, hdecode⟩ h
  have hrun : (s₁.answered r).run (port.reporting r) (port (.plain "daq" "status") w₁).2 =
      ((.unreachable, s₁), [], (port (.plain "daq" "status") w₁).2) := by
    rw [hanswered]
    rfl
  rw [visit_eq (run_reporting hcheck hrun)]
  exact ⟨rfl, (check_cases hcheck).2.2.1, asked, rfl⟩

/-- After two reports of the same state and age that can be read a tick says the same commands and comes to
the same end. -/
theorem visit_congr (port : Port W) (s : Supervisor) (w : W) {status status' : RunStatus}
    (hr : r.decode RunStatus.ofTree? = .ok status) (hr' : r'.decode RunStatus.ofTree? = .ok status')
    (hstate : status.state = status'.state) (helapsed : status.elapsed = status'.elapsed) :
    (s.visit (port.reporting r) w).course = (s.visit (port.reporting r') w).course ∧
      (s.visit (port.reporting r) w).world = (s.visit (port.reporting r') w).world := by
  obtain ⟨⟨s₁, asked, w₁⟩, hcheck⟩ : ∃ checked, s.check.run port w = checked := ⟨_, rfl⟩
  obtain ⟨⟨⟨action, after⟩, said, w₃⟩, hact⟩ :
    ∃ result, (s₁.act status).run port (port (.plain "daq" "status") w₁).2 = result := ⟨_, rfl⟩
  have hrun {q : Reply} (hq : s₁.answered q = s₁.act status) :
      (s₁.answered q).run (port.reporting q) (port (.plain "daq" "status") w₁).2 =
        ((action, after), said, w₃) := by
    rw [hq, ← hact]
    exact (s₁.asks_act status).run_congr (fun c w hc => reporting_of_not hc w) _
  have hanswered : s₁.answered r = s₁.act status := by rw [answered, hr]
  have hanswered' : s₁.answered r' = s₁.act status := by
    rw [answered, hr']
    exact s₁.act_congr hstate.symm helapsed.symm
  rw [visit_eq (run_reporting hcheck (hrun hanswered)), visit_eq (run_reporting hcheck (hrun hanswered'))]
  simp [Visit.course]

/-- Two successes that report the same state and the same age, whatever else they tell. Each can be read if its
count of events is a natural number of 64 bits, or none, and its time an integer of 64 bits, or none; and only
if the count is so. If both can be read, a tick of any supervisor against any partner says the same commands
after either, does the same, and leaves the same supervisor and the same world; after one that cannot be read
it ends. -/
theorem course_of_reports {state : String} {elapsed events events' time time' : Option Number}
    (hr : r.Reports state elapsed events time) (hr' : r'.Reports state elapsed events' time')
    (port : Port W) (s : Supervisor) (w : W) :
    ((Number.Counts events → Number.Dates time → r.Tells) ∧ (r.Tells → Number.Counts events)) ∧
    (r.Tells → r'.Tells →
      (s.visit (port.reporting r) w).course = (s.visit (port.reporting r') w).course ∧
        (s.visit (port.reporting r) w).world = (s.visit (port.reporting r') w).world) ∧
    (¬ r.Tells →
      (s.visit (port.reporting r) w).action = .unreachable ∧ (s.visit (port.reporting r) w).after.state = s.state ∧
        ∃ front, (s.visit (port.reporting r) w).said = front ++ [⟨.plain "daq" "status", r⟩]) := by
  refine ⟨⟨hr.tells_of_counts, hr.counted⟩, ?_, visit_unread port s w⟩
  rintro ⟨status, hstatus⟩ ⟨status', hstatus'⟩
  obtain ⟨hstate, helapsed⟩ := hr.tells hstatus
  obtain ⟨hstate', helapsed'⟩ := hr'.tells hstatus'
  exact visit_congr port s w hstatus hstatus' (hstate.trans hstate'.symm) (helapsed.trans helapsed'.symm)

/-! ## Two reports -/

/-- The data acquisition records, and tells a count of events and a time. -/
def countReport (events time : Number) : Reply :=
  .ok none [("daqStatus", .string "Running"), ("nEvents", .number events), ("unixTime", .number time)]

theorem reports_count (n time : Number) : (countReport n time).Reports "Running" none (some n) (some time) := by
  have hsorted : (["daqStatus", "nEvents", "unixTime"] : List String).Pairwise (· < ·) := by decide
  exact ⟨_, _, rfl, List.pairwise_map.1 hsorted, rfl, ⟨none, rfl⟩, rfl, rfl, rfl⟩

/-- A partner that has nothing to say. -/
def silentPort : Port Unit := fun _ w => (.done, w)

/-- Two reports that agree neither on the count nor on the time, which in one of them is before the epoch. -/
theorem course_of_countReports :
    let r := countReport (.int 4711) (.int 1700000000)
    let r' := countReport (.int 0) (.int (-1))
    r.Reports "Running" none (some (.int 4711)) (some (.int 1700000000)) ∧
      r'.Reports "Running" none (some (.int 0)) (some (.int (-1))) ∧
      r.Tells ∧ r'.Tells ∧
      (bench.visit (silentPort.reporting r) ()).action = .suspended ∧
      (bench.visit (silentPort.reporting r) ()).course = (bench.visit (silentPort.reporting r') ()).course := by
  intro r r'
  have hr : r.Reports _ _ _ _ := reports_count _ _
  have hr' : r'.Reports _ _ _ _ := reports_count _ _
  obtain ⟨⟨hreadable, -⟩, hcourse, -⟩ := course_of_reports hr hr' silentPort bench ()
  obtain ⟨⟨hreadable', -⟩, -, -⟩ := course_of_reports hr' hr silentPort bench ()
  have htells : r.Tells := by
    refine hreadable ?_ ?_
    · rintro n ⟨⟩
      exact ⟨4711, rfl, by decide⟩
    · rintro n ⟨⟩
      exact ⟨1700000000, rfl, by decide, by decide⟩
  have htells' : r'.Tells := by
    refine hreadable' ?_ ?_
    · rintro n ⟨⟩
      exact ⟨0, rfl, by decide⟩
    · rintro n ⟨⟩
      exact ⟨-1, rfl, by decide, by decide⟩
  exact ⟨hr, hr', htells, htells', by decide +kernel, (hcourse htells htells').1⟩

/-- A count with a fraction: everything that decides is as before, but nothing is done. -/
theorem unreachable_of_countReport :
    let r := countReport (.int 4711) (.int 1700000000)
    let r' := countReport (.float 4711.5) (.int 1700000000)
    r.Reports "Running" none (some (.int 4711)) (some (.int 1700000000)) ∧
      r'.Reports "Running" none (some (.float 4711.5)) (some (.int 1700000000)) ∧
      (bench.visit (silentPort.reporting r) ()).action = .suspended ∧
      (bench.visit (silentPort.reporting r') ()).action = .unreachable ∧
      ¬ r'.Tells := by
  intro r r'
  have hunread : ¬ r'.Tells := by
    intro htells
    obtain ⟨i, hi, -⟩ := (reports_count (.float 4711.5) (.int 1700000000)).counted htells _ rfl
    cases hi
  exact ⟨reports_count _ _, reports_count _ _, by decide +kernel, (visit_unread silentPort bench () hunread).1, hunread⟩

end Supervisor

end DetectorControl
