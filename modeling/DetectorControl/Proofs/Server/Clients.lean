import DetectorControl.Proofs.Controller.Clients
import DetectorControl.Proofs.Server.Log
import DetectorControl.Proofs.Supply.Levels

/-!
# Clients of a server that do not meet

A server attends to its clients in the order in which it takes their requests out of its queue, each at the moment
that the clock shows (`served_runAt`). So clients of which no two address the same subsystem are answered the same
in whatever order their requests come.
-/

namespace DetectorControl

namespace Deed
variable {ι : Type} [DecidableEq ι]

/-- What was done for one who may have several connections. -/
def doneFor (who : Nat → ι) (i : ι) (done : List Deed) : List Deed := done.filter (who ·.job.client = i)

end Deed

namespace Server
variable {ι : Type}

/-- A server when the clock shows a moment. -/
def tick (now : Instant) (s : Server Rig) : Server Rig := { s with world := s.world.putNow now }

/-- A run whose steps are each taken at a moment. -/
def runAt (s : Server Rig) (steps : List (Instant × Step)) : Server Rig :=
  steps.foldl (fun s x => (s.tick x.1).step x.2) s

/-- The jobs that such a run does. -/
def deedsAt : Server Rig → List (Instant × Step) → List Deed
  | _, [] => []
  | s, x :: rest => ((s.tick x.1).deed? x.2).toList ++ ((s.tick x.1).step x.2).deedsAt rest

variable [DecidableEq ι] {who : Nat → ι} {x y : Dispatcher Rig × Rig} {run : List (Turn ι)} {done : List Deed}

/-- The requests among some jobs are attended to in these turns. -/
structure Served (who : Nat → ι) (x : Dispatcher Rig × Rig) (run : List (Turn ι)) (done : List Deed)
    (y : Dispatcher Rig × Rig) : Prop where
  answers (i : ι) :
    Dispatcher.answersTo i (Dispatcher.attend run x).1 = (Deed.answers (Deed.doneFor who i done)).map (·.undated)
  requests (i : ι) : Dispatcher.sentBy i run = Deed.requests (Deed.doneFor who i done)
  dispatcher : (Dispatcher.attend run x).2.1 = y.1
  world (t : Instant) : (Dispatcher.attend run x).2.2.putNow t = y.2.putNow t

namespace Served

/-- What the clock shows before the turns makes no difference. -/
theorem of_putNow {t : Instant} (h : Served who (x.1, x.2.putNow t) run done y) : Served who x run done y := by
  cases run with
  | nil => exact ⟨h.answers, h.requests, h.dispatcher, h.world⟩
  | cons turn rest => exact ⟨h.answers, h.requests, h.dispatcher, h.world⟩

theorem reject (h : Served who x run done y) {d : Deed} (hbody : d.body? = none) : Served who x run (d :: done) y where
  answers i := by
    rw [h.answers i]
    by_cases hi : who d.job.client = i <;> simp [Deed.doneFor, Deed.answers, hi, hbody]
  requests i := by
    rw [h.requests i]
    by_cases hi : who d.job.client = i <;> simp [Deed.doneFor, Deed.requests, hi, hbody]
  dispatcher := h.dispatcher
  world := h.world

theorem request {t : Instant} {d : Deed} {body : Bytes} (hbody : d.body? = some body)
    (hreply : d.reply = (x.1.handle body (x.2.putNow t)).1)
    (h : Served who (x.1.handle body (x.2.putNow t)).2 run done y) :
    Served who x (⟨who d.job.client, t, body⟩ :: run) (d :: done) y where
  answers i := by
    rw [Dispatcher.attend_cons]
    by_cases hi : who d.job.client = i
    · rw [hi, Dispatcher.answersTo_cons_self, h.answers i, ← hreply]
      simp [Deed.doneFor, Deed.answers, hi, hbody]
    · rw [Dispatcher.answersTo_cons_of_ne hi, h.answers i]
      simp [Deed.doneFor, hi]
  requests i := by
    have hrest := h.requests i
    unfold Dispatcher.sentBy at hrest ⊢
    by_cases hi : who d.job.client = i <;> simp [Deed.doneFor, Deed.requests, hi, hbody] at hrest ⊢ <;> exact hrest
  dispatcher := h.dispatcher
  world := h.world

end Served

/-- A run of the server attends to the requests that it does, each at its moment. -/
theorem served_runAt (who : Nat → ι) (s : Server Rig) (steps : List (Instant × Step)) :
    ∃ run, Served who (s.dispatcher, s.world) run (s.deedsAt steps)
      ((s.runAt steps).dispatcher, (s.runAt steps).world) := by
  induction steps generalizing s with
  | nil => exact ⟨[], fun _ => rfl, fun _ => rfl, rfl, fun _ => rfl⟩
  | cons x rest ih =>
    obtain ⟨run, hrest⟩ := ih ((s.tick x.1).step x.2)
    have hdoes := step_does (s.tick x.1) x.2
    unfold deedsAt
    show ∃ run, Served who (s.dispatcher, s.world) run _
      ((((s.tick x.1).step x.2).runAt rest).dispatcher, (((s.tick x.1).step x.2).runAt rest).world)
    generalize ((s.tick x.1).deed? x.2).toList = did, ((s.tick x.1).arrival? x.2).toList = came,
      (s.tick x.1).step x.2 = s' at hdoes hrest ⊢
    cases hdoes with
    | @did j queue =>
      obtain ⟨client, work⟩ := j
      cases work with
      | request body => exact ⟨_, .request (t := x.1) rfl rfl hrest⟩
      | reject bytes =>
        refine ⟨run, .reject (d := ⟨⟨client, .reject bytes⟩, _⟩) ?_ rfl⟩
        exact .of_putNow (t := x.1) hrest
    | _ => exact ⟨run, .of_putNow (t := x.1) hrest⟩

/-- Two commands to different subsystems on the board are answered and carried out the same in either order. And
when no two clients address the same subsystem, each is answered the same, and the controller and its rig are
left the same, in whatever order a server takes the requests out of its queue. -/
theorem clients_apart {config : Config} {host : Host} {endpoints : Rig.Endpoints} {s : Server Rig}
    (hs : Dispatcher.Reached (Rig.equipment config host endpoints) (s.dispatcher, s.world)) :
    (∀ name ∈ Equipment.onBoard, ∀ name' ∈ Equipment.onBoard, name ≠ name' → ∀ body body',
      Dispatcher.Addresses name body → Dispatcher.Addresses name' body' →
      Dispatcher.Commute (s.dispatcher, s.world) body body') ∧
    ∀ (ι : Type) [DecidableEq ι] (who who' : Nat → ι) (names : ι → List String), (∀ i, names i ⊆ Equipment.onBoard) →
      (∀ i j, ∀ name ∈ names i, name ∈ names j → i = j) → ∀ steps steps',
      (∀ d ∈ s.deedsAt steps, ∀ body, d.body? = some body →
        ∃ name ∈ names (who d.job.client), Dispatcher.Addresses name body) →
      (∀ i, Deed.requests (Deed.doneFor who i (s.deedsAt steps)) =
        Deed.requests (Deed.doneFor who' i (s.deedsAt steps'))) →
      (∀ i, (Deed.answers (Deed.doneFor who i (s.deedsAt steps))).map (·.undated) =
        (Deed.answers (Deed.doneFor who' i (s.deedsAt steps'))).map (·.undated)) ∧
      (s.runAt steps).dispatcher = (s.runAt steps').dispatcher ∧
      ∀ t, (s.runAt steps).world.putNow t = (s.runAt steps').world.putNow t := by
  constructor
  · intro name hname name' hname' hne body body' hbody hbody'
    exact Dispatcher.commute_of_ne hs hname hname' hne hbody hbody'
  · intro ι _ who who' names hboard hapart steps steps' haddressed hrequests
    obtain ⟨run, hserved⟩ := served_runAt who s steps
    obtain ⟨run', hserved'⟩ := served_runAt who' s steps'
    have hrun : ∀ turn ∈ run, ∃ name ∈ names turn.client, Dispatcher.Addresses name turn.body := by
      intro turn hturn
      have hmem := Dispatcher.mem_sentBy hturn
      rw [hserved.requests] at hmem
      obtain ⟨d, hd, hbody⟩ := List.mem_filterMap.1 hmem
      obtain ⟨hd, hclient⟩ := List.mem_filter.1 hd
      have hclient : who d.job.client = turn.client := by simpa using hclient
      exact hclient ▸ haddressed d hd turn.body hbody
    have hsent (i : ι) : Dispatcher.sentBy i run = Dispatcher.sentBy i run' := by
      rw [hserved.requests, hserved'.requests, hrequests]
    obtain ⟨hanswers, hdispatcher, hworld⟩ := Dispatcher.attend_interleaved hboard hapart hrun hsent hs
    refine ⟨fun i => ?_, hserved.dispatcher.symm.trans (hdispatcher.trans hserved'.dispatcher), fun t => ?_⟩
    · rw [← hserved.answers, ← hserved'.answers, hanswers]
    · exact (hserved.world t).symm.trans ((hworld t).trans (hserved'.world t))

/-- A connection on which one frame arrives. -/
def sends (body : Bytes) : ClientStream := { incoming := [.bytes (Wire.frame body)] }

def reading : Bytes := Bytes.ofString "\x7b\"command\":\"hk.read\",\"option\":null\x7d"

def switchingOn : Bytes := Bytes.ofString "\x7b\"command\":\"hv.on\",\"option\":\x7b\"ch\":0\x7d\x7d"

/-- The server of the bench rig. -/
def benchServer : Server Rig :=
  let x := Rig.bench.controller { now := ⟨0, "", ""⟩ }
  new x.1 x.2

/-- One client reads the sensors, then another one switches a channel on. -/
def readingFirst : List (Instant × Step) :=
  [(⟨1, "", ""⟩, .accept (sends reading)), (⟨2, "", ""⟩, .accept (sends switchingOn)), (⟨3, "", ""⟩, .read 0),
    (⟨4, "", ""⟩, .read 1), (⟨5, "", ""⟩, .dispatch), (⟨6, "", ""⟩, .dispatch)]

/-- The other one comes first. -/
def switchingFirst : List (Instant × Step) :=
  [(⟨7, "", ""⟩, .accept (sends switchingOn)), (⟨8, "", ""⟩, .read 0), (⟨9, "", ""⟩, .accept (sends reading)),
    (⟨10, "", ""⟩, .dispatch), (⟨11, "", ""⟩, .read 1), (⟨12, "", ""⟩, .dispatch)]

theorem clients_apart_bench :
    Dispatcher.Commute (benchServer.dispatcher, benchServer.world) reading switchingOn ∧
      (∀ reads : Bool,
        (Deed.answers (Deed.doneFor (· == 0) reads (benchServer.deedsAt readingFirst))).map (·.undated) =
          (Deed.answers (Deed.doneFor (· == 1) reads (benchServer.deedsAt switchingFirst))).map (·.undated)) ∧
      (benchServer.runAt readingFirst).dispatcher = (benchServer.runAt switchingFirst).dispatcher ∧
      ∀ t, (benchServer.runAt readingFirst).world.putNow t = (benchServer.runAt switchingFirst).world.putNow t := by
  have hreached : Dispatcher.Reached Rig.bench (benchServer.dispatcher, benchServer.world) :=
    .start (e := Rig.bench) { now := ⟨0, "", ""⟩ }
  have hreading : Dispatcher.Addresses "hk" reading := ⟨"read", _, rfl⟩
  have hswitching : Dispatcher.Addresses "hv" switchingOn := ⟨"on", _, rfl⟩
  have hjobs : (benchServer.deedsAt readingFirst).map (·.job) =
      [⟨0, .request reading⟩, ⟨1, .request switchingOn⟩] := by decide +kernel
  obtain ⟨hcommute, hclients⟩ := clients_apart hreached
  let names (reads : Bool) : List String := if reads then ["hk"] else ["hv"]
  have haddressed : ∀ d ∈ benchServer.deedsAt readingFirst, ∀ body, d.body? = some body →
      ∃ name ∈ names (d.job.client == 0), Dispatcher.Addresses name body := by
    rintro ⟨job, reply⟩ hd body hbody
    have hjob : job ∈ (benchServer.deedsAt readingFirst).map (·.job) := List.mem_map.2 ⟨_, hd, rfl⟩
    rw [hjobs] at hjob
    simp only [List.mem_cons, List.not_mem_nil, or_false] at hjob
    rcases hjob with rfl | rfl <;> cases hbody
    · exact ⟨"hk", List.mem_singleton_self _, hreading⟩
    · exact ⟨"hv", List.mem_singleton_self _, hswitching⟩
  have hrequests (reads : Bool) :
      Deed.requests (Deed.doneFor (· == 0) reads (benchServer.deedsAt readingFirst)) =
        Deed.requests (Deed.doneFor (· == 1) reads (benchServer.deedsAt switchingFirst)) := by
    cases reads <;> decide +kernel
  refine ⟨hcommute "hk" (by decide) "hv" (by decide) (by decide) _ _ hreading hswitching, ?_⟩
  refine hclients Bool (· == 0) (· == 1) names (by decide) ?_ _ _ haddressed hrequests
  intro i j name hi hj
  cases i <;> cases j <;> simp_all [names]

end Server

end DetectorControl
