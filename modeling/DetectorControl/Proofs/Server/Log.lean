import DetectorControl.Proofs.Controller.Modules
import DetectorControl.Server.Loop

/-!
# What a server has done

The log of a run, which the server itself does not keep: the connections as they came (`arrivals`), and
the jobs as they were done, each with its reply (`deeds`). What a step can do is said once (`Does`), and
what each step keeps a run keeps (`run_preserves`). The controller is in the state to which the requests
of the log lead (`answered_run`), and a command to stop is the last entry of the log (`deeds_of_stop`).
-/

namespace DetectorControl

/-- A job that was done, and the reply to it. -/
structure Deed where
  job : Job
  reply : ReplyFrame

namespace Deed

/-- The body of the frame, if the job was a request. -/
def body? (x : Deed) : Option Bytes :=
  match x.job.work with
  | .request body => some body
  | .reject _ => none

def requests (done : List Deed) : List Bytes := done.filterMap body?

def answers (done : List Deed) : List ReplyFrame := (done.filter (·.body?.isSome)).map reply

/-- What was done for one client. -/
def of (client : Nat) (done : List Deed) : List Deed := done.filter (·.job.client = client)

theorem requests_concat (done : List Deed) (x : Deed) :
    requests (done ++ [x]) = requests done ++ x.body?.toList := by
  cases h : x.body? <;> simp [requests, h]

theorem answers_concat (done : List Deed) (x : Deed) :
    answers (done ++ [x]) = answers done ++ (x.body?.map fun _ => x.reply).toList := by
  cases h : x.body? <;> simp [answers, h]

theorem of_concat (client : Nat) (done : List Deed) (x : Deed) :
    of client (done ++ [x]) = of client done ++ if x.job.client = client then [x] else [] := by
  by_cases h : x.job.client = client <;> simp [of, h]

theorem of_eq_nil {client : Nat} {done : List Deed} (h : ∀ x ∈ done, x.job.client ≠ client) :
    of client done = [] := by
  simpa [of, List.filter_eq_nil_iff] using h

end Deed

namespace Dispatcher
variable {W : Type}

/-- The replies to the bodies of frames that are handled one after the other. -/
def replies (d : Dispatcher W) (w : W) : List Bytes → List ReplyFrame
  | [] => []
  | body :: rest => (d.handle body w).1 :: (d.handle body w).2.1.replies (d.handle body w).2.2 rest

theorem handleAll_concat (d : Dispatcher W) (w : W) (bodies : List Bytes) (body : Bytes) :
    d.handleAll w (bodies ++ [body]) =
      ((d.handleAll w bodies).1.handle body (d.handleAll w bodies).2).2 := by
  induction bodies generalizing d w with
  | nil => rfl
  | cons first rest ih => exact ih ..

theorem replies_concat (d : Dispatcher W) (w : W) (bodies : List Bytes) (body : Bytes) :
    d.replies w (bodies ++ [body]) =
      d.replies w bodies ++ [((d.handleAll w bodies).1.handle body (d.handleAll w bodies).2).1] := by
  induction bodies generalizing d w with
  | nil => rfl
  | cons first rest ih => exact congrArg ((d.handle first w).1 :: ·) (ih ..)

def stopped : ReplyFrame := (Reply.done.withMessage "Controller has been stopped").frame Target.controllerName

/-- The body of a frame that tells the controller to stop. -/
def Stops (body : Bytes) : Prop := ∃ o, decode body = .ok ⟨.controller, stopVerb, o⟩

theorem handle_stop {body : Bytes} (h : Stops body) (d : Dispatcher W) (w : W) :
    d.handle body w = (stopped, { d with stopping := true }, w) := by
  obtain ⟨o, hdecode⟩ := h
  unfold handle
  simp only [hdecode, dispatch, controllerCommand, if_true]
  rfl

end Dispatcher

namespace ClientStream

/-- The stream once its reader has read a frame. -/
def heard (c : ClientStream) : ClientStream :=
  { c with
    incoming := (Wire.readFrame c.incoming).2
    reading := (Server.workOf (Wire.readFrame c.incoming).1).2 }

def news (c : ClientStream) : List Work := (Server.workOf (Wire.readFrame c.incoming).1).1.toList

/-- The stream once a reply was written to it, in full or not. -/
def told (c : ClientStream) (f : ReplyFrame) : ClientStream :=
  if c.isOpen then { c with outgoing := (c.outgoing.writeFrame (Bytes.ofString f.text)).2 } else c

/-- The stream once a job was done for it. -/
def attended (c : ClientStream) (x : Deed) : ClientStream :=
  match x.job.work with
  | .request _ => c.told x.reply
  | .reject _ => { c.told x.reply with isOpen := false }

/-- The stream once there is room for so many bytes. -/
def relieved (room : Option Nat) (c : ClientStream) : ClientStream :=
  { c with outgoing := { c.outgoing with room } }

end ClientStream

namespace Server
variable {W : Type}

/-- A server to which nobody has come. -/
def new (d : Dispatcher W) (w : W) : Server W := { dispatcher := d, world := w }

def replyTo (s : Server W) (j : Job) : ReplyFrame :=
  match j.work with
  | .request body => (s.dispatcher.handle body s.world).1
  | .reject bytes => rejection bytes

/-- The controller and the world behind a job. -/
def behind (s : Server W) (j : Job) : Dispatcher W × W :=
  match j.work with
  | .request body => (s.dispatcher.handle body s.world).2
  | .reject _ => (s.dispatcher, s.world)

def deed? (s : Server W) (x : Step) : Option Deed :=
  match x, s.running, s.queue with
  | .dispatch, true, j :: _ => some ⟨j, s.replyTo j⟩
  | _, _, _ => none

def arrival? (s : Server W) (x : Step) : Option ClientStream :=
  match x, s.running with
  | .accept c, true => some c
  | _, _ => none

def deeds (s : Server W) : List Step → List Deed
  | [] => []
  | x :: rest => (s.deed? x).toList ++ (s.step x).deeds rest

def arrivals (s : Server W) : List Step → List ClientStream
  | [] => []
  | x :: rest => (s.arrival? x).toList ++ (s.step x).arrivals rest

/-! ## What a step can do -/

/-- What a step takes on and does, and the server after it. -/
inductive Does (s : Server W) (x : Step) : List ClientStream → List Deed → Server W → Prop
  | nothing {running : Bool} (hrunning : running = true → s.running = true) :
    Does s x [] [] { s with running }
  | came {c : ClientStream} (hrunning : s.running = true) :
    Does s x [c] [] { s with clients := s.clients ++ [c] }
  | heard {n : Nat} {c : ClientStream} (hc : s.clients[n]? = some c) (hreading : c.reading = true) :
    Does s x [] [] { s with clients := s.clients.set n c.heard, queue := s.queue ++ c.news.map (Job.mk n) }
  | relieved {n : Nat} {room : Option Nat} (hx : x = .makeRoom n room) :
    Does s x [] [] { s with clients := s.clients.modify n (·.relieved room) }
  | did {j : Job} {queue : List Job} (hrunning : s.running = true) (hqueue : s.queue = j :: queue) :
    Does s x [] [⟨j, s.replyTo j⟩]
      { dispatcher := (s.behind j).1
        world := (s.behind j).2
        clients := s.clients.modify j.client (·.attended ⟨j, s.replyTo j⟩)
        queue
        running := !(s.behind j).1.stopping }

theorem perform_eq (s : Server W) (j : Job) :
    s.perform j =
      { s with
        dispatcher := (s.behind j).1
        world := (s.behind j).2
        clients := s.clients.modify j.client (·.attended ⟨j, s.replyTo j⟩) } := by
  obtain ⟨client, work⟩ := j
  cases work with
  | request body => rfl
  | reject bytes =>
    show { s with clients := (s.clients.modify client _).modify client _ } = _
    rw [List.modify_modify_eq]
    rfl

theorem step_dispatch {s : Server W} {j : Job} {queue : List Job} (hrunning : s.running = true)
    (hqueue : s.queue = j :: queue) :
    s.step .dispatch =
      { dispatcher := (s.behind j).1
        world := (s.behind j).2
        clients := s.clients.modify j.client (·.attended ⟨j, s.replyTo j⟩)
        queue
        running := !(s.behind j).1.stopping } := by
  obtain ⟨dispatcher, world, clients, jobs, running⟩ := s
  cases hrunning
  cases hqueue
  let next : Server W := ⟨dispatcher, world, clients, queue, true⟩
  show { perform j next with running := !(perform j next).dispatcher.stopping } = _
  rw [perform_eq]
  rfl

theorem step_does (s : Server W) (x : Step) :
    Does s x (s.arrival? x).toList (s.deed? x).toList (s.step x) := by
  obtain ⟨dispatcher, world, clients, queue, running⟩ := s
  cases x with
  | accept c =>
    cases running with
    | true => exact .came rfl
    | false => exact .nothing nofun
  | read n =>
    show Does _ _ [] [] (read n _)
    unfold read
    split
    · exact .nothing id
    · rename_i c hc
      split
      · exact .heard hc ‹_›
      · exact .nothing id
  | dispatch =>
    cases running with
    | false => exact .nothing nofun
    | true =>
      cases queue with
      | nil => exact .nothing id
      | cons j queue =>
        show Does _ _ [] [⟨j, replyTo _ j⟩] _
        rw [step_dispatch rfl rfl]
        exact .did rfl rfl
  | interrupt => exact .nothing nofun
  | makeRoom n room => exact .relieved rfl

/-- What a step keeps of every connection with what was done for it: of a new one, of one that is read
from, of one that takes more again, and of one for which something is done. -/
theorem Does.clients {J : List Deed → ClientStream → Prop} {s s' : Server W} {x : Step}
    {came : List ClientStream} {done done' : List Deed} (hdoes : Does s x came done' s')
    (h : ∀ (n : Nat) c, s.clients[n]? = some c → J (Deed.of n done) c)
    (hcame : ∀ c ∈ came, J (Deed.of s.clients.length done) c)
    (hheard : ∀ own c, J own c → J own c.heard)
    (hrelieved : ∀ n room, x = .makeRoom n room → ∀ own c, J own c → J own (c.relieved room))
    (hattended : ∀ y ∈ done', ∀ queue, s.queue = y.job :: queue → ∀ c, s.clients[y.job.client]? = some c →
      J (Deed.of y.job.client done) c → J (Deed.of y.job.client done ++ [y]) (c.attended y)) :
    ∀ (n : Nat) c, s'.clients[n]? = some c → J (Deed.of n (done ++ done')) c := by
  intro n c hc
  cases hdoes with
  | nothing =>
    rw [List.append_nil]
    exact h n c hc
  | @came c' =>
    rw [List.append_nil]
    rw [List.getElem?_append] at hc
    split at hc
    · exact h n c hc
    · rename_i hn
      have hlast : n - s.clients.length < [c'].length := (List.getElem?_eq_some_iff.1 hc).1
      obtain rfl : n = s.clients.length := by
        rw [List.length_singleton] at hlast
        omega
      obtain rfl : c = c' := List.mem_singleton.1 (List.mem_of_getElem? hc)
      exact hcame c (List.mem_singleton_self c)
  | @heard m c₁ hc₁ =>
    have hm : m < s.clients.length := (List.getElem?_eq_some_iff.1 hc₁).1
    rw [List.append_nil]
    rw [List.getElem?_set] at hc
    split at hc
    · rename_i heq
      subst heq
      cases hc
      exact hheard _ c₁ (h m c₁ hc₁)
    · exact h n c hc
  | @relieved m room hx =>
    rw [List.append_nil]
    rw [List.getElem?_modify] at hc
    obtain ⟨c₁, hc₁, hc⟩ := Option.map_eq_some_iff.1 hc
    split at hc <;> subst hc
    · exact hrelieved m room hx _ c₁ (h n c₁ hc₁)
    · exact h n c₁ hc₁
  | @did j queue hrunning hqueue =>
    rw [List.getElem?_modify] at hc
    obtain ⟨c₁, hc₁, hc⟩ := Option.map_eq_some_iff.1 hc
    rw [Deed.of_concat]
    split at hc <;> rename_i heq <;> subst hc
    · subst heq
      rw [if_pos rfl]
      exact hattended _ (List.mem_singleton_self _) queue hqueue c₁ hc₁ (h _ c₁ hc₁)
    · rw [if_neg heq, List.append_nil]
      exact h n c₁ hc₁

/-- Every step of a run is of a kind. -/
def Along (P : Server W → Step → Prop) (s : Server W) : List Step → Prop
  | [] => True
  | x :: rest => P s x ∧ (s.step x).Along P rest

instance decidableAlong {P : Server W → Step → Prop} [∀ s x, Decidable (P s x)] :
    (s : Server W) → (steps : List Step) → Decidable (s.Along P steps)
  | _, [] => isTrue trivial
  | s, x :: rest =>
    have : Decidable ((s.step x).Along P rest) := decidableAlong (s.step x) rest
    inferInstanceAs (Decidable (P s x ∧ (s.step x).Along P rest))

section
variable {P : Server W → Step → Prop} {I : List ClientStream → List Deed → Server W → Prop} {s : Server W}

/-- What every step of a kind keeps, with what it adds to the log, a run of such steps keeps. -/
theorem run_preserves
    (hstep : ∀ came done s x, P s x → I came done s →
      I (came ++ (s.arrival? x).toList) (done ++ (s.deed? x).toList) (s.step x))
    {steps : List Step} (hsteps : s.Along P steps) (h : I [] [] s) :
    I (s.arrivals steps) (s.deeds steps) (s.run steps) := by
  -- the log so far stands in front of what the rest of the run adds to it
  suffices hrest : ∀ came done, I came done s →
      I (came ++ s.arrivals steps) (done ++ s.deeds steps) (s.run steps) from hrest [] [] h
  clear h
  induction steps generalizing s with
  | nil =>
    intro came done h
    simpa only [arrivals, deeds, List.append_nil, run, List.foldl_nil] using h
  | cons x rest ih =>
    intro came done h
    have hrest := ih hsteps.2 _ _ (hstep came done s x hsteps.1 h)
    rw [List.append_assoc, List.append_assoc] at hrest
    exact hrest

/-- What every step keeps, with what it adds to the log, a run keeps. -/
theorem run_keeps
    (hstep : ∀ came done s x s' came' done', Does s x came' done' s' → I came done s →
      I (came ++ came') (done ++ done') s') (h : I [] [] s) (steps : List Step) :
    I (s.arrivals steps) (s.deeds steps) (s.run steps) := by
  have hsteps : ∀ steps (s : Server W), s.Along (fun _ _ => True) steps := by
    intro steps
    induction steps with
    | nil => exact fun _ => trivial
    | cons x rest ih => exact fun s => ⟨trivial, ih _⟩
  exact run_preserves (fun came done s x _ => hstep came done s x _ _ _ (step_does s x)) (hsteps steps s) h

end

/-! ## The controller -/

/-- The requests that were done lead to the state of the controller, and have the replies that were
given; a header that is too large has the one reply that there is to it. -/
structure Answered (d : Dispatcher W) (w : W) (done : List Deed) (s : Server W) : Prop where
  state : d.handleAll w (Deed.requests done) = (s.dispatcher, s.world)
  replies : d.replies w (Deed.requests done) = Deed.answers done
  rejections : ∀ x ∈ done, ∀ bytes, x.job.work = .reject bytes → x.reply = rejection bytes

theorem Answered.did {d : Dispatcher W} {w : W} {done : List Deed} {s : Server W}
    (h : Answered d w done s) (j : Job) {s' : Server W} (hdispatcher : s'.dispatcher = (s.behind j).1)
    (hworld : s'.world = (s.behind j).2) : Answered d w (done ++ [⟨j, s.replyTo j⟩]) s' := by
  obtain ⟨client, work⟩ := j
  have hstate : (s'.dispatcher, s'.world) = s.behind ⟨client, work⟩ := by rw [hdispatcher, hworld]
  refine ⟨?_, ?_, ?_⟩
  · rw [Deed.requests_concat, hstate]
    cases work with
    | request body =>
      show d.handleAll w (Deed.requests done ++ [body]) = _
      rw [Dispatcher.handleAll_concat, h.state]
      rfl
    | reject bytes =>
      show d.handleAll w (Deed.requests done ++ []) = _
      rw [List.append_nil, h.state]
      rfl
  · rw [Deed.requests_concat, Deed.answers_concat]
    cases work with
    | request body =>
      show d.replies w (Deed.requests done ++ [body]) = _
      rw [Dispatcher.replies_concat, h.state, h.replies]
      rfl
    | reject bytes =>
      show d.replies w (Deed.requests done ++ []) = Deed.answers done ++ []
      rw [List.append_nil, List.append_nil, h.replies]
  · intro x hx bytes hwork
    rcases List.mem_append.1 hx with hx | hx
    · exact h.rejections x hx bytes hwork
    · cases List.mem_singleton.1 hx
      cases hwork
      rfl

theorem answered_run (d : Dispatcher W) (w : W) (steps : List Step) :
    Answered d w ((new d w).deeds steps) ((new d w).run steps) := by
  refine run_keeps (I := fun _ done s => Answered d w done s) ?_ ⟨rfl, rfl, nofun⟩ steps
  intro came done s x s' came' done' hdoes h
  cases hdoes with
  | did => exact h.did _ rfl rfl
  | _ =>
    rw [List.append_nil]
    exact ⟨h.state, h.replies, h.rejections⟩

/-! ## The end -/

section
variable {s s' : Server W} {x : Step} {came : List ClientStream} {done : List Deed}

theorem Does.ended (h : Does s x came done s') (hended : s.running = false) :
    done = [] ∧ s'.running = false := by
  cases h with
  | nothing hrunning =>
    refine ⟨rfl, Bool.eq_false_iff.2 fun h => ?_⟩
    cases (hrunning h).symm.trans hended
  | did hrunning => cases hrunning.symm.trans hended
  | _ => exact ⟨rfl, hended⟩

theorem deeds_of_ended (h : s.running = false) (steps : List Step) : s.deeds steps = [] := by
  induction steps generalizing s with
  | nil => rfl
  | cons x rest ih =>
    obtain ⟨hdone, hended⟩ := (step_does s x).ended h
    rw [deeds, hdone, ih hended]
    rfl

/-- A command to stop is answered, and nothing is done after it. -/
theorem deeds_of_stop {steps : List Step} {front rest : List Deed} {x : Deed} {body : Bytes}
    (h : s.deeds steps = front ++ x :: rest) (hbody : x.body? = some body)
    (hstops : Dispatcher.Stops body) : x.reply = Dispatcher.stopped ∧ rest = [] := by
  induction steps generalizing s front with
  | nil => simp [deeds] at h
  | cons y later ih =>
    have hdoes := step_does s y
    rw [deeds] at h
    generalize (s.deed? y).toList = did, (s.arrival? y).toList = came, s.step y = s' at h hdoes
    have hskip (hdid : did = []) : x.reply = Dispatcher.stopped ∧ rest = [] := by
      rw [hdid] at h
      exact ih h
    cases hdoes with
    | @did j queue hrunning hqueue =>
      cases front with
      | cons z front => exact ih (List.cons.inj h).2
      | nil =>
        obtain ⟨rfl, hrest⟩ := List.cons.inj h
        obtain ⟨client, work⟩ := j
        cases work with
        | reject bytes => cases hbody
        | request b =>
          cases hbody
          have hhandle := Dispatcher.handle_stop hstops s.dispatcher s.world
          refine ⟨congrArg Prod.fst hhandle, ?_⟩
          rw [← hrest]
          refine deeds_of_ended ?_ later
          show (!(s.dispatcher.handle body s.world).2.1.stopping) = false
          rw [hhandle]
          rfl
    | _ => exact hskip rfl

end

end Server

end DetectorControl
