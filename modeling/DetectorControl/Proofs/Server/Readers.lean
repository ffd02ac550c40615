import DetectorControl.Proofs.Server.Log
import DetectorControl.Proofs.Wire.Streams

/-!
# What readers make of their streams

The work that is done for a client, and then the work that waits for it in the queue, is what its own
stream of bytes holds, from the front and in order (`InOrder`, `Reads`). Whatever the other connections
bring and whenever the loop takes its turns, a run keeps it so (`ordered_run`).
-/

namespace DetectorControl

/-- Work in the order of a stream of bytes: the bodies of its first frames, and, only behind all frames
in front of it, the header that is too large. -/
structure InOrder (sent : Bytes) (works : List Work) (bodies : List Bytes) (rejected : Option Nat) : Prop where
  works_eq : works = bodies.map .request ++ rejected.toList.map .reject
  begins : bodies <+: (Wire.contents sent).1
  refused : ∀ k ∈ rejected, Wire.contents sent = (bodies, some k)

namespace InOrder
variable {sent : Bytes} {first later : List Work} {bodies : List Bytes} {rejected : Option Nat}

theorem nil (sent : Bytes) : InOrder sent [] [] none := ⟨rfl, List.nil_prefix, nofun⟩

/-- What comes first is in order, and there is no refusal in front of anything. -/
theorem cut (h : InOrder sent (first ++ later) bodies rejected) :
    ∃ bodies' rejected', InOrder sent first bodies' rejected' ∧ (later ≠ [] → rejected' = none) := by
  rcases List.append_eq_append_iff.1 h.works_eq with ⟨as, hbodies, -⟩ | ⟨bs, hfirst, hlater⟩
  · obtain ⟨bodies₁, bodies₂, rfl, rfl, -⟩ := List.map_eq_append_iff.1 hbodies
    exact ⟨bodies₁, none, ⟨(List.append_nil _).symm, (List.prefix_append ..).trans h.begins, nofun⟩,
      fun _ => rfl⟩
  · cases bs with
    | nil => exact ⟨bodies, none, ⟨hfirst, h.begins, nofun⟩, fun _ => rfl⟩
    | cons b bs =>
      -- there is one refusal at most, so nothing is later
      obtain ⟨rfl, rfl⟩ : bs = [] ∧ later = [] := by
        cases rejected <;> simp_all
      refine ⟨bodies, rejected, ⟨?_, h.begins, h.refused⟩, fun hne => absurd rfl hne⟩
      rw [hfirst, hlater, List.append_nil]

end InOrder

/-- What was made of a connection: work in order, and, as long as its reader is at work, all of the
stream but what it still yields. -/
def Reads (sent : Bytes) (works : List Work) (c : ClientStream) : Prop :=
  ∃ bodies rejected, InOrder sent works bodies rejected ∧
    (c.reading = true → rejected = none ∧
      Wire.contents sent =
        (bodies ++ (Wire.contents (Wire.bytesOf c.incoming)).1, (Wire.contents (Wire.bytesOf c.incoming)).2))

namespace Reads
variable {sent : Bytes} {works : List Work} {c c' : ClientStream}

theorem new (c : ClientStream) : Reads (Wire.bytesOf c.incoming) [] c :=
  ⟨[], none, .nil _, fun _ => ⟨rfl, rfl⟩⟩

theorem congr (h : Reads sent works c) (hincoming : c'.incoming = c.incoming)
    (hreading : c'.reading = c.reading) : Reads sent works c' := by
  unfold Reads
  rw [hincoming, hreading]
  exact h

/-- A reader goes on behind a frame, and ends behind all else. -/
theorem heard (h : Reads sent works c) (hreading : c.reading = true) :
    Reads sent (works ++ c.news) c.heard := by
  obtain ⟨bodies, rejected, horder, hleft⟩ := h
  obtain ⟨rfl, hcontents⟩ := hleft hreading
  have hworks : works = bodies.map .request := horder.works_eq.trans (List.append_nil _)
  unfold ClientStream.news ClientStream.heard
  cases hframe : Wire.readFrame c.incoming with
  | mk arrived incoming =>
  cases arrived with
  | ok body =>
    rw [Wire.contents_of_frame (Wire.front_of_readFrame hframe)] at hcontents
    refine ⟨bodies ++ [body], none, ⟨?_, ?_, nofun⟩, fun _ => ⟨rfl, ?_⟩⟩
    · simp [hworks, Server.workOf]
    · simp [hcontents]
    · simp [hcontents]
  | error e =>
    cases e with
    | frameTooLarge bytes =>
      rw [Wire.contents_of_tooLarge (Wire.front_of_readFrame_tooLarge hframe), List.append_nil] at hcontents
      refine ⟨bodies, some bytes, ⟨?_, horder.begins, ?_⟩, nofun⟩
      · simp [hworks, Server.workOf]
      · rintro k ⟨⟩
        exact hcontents
    | _ => exact ⟨bodies, none, ⟨by simp [hworks, Server.workOf], horder.begins, nofun⟩, nofun⟩

end Reads

def Job.worksOf (client : Nat) (jobs : List Job) : List Work :=
  (jobs.filter (·.client = client)).map work

namespace Job
variable {client : Nat} {jobs later : List Job}

theorem worksOf_append : worksOf client (jobs ++ later) = worksOf client jobs ++ worksOf client later := by
  simp [worksOf]

theorem worksOf_map_mk (works : List Work) : worksOf client (works.map (mk client)) = works := by
  simp [worksOf, List.filter_map, Function.comp_def]

theorem worksOf_eq_nil (h : ∀ j ∈ jobs, j.client ≠ client) : worksOf client jobs = [] := by
  simpa [worksOf, List.filter_eq_nil_iff] using h

theorem worksOf_map_job (done : List Deed) :
    worksOf client (done.map (·.job)) = (Deed.of client done).map (·.job.work) := by
  simp [worksOf, Deed.of, List.filter_map, Function.comp_def]

end Job

namespace Server
variable {W : Type} {s s' : Server W} {came came' : List ClientStream} {done done' : List Deed}

/-- The jobs that were done and those that are in the queue, in the order in which they were read. -/
def jobs (done : List Deed) (s : Server W) : List Job := done.map (·.job) ++ s.queue

/-- Every reader keeps to the order of its own connection. -/
structure Ordered (came : List ClientStream) (done : List Deed) (s : Server W) : Prop where
  length : s.clients.length = came.length
  known : ∀ j ∈ s.jobs done, j.client < came.length
  reads : ∀ (n : Nat) (c₀ c : ClientStream), came[n]? = some c₀ → s.clients[n]? = some c →
    Reads (Wire.bytesOf c₀.incoming) (Job.worksOf n (s.jobs done)) c

namespace Ordered

/-- Nothing was read, and the streams are read from as before. -/
theorem modify (h : Ordered came done s) {n : Nat} {f : ClientStream → ClientStream}
    (hclients : s'.clients = s.clients.modify n f) (hjobs : s'.jobs done' = s.jobs done)
    (hincoming : ∀ c, (f c).incoming = c.incoming) (hreading : ∀ c, (f c).reading = c.reading) :
    Ordered came done' s' := by
  refine ⟨?_, by rw [hjobs]; exact h.known, fun m c₀ c hcame hc => ?_⟩
  · rw [hclients, List.length_modify, h.length]
  · rw [hjobs]
    rw [hclients, List.getElem?_modify] at hc
    obtain ⟨c₁, hc₁, hc⟩ := Option.map_eq_some_iff.1 hc
    have hreads := h.reads m c₀ c₁ hcame hc₁
    split at hc <;> subst hc
    · exact hreads.congr (hincoming _) (hreading _)
    · exact hreads

theorem accepted (h : Ordered came done s) (c : ClientStream) (hclients : s'.clients = s.clients ++ [c])
    (hjobs : s'.jobs done = s.jobs done) : Ordered (came ++ [c]) done s' := by
  refine ⟨?_, fun j hj => ?_, fun n c₀ c' hcame hc => ?_⟩
  · rw [hclients, List.length_append, List.length_append, h.length]
  · rw [hjobs] at hj
    have hknown := h.known j hj
    rw [List.length_append]
    omega
  · rw [hjobs]
    rw [hclients] at hc
    have hlength := h.length
    rcases Nat.lt_trichotomy n came.length with hn | rfl | hn
    · rw [List.getElem?_append_left hn] at hcame
      rw [List.getElem?_append_left (by omega)] at hc
      exact h.reads n c₀ c' hcame hc
    · rw [List.getElem?_concat_length] at hcame
      rw [← hlength, List.getElem?_concat_length] at hc
      cases hcame
      cases hc
      rw [Job.worksOf_eq_nil fun j hj => Nat.ne_of_lt (h.known j hj)]
      exact .new c
    · rw [List.getElem?_eq_none (by simp; omega)] at hcame
      cases hcame

theorem heard (h : Ordered came done s) {n : Nat} {c : ClientStream} (hc : s.clients[n]? = some c)
    (hreading : c.reading = true) (hclients : s'.clients = s.clients.set n c.heard)
    (hjobs : s'.jobs done = s.jobs done ++ c.news.map (Job.mk n)) : Ordered came done s' := by
  have hn : n < s.clients.length := (List.getElem?_eq_some_iff.1 hc).1
  refine ⟨?_, fun j hj => ?_, fun m c₀ c' hcame hc' => ?_⟩
  · rw [hclients, List.length_set, h.length]
  · rw [hjobs] at hj
    rcases List.mem_append.1 hj with hj | hj
    · exact h.known j hj
    · obtain ⟨-, -, rfl⟩ := List.mem_map.1 hj
      rw [← h.length]
      exact hn
  · rw [hjobs, Job.worksOf_append]
    rw [hclients, List.getElem?_set] at hc'
    split at hc'
    · rename_i heq
      subst heq
      cases hc'
      rw [Job.worksOf_map_mk]
      exact (h.reads n c₀ c hcame hc).heard hreading
    · rename_i hne
      have hothers : Job.worksOf m (c.news.map (Job.mk n)) = [] := by
        refine Job.worksOf_eq_nil fun j hj => ?_
        obtain ⟨-, -, rfl⟩ := List.mem_map.1 hj
        exact hne
      rw [hothers, List.append_nil]
      exact h.reads m c₀ c' hcame hc'

theorem does {x : Step} (h : Ordered came done s) (hdoes : Does s x came' done' s') :
    Ordered (came ++ came') (done ++ done') s' := by
  cases hdoes with
  | nothing =>
    rw [List.append_nil, List.append_nil]
    exact ⟨h.length, h.known, h.reads⟩
  | @came c =>
    rw [List.append_nil]
    exact h.accepted c rfl rfl
  | heard hc hreading =>
    rw [List.append_nil, List.append_nil]
    exact h.heard hc hreading rfl (List.append_assoc ..).symm
  | relieved =>
    rw [List.append_nil, List.append_nil]
    exact h.modify rfl rfl (fun _ => rfl) fun _ => rfl
  | @did j queue hrunning hqueue =>
    rw [List.append_nil]
    refine h.modify rfl ?_ (fun c => ?_) fun c => ?_
    · simp [jobs, hqueue]
    · unfold ClientStream.attended ClientStream.told
      split <;> split <;> rfl
    · unfold ClientStream.attended ClientStream.told
      split <;> split <;> rfl

end Ordered

theorem ordered_new (d : Dispatcher W) (w : W) : Ordered [] [] (new d w) :=
  ⟨rfl, fun _ hj => absurd hj List.not_mem_nil, fun _ _ _ hcame => absurd hcame (by simp)⟩

theorem ordered_run (d : Dispatcher W) (w : W) (steps : List Step) :
    Ordered ((new d w).arrivals steps) ((new d w).deeds steps) ((new d w).run steps) :=
  run_keeps (fun _ _ _ _ _ _ _ hdoes h => h.does hdoes) (ordered_new d w) steps

end Server

end DetectorControl
