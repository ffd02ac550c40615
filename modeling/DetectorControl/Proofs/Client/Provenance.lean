import DetectorControl.Proofs.Client.Traffic

/-!
# Whose requests are carried out

`Sound` says of the traffic of a client where the bytes of its calls are: each call has sent a first part of its
frame at most once, and this was carried out, or stands on one connection, or never will be. The program keeps
it so (`Sound.serve`), and so does a call that sends on a connection on which nothing stands (`Sound.deliver`).
-/

namespace DetectorControl

/-- The body of the frame of a request. -/
def Request.body (q : Request) : Bytes := Bytes.ofString q.text

namespace Traffic
variable {S : Type}

/-- What was sent, what stands on the connections and what was carried out. Each call has sent at most once, and
no more than its frame. On a connection stands nothing, or what one call has sent and was not carried out. -/
structure Sound (p : Responder S) (start : S) (asked : List (Request × Fate)) (w : Traffic S) : Prop where
  sent : ∀ x ∈ w.sent, ∃ q fate, asked[x.1]? = some (q, fate) ∧ q.body.length ≤ Wire.bodyLimit ∧
    x.2 = fate.outgoing (Wire.frame q.body)
  single : (w.sent.map (·.1)).Nodup
  arrived : ∀ n, (w.lanes n).arrived = [] ∨ ∃ x ∈ w.sent, (w.lanes n).arrived = x.2.map (x.1, ·)
  apart : ∀ m n, ∀ x ∈ (w.lanes m).arrived, ∀ y ∈ (w.lanes n).arrived, x.1 = y.1 → m = n
  executed : ∀ e ∈ w.log, ∃ call, e.By call ∧ (call, Wire.frame e.body) ∈ w.sent
  settled : ∀ e ∈ w.log, ∀ n, ∀ x ∈ (w.lanes n).arrived, x.1 ∉ e.origin
  once : ∀ call, w.log.countP (call ∈ ·.origin) ≤ 1
  answers : p.answers (w.log.map (·.body)) start = (w.log.map (·.answer), w.program)
  untouched : ∀ n, w.opened ≤ n → w.lanes n = {}

variable {p : Responder S} {start : S} {asked : List (Request × Fate)} {w w' : Traffic S} {m n : Nat}

theorem sound_new (p : Responder S) (start : S) : Sound p start [] { program := start } where
  sent := nofun
  single := .nil
  arrived _ := .inl rfl
  apart := nofun
  executed := nofun
  settled := nofun
  once _ := Nat.zero_le _
  answers := rfl
  untouched _ _ := rfl

theorem mem_frame (call : Nat) (body : Bytes) : ∃ b, (call, b) ∈ (Wire.frame body).map (call, ·) :=
  ⟨_, List.mem_cons_self⟩

namespace Sound

theorem eq_of_mem_origin {e : Execution} {call i : Nat} (he : e.By call) (hi : i ∈ e.origin) : i = call := by
  rw [he] at hi
  exact List.eq_of_mem_replicate hi

theorem mem_sent (h : Sound p start asked w) {x : Nat × UInt8} (hx : x ∈ (w.lanes n).arrived) :
    x.1 ∈ w.sent.map (·.1) := by
  obtain hnil | ⟨y, hy, harrived⟩ := h.arrived n
  · rw [hnil] at hx
    cases hx
  · rw [harrived] at hx
    obtain ⟨b, -, rfl⟩ := List.mem_map.1 hx
    exact List.mem_map_of_mem hy

/-- A frame that stands at the front of a connection is all that stands there, and is the frame of a request. -/
theorem of_front (h : Sound p start asked w) {body rest : Bytes}
    (hfront : Wire.front ((w.lanes n).arrived.map (·.2)) = .frame body rest) :
    ∃ call, (call, Wire.frame body) ∈ w.sent ∧ (w.lanes n).arrived = (Wire.frame body).map (call, ·) := by
  obtain hnil | ⟨⟨call, part⟩, hx, harrived⟩ := h.arrived n
  · rw [hnil] at hfront
    cases hfront
  · obtain ⟨q, fate, -, hlimit, hpart⟩ := h.sent _ hx
    have hbytes : (w.lanes n).arrived.map (·.2) = part := by
      rw [harrived, List.map_map]
      exact List.map_id part
    have hprefix := fate.outgoing_prefix (Wire.frame q.body)
    rw [← hpart] at hprefix
    rw [hbytes] at hfront
    obtain ⟨hwhole, rfl, -⟩ := Wire.eq_of_front_part hprefix hlimit hfront
    rw [← hwhole]
    exact ⟨call, hx, harrived⟩

/-- What was carried out is the request of the call that sent it, and all of its frame had gone out. -/
theorem of_executed (h : Sound p start asked w) {e : Execution} (he : e ∈ w.log) :
    ∃ call q fate, e.By call ∧ asked[call]? = some (q, fate) ∧ e.body = q.body ∧
      (call, Wire.frame q.body) ∈ w.sent := by
  obtain ⟨call, hby, hsent⟩ := h.executed e he
  obtain ⟨q, fate, hasked, hlimit, hout⟩ := h.sent _ hsent
  have hout : Wire.frame e.body = fate.outgoing (Wire.frame q.body) := hout
  have hpart : Wire.frame e.body <+: Wire.frame q.body := by
    rw [hout]
    exact fate.outgoing_prefix _
  have hlength : e.body.length ≤ q.body.length := by
    have hle := hpart.length_le
    rw [Wire.frame, Wire.frame, List.length_append, List.length_append] at hle
    exact Nat.le_of_add_le_add_left hle
  have hfront : Wire.front (Wire.frame e.body ++ []) = .frame e.body [] :=
    Wire.front_frame (Nat.le_trans hlength hlimit)
  rw [List.append_nil] at hfront
  obtain ⟨-, hbody, -⟩ := Wire.eq_of_front_part hpart hlimit hfront
  rw [hbody] at hsent
  exact ⟨call, q, fate, hby, hasked, hbody, hsent⟩

theorem lt_opened (h : Sound p start asked w) {x : Nat × UInt8} (hx : x ∈ (w.lanes n).arrived) : n < w.opened := by
  refine Nat.lt_of_not_le fun hn => ?_
  rw [h.untouched n hn] at hx
  cases hx

/-- What has not been read of the answers makes no difference, and neither does the call that is under way. -/
theorem of_arrived (h : Sound p start asked w) (harrived : ∀ n, (w'.lanes n).arrived = (w.lanes n).arrived)
    (hsent : w'.sent = w.sent) (hlog : w'.log = w.log) (hprogram : w'.program = w.program)
    (huntouched : ∀ n, w'.opened ≤ n → w'.lanes n = {}) : Sound p start asked w' := by
  constructor
  case untouched => exact huntouched
  all_goals simp only [harrived, hsent, hlog, hprogram]
  case sent => exact h.sent
  case single => exact h.single
  case arrived => exact h.arrived
  case apart => exact h.apart
  case executed => exact h.executed
  case settled => exact h.settled
  case once => exact h.once
  case answers => exact h.answers

/-! ### The program -/

theorem carryOut (h : Sound p start asked w) {call : Nat} {body : Bytes} (hsent : (call, Wire.frame body) ∈ w.sent)
    (harrived : (w.lanes n).arrived = (Wire.frame body).map (call, ·)) :
    Sound p start asked (w.carryOut p n call body) := by
  obtain ⟨b, hb⟩ := mem_frame call body
  rw [← harrived] at hb
  have hfresh : ∀ e ∈ w.log, call ∉ e.origin := fun e he => h.settled e he n _ hb
  constructor
  case sent => exact h.sent
  case single => exact h.single
  case arrived =>
    intro m
    by_cases hm : m = n
    · exact .inl (List.eq_nil_iff_forall_not_mem.2 fun x hx => (mem_arrived_carryOut hx).1 hm)
    · have hsame : (w.carryOut p n call body).lanes m = w.lanes m := lanes_putLane_of_ne hm
      rw [hsame]
      exact h.arrived m
  case apart =>
    exact fun m m' x hx y hy => h.apart m m' x (mem_arrived_carryOut hx).2 y (mem_arrived_carryOut hy).2
  case executed =>
    intro e he
    rcases List.mem_append.1 he with he | he
    · exact h.executed e he
    · rw [List.mem_singleton.1 he]
      exact ⟨call, rfl, hsent⟩
  case settled =>
    intro e he m x hx
    obtain ⟨hm, hx⟩ := mem_arrived_carryOut hx
    rcases List.mem_append.1 he with he | he
    · exact h.settled e he m x hx
    · rw [List.mem_singleton.1 he]
      exact fun hmem => hm (h.apart m n x hx _ hb (List.eq_of_mem_replicate hmem))
  case once =>
    intro i
    show (w.log ++ [_]).countP _ ≤ 1
    rw [List.countP_append, List.countP_singleton]
    split
    · rename_i hi
      -- a call that is carried out now was not carried out before
      obtain rfl : i = call := List.eq_of_mem_replicate (of_decide_eq_true hi)
      have hnone : w.log.countP (i ∈ ·.origin) = 0 :=
        List.countP_eq_zero.2 fun e he hmem => hfresh e he (of_decide_eq_true hmem)
      exact Nat.le_of_eq (congrArg (· + 1) hnone)
    · exact h.once i
  case answers =>
    show p.answers ((w.log ++ [_]).map _) start = ((w.log ++ [_]).map _, _)
    rw [List.map_append, List.map_append, List.map_singleton, List.map_singleton, Responder.answers_concat, h.answers]
    rfl
  case untouched =>
    intro m hm
    have hne : m ≠ n := Nat.ne_of_gt (Nat.lt_of_lt_of_le (h.lt_opened hb) hm)
    exact (lanes_putLane_of_ne hne).trans (h.untouched m hm)

theorem serve (h : Sound p start asked w) (n : Nat) : Sound p start asked (w.serve p n) := by
  obtain hsame | ⟨body, rest, hfront, hexecute⟩ := serve_cases p w n
  · rw [hsame]
    exact h
  · obtain ⟨call, hsent, harrived⟩ := h.of_front hfront
    rw [hexecute, execute_eq_carryOut harrived]
    exact h.carryOut hsent harrived

theorem serveAll (h : Sound p start asked w) (ns : List Nat) : Sound p start asked (w.serveAll p ns) :=
  serveAll_preserves (fun _ n h => h.serve n) ns h

/-! ### The client -/

theorem call_notMem (h : Sound p start asked w) (hcall : w.call = asked.length) : w.call ∉ w.sent.map (·.1) := by
  intro hmem
  obtain ⟨x, hx, hsame⟩ := List.mem_map.1 hmem
  obtain ⟨q, fate, hasked, -⟩ := h.sent x hx
  obtain ⟨hlt, -⟩ := List.getElem?_eq_some_iff.1 hasked
  omega

theorem skip (h : Sound p start asked w) (next : Request × Fate) : Sound p start (asked ++ [next]) w := by
  refine { h with sent := fun x hx => ?_ }
  obtain ⟨q, fate, hasked, hrest⟩ := h.sent x hx
  obtain ⟨hlt, -⟩ := List.getElem?_eq_some_iff.1 hasked
  exact ⟨q, fate, (List.getElem?_append_left hlt).trans hasked, hrest⟩

/-- A call sends on a connection that it finds empty. -/
theorem deliver (h : Sound p start asked w) (hcall : w.call = asked.length) (hn : n < w.opened)
    (hempty : (w.lanes n).arrived = []) {q : Request} (hlimit : q.body.length ≤ Wire.bodyLimit) :
    Sound p start (asked ++ [(q, w.fate)]) (w.deliver n (w.fate.outgoing (Wire.frame q.body))) := by
  have hnew := h.call_notMem hcall
  generalize hpart : w.fate.outgoing (Wire.frame q.body) = part
  have hself : ((w.deliver n part).lanes n).arrived = part.map (w.call, ·) := by
    refine (congrArg Lane.arrived lanes_putLane_self).trans ?_
    show (w.lanes n).arrived ++ _ = _
    rw [hempty, List.nil_append]
  have hother : ∀ {m}, m ≠ n → (w.deliver n part).lanes m = w.lanes m := fun hm => lanes_putLane_of_ne hm
  -- what stands on a connection is of this call there, and of earlier ones elsewhere
  have hmem : ∀ {m x}, x ∈ ((w.deliver n part).lanes m).arrived →
      m = n ∧ x.1 = w.call ∨ m ≠ n ∧ x ∈ (w.lanes m).arrived ∧ x.1 ≠ w.call := by
    intro m x hx
    by_cases hm : m = n
    · subst hm
      rw [hself] at hx
      obtain ⟨b, -, rfl⟩ := List.mem_map.1 hx
      exact .inl ⟨rfl, rfl⟩
    · rw [hother hm] at hx
      exact .inr ⟨hm, hx, fun heq => hnew (heq ▸ h.mem_sent hx)⟩
  have hskip := h.skip (q, w.fate)
  constructor
  case sent =>
    intro x hx
    rcases List.mem_append.1 hx with hx | hx
    · exact hskip.sent x hx
    · rw [List.mem_singleton.1 hx]
      refine ⟨q, w.fate, ?_, hlimit, hpart.symm⟩
      rw [hcall]
      exact List.getElem?_concat_length
  case single =>
    show ((w.sent ++ [(w.call, part)]).map (·.1)).Nodup
    rw [List.map_append]
    refine List.nodup_append.2 ⟨h.single, List.pairwise_singleton .., fun i hi j hj heq => ?_⟩
    obtain rfl : j = w.call := List.mem_singleton.1 hj
    exact hnew (heq ▸ hi)
  case arrived =>
    intro m
    by_cases hm : m = n
    · subst hm
      exact .inr ⟨(w.call, part), List.mem_append_right _ (List.mem_singleton_self _), hself⟩
    · rw [hother hm]
      exact (h.arrived m).imp_right fun ⟨x, hx, harrived⟩ => ⟨x, List.mem_append_left _ hx, harrived⟩
  case apart =>
    intro m m' x hx y hy heq
    rcases hmem hx with ⟨hm, hcallx⟩ | ⟨-, hx, hnex⟩ <;> rcases hmem hy with ⟨hm', hcally⟩ | ⟨-, hy, hney⟩
    · rw [hm, hm']
    · exact absurd (heq.symm.trans hcallx) hney
    · exact absurd (heq.trans hcally) hnex
    · exact h.apart m m' x hx y hy heq
  case executed =>
    intro e he
    obtain ⟨call, hby, hsent⟩ := h.executed e he
    exact ⟨call, hby, List.mem_append_left _ hsent⟩
  case settled =>
    intro e he m x hx
    rcases hmem hx with ⟨-, hcallx⟩ | ⟨-, hx, -⟩
    · obtain ⟨call, hby, hsent⟩ := h.executed e he
      intro horigin
      have hsame := hcallx.symm.trans (eq_of_mem_origin hby horigin)
      exact hnew (hsame ▸ List.mem_map_of_mem hsent)
    · exact h.settled e he m x hx
  case once => exact h.once
  case answers => exact h.answers
  case untouched =>
    intro m hm
    have hne : m ≠ n := Nat.ne_of_gt (Nat.lt_of_lt_of_le hn hm)
    exact (hother hne).trans (h.untouched m hm)

theorem leave (h : Sound p start asked w) (n : Nat) (rest : Wire.Source) : Sound p start asked (w.leave n rest) := by
  refine h.of_arrived (fun m => ?_) rfl rfl rfl fun m hm => ?_
  · by_cases hm : m = n
    · subst hm
      show ((w.putLane m _).lanes m).arrived = _
      rw [lanes_putLane_self]
    · exact congrArg Lane.arrived (lanes_putLane_of_ne hm)
  · by_cases heq : m = n
    · subst heq
      refine lanes_putLane_self.trans ?_
      rw [h.untouched m hm]
      exact congrArg (Lane.mk []) List.drop_nil
    · exact (lanes_putLane_of_ne heq).trans (h.untouched m hm)

end Sound

end Traffic

end DetectorControl
