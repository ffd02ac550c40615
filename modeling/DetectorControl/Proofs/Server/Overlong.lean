import DetectorControl.Proofs.Command
import DetectorControl.Proofs.Controller.Port
import DetectorControl.Proofs.Json.Writing
import DetectorControl.Proofs.Server.Order
import DetectorControl.Proofs.Supply.Levels
import DetectorControl.Proofs.Text.Utf8

/-!
# Replies that do not fit into a frame

The reply to a command for a subsystem that does not exist names the subsystem twice
(`length_unknown`), so the command may fit into a frame where its reply does not. Such a reply is let go:
the client that asked is sent nothing (`written_unknown`, `unanswered_of_lettered`).
-/

namespace DetectorControl

/-- How many bytes a text takes inside a string of JSON. -/
def Json.weight (s : String) : Nat := (Bytes.encode (s.toList.flatMap escape)).length

namespace Json

theorem weight_append (s t : String) : weight (s ++ t) = weight s + weight t := by
  simp [weight, Bytes.encode_append]

theorem length_spellString (s : String) : (Bytes.encode (spellString s)).length = weight s + 2 := by
  have hquote : (Bytes.encode ['"']).length = 1 := by decide
  rw [spellString, Bytes.encode_cons_of_lt (by decide), Bytes.encode_append, List.length_cons,
    List.length_append, hquote]
  rfl

theorem weight_ofList_replicate {c : Char} (hplain : escape c = [c]) (hc : c.toNat < 128) (n : Nat) :
    weight (String.ofList (List.replicate n c)) = n := by
  unfold weight
  rw [String.toList_ofList]
  induction n with
  | zero => rfl
  | succ n ih =>
    rw [List.replicate_succ, List.flatMap_cons, hplain, Bytes.encode_append, List.length_append, ih,
      Bytes.encode_cons_of_lt hc]
    exact Nat.add_comm ..

end Json

namespace Wire.Sink

/-- A stream that takes all that it is offered. -/
structure Free (s : Sink) : Prop where
  room : s.room = none
  step : s.step = none
  flush : s.flush = none

variable {s : Sink}

theorem writeAll_free (h : s.Free) (bs : Bytes) :
    s.writeAll bs = (.ok (), { s with taken := bs.reverse ++ s.taken }) := by
  cases bs with
  | nil => rw [writeAll]; rfl
  | cons b rest =>
    have hwrite : s.write (b :: rest) =
        (.ok (rest.length + 1), { s with taken := (b :: rest).reverse ++ s.taken }) := by
      unfold write
      rw [h.room, h.step]
      rfl
    rw [writeAll, hwrite]
    dsimp only
    rw [List.drop_length, writeAll]

theorem writeFrame_free (h : s.Free) {body : Bytes} (hbody : body.length ≤ bodyLimit) :
    s.writeFrame body = (.ok (), { s with taken := (frame body).reverse ++ s.taken, flushed := true }) := by
  have hbehind (taken : Bytes) : Free { s with taken } := ⟨h.room, h.step, h.flush⟩
  unfold writeFrame
  rw [if_neg (Nat.not_lt.2 hbody), writeAll_free h]
  dsimp only
  rw [writeAll_free (hbehind _)]
  dsimp only
  unfold finish
  rw [h.flush, frame, List.reverse_append, List.append_assoc]

theorem writeFrame_tooLarge {body : Bytes} (hbody : bodyLimit < body.length) :
    s.writeFrame body = (.error (.frameTooLarge body.length), s) := if_pos hbody

end Wire.Sink

namespace ReplyFrame

/-- Whether the text of a reply fits into a frame. -/
def Fits (f : ReplyFrame) : Prop := (Bytes.ofString f.text).length ≤ Wire.bodyLimit

instance (f : ReplyFrame) : Decidable f.Fits := inferInstanceAs (Decidable (_ ≤ _))

end ReplyFrame

/-- A client is sent a reply in full, or not at all. -/
theorem ClientStream.taken_told {c : ClientStream} (hopen : c.isOpen = true) (hfree : c.outgoing.Free)
    (f : ReplyFrame) :
    (c.told f).outgoing.taken.reverse = c.outgoing.taken.reverse ++ if f.Fits then f.bytes else [] := by
  rw [told, if_pos hopen]
  split
  · rename_i hfits
    rw [Wire.Sink.writeFrame_free hfree hfits, List.reverse_append, List.reverse_reverse]
    rfl
  · rename_i hfits
    rw [Wire.Sink.writeFrame_tooLarge (Nat.not_le.1 hfits), List.append_nil]

namespace Dispatcher
variable {W : Type}

/-- The reply to a command for a subsystem that does not exist. -/
def unknown (target : String) : ReplyFrame :=
  (Reply.error ("Subsystem '" ++ target ++ "' not found")).frame target

theorem length_encode_cons {c : Char} (hc : c.toNat < 128) (cs : List Char) :
    (Bytes.encode (c :: cs)).length = (Bytes.encode cs).length + 1 := by
  rw [Bytes.encode_cons_of_lt hc, List.length_cons]

/-- It names the subsystem twice. -/
theorem length_unknown (target : String) :
    (Bytes.ofString (unknown target).text).length = 2 * Json.weight target + 68 := by
  have hjson : (unknown target).toJson = .object [("status", .string "error"),
    ("message", .string ("Subsystem '" ++ target ++ "' not found")), ("subsystem", .string target)] := rfl
  have hkeys : Json.weight "status" = 6 ∧ Json.weight "error" = 5 ∧ Json.weight "message" = 7 ∧
      Json.weight "subsystem" = 9 := by decide
  have hmessage : Json.weight "Subsystem '" = 11 ∧ Json.weight "' not found" = 11 := by decide
  obtain ⟨hstatus, herror, hmessageKey, hsubsystem⟩ := hkeys
  rw [ReplyFrame.text, Bytes.ofString_eq, Json.toList_compact, hjson]
  simp only [Json.spell, Json.spellMembers, Bytes.encode_append, List.length_append, Json.length_spellString,
    Json.weight_append, length_encode_cons (show '\x7b'.toNat < 128 by decide),
    length_encode_cons (show '\x7d'.toNat < 128 by decide), length_encode_cons (show ':'.toNat < 128 by decide),
    length_encode_cons (show ','.toNat < 128 by decide), hmessage.1, hmessage.2, hstatus, herror, hmessageKey,
    hsubsystem, Bytes.encode_nil, List.length_nil]
  omega

/-- The command itself names it once. -/
theorem length_request (target verb : String) :
    (Bytes.ofString (Command.request ⟨.ofName target, verb, .empty⟩).text).length =
      Json.weight target + Json.weight verb + 27 := by
  have hjson : (Command.request ⟨.ofName target, verb, .empty⟩).toJson =
      .object [("command", .string (target ++ "." ++ verb)), ("option", .object [])] := by
    show Json.object [("command", .string ((Target.ofName target).name ++ "." ++ verb)), _] = _
    rw [Target.name_ofName]
    rfl
  have hkeys : Json.weight "command" = 7 ∧ Json.weight "." = 1 ∧ Json.weight "option" = 6 := by decide
  obtain ⟨hcommand, hdot, hoption⟩ := hkeys
  rw [Request.text, Bytes.ofString_eq, Json.toList_compact, hjson]
  simp only [Json.spell, Json.spellMembers, Bytes.encode_append, List.length_append, Json.length_spellString,
    Json.weight_append, length_encode_cons (show '\x7b'.toNat < 128 by decide),
    length_encode_cons (show '\x7d'.toNat < 128 by decide), length_encode_cons (show ':'.toNat < 128 by decide),
    length_encode_cons (show ','.toNat < 128 by decide), hcommand, hdot, hoption, Bytes.encode_nil,
    List.length_nil]
  omega

theorem handle_unknown {d : Dispatcher W} {target verb : String} (hname : Named target verb)
    (hcontroller : target ≠ Target.controllerName) (hunknown : d.registry.resolve target = none) (w : W) :
    d.handle (Bytes.ofString (Command.request ⟨.ofName target, verb, .empty⟩).text) w =
      (unknown target, d, w) := by
  have hmissing : (d.registry.resolve target).isNone = true := Option.isNone_iff_eq_none.2 hunknown
  have htarget : Target.ofName target = .subsystem target := if_neg hcontroller
  unfold handle
  rw [decode_plain target verb hname, htarget]
  simp only [dispatch, moduleCommand, hmissing, if_true]
  rfl

end Dispatcher

namespace Server
variable {W : Type} {s : Server W} {j : Job} {queue : List Job} {c : ClientStream}

/-- A job is taken out of the queue, and its client is sent the reply if that fits into a frame, and
otherwise nothing. -/
theorem written_dispatch (hrunning : s.running = true) (hqueue : s.queue = j :: queue)
    (hc : s.clients[j.client]? = some c) (hopen : c.isOpen = true) (hfree : c.outgoing.Free) :
    (s.step .dispatch).queue = queue ∧
      (s.step .dispatch).written j.client =
        s.written j.client ++ if (s.replyTo j).Fits then (s.replyTo j).bytes else [] := by
  have htaken (x : Deed) : (c.attended x).outgoing = (c.told x.reply).outgoing := by
    unfold ClientStream.attended
    split <;> rfl
  rw [step_dispatch hrunning hqueue]
  refine ⟨rfl, ?_⟩
  have hafter : (s.clients.modify j.client (·.attended ⟨j, s.replyTo j⟩))[j.client]? =
      some (c.attended ⟨j, s.replyTo j⟩) := by
    rw [List.getElem?_modify, hc]
    simp
  unfold written
  rw [hafter, hc]
  dsimp only
  rw [htaken, ClientStream.taken_told hopen hfree]

/-! ## A command that fits and a reply that does not -/

theorem readExact_chunk (chunk : Bytes) (h : chunk ≠ []) (rest : Wire.Source) :
    Wire.readExact chunk.length (.bytes chunk :: rest) = (.ok chunk, rest) := by
  have hlength : chunk.length ≠ 0 := fun heq => h (List.length_eq_zero_iff.1 heq)
  rw [Wire.readExact, Wire.fill, if_neg hlength]
  simp only [List.take_length, List.drop_length, List.isEmpty_nil, if_true, Nat.sub_self, List.append_nil]
  rw [Wire.fill_zero, List.reverse_reverse]

theorem readFrame_chunks {body : Bytes} (hne : body ≠ []) (hbody : body.length ≤ Wire.bodyLimit) :
    Wire.readFrame [.bytes (Wire.header body.length), .bytes body] = (.ok body, []) := by
  have hlength : Wire.lengthOf (Wire.header body.length) = body.length :=
    Wire.lengthOf_header (Nat.le_trans hbody (by decide))
  have hhead := readExact_chunk (Wire.header body.length) (by simp [Wire.header]) [.bytes body]
  rw [Wire.length_header] at hhead
  unfold Wire.readFrame
  rw [hhead]
  dsimp only
  rw [hlength, if_neg (Nat.not_lt.2 hbody), readExact_chunk body hne]

def asks (body : Bytes) : ClientStream := { incoming := [.bytes (Wire.header body.length), .bytes body] }

def pending (d : Dispatcher W) (w : W) (body : Bytes) : Server W :=
  { new d w with clients := [{ incoming := [] }], queue := [⟨0, .request body⟩] }

theorem run_asks (d : Dispatcher W) (w : W) {body : Bytes} (hne : body ≠ [])
    (hbody : body.length ≤ Wire.bodyLimit) :
    (new d w).run [.accept (asks body), .read 0] = pending d w body := by
  show read 0 { new d w with clients := [asks body] } = _
  unfold read
  simp [pending, asks, readFrame_chunks hne hbody, workOf, new]

theorem replyTo_pending (d : Dispatcher W) (w : W) (body : Bytes) :
    (pending d w body).replyTo ⟨0, .request body⟩ = (d.handle body w).1 := rfl

/-- A client that sends one frame is sent the reply if it fits. -/
theorem written_asks (d : Dispatcher W) (w : W) {body : Bytes} (hne : body ≠ [])
    (hbody : body.length ≤ Wire.bodyLimit) :
    let s := (new d w).run [.accept (asks body), .read 0, .dispatch]
    s.queue = [] ∧
      s.written 0 = if (d.handle body w).1.Fits then (d.handle body w).1.bytes else [] := by
  intro s
  have hs : s = (pending d w body).step .dispatch := by
    rw [← run_asks d w hne hbody]
    rfl
  have hbefore : (pending d w body).written 0 = [] := rfl
  obtain ⟨hqueue, hwritten⟩ := written_dispatch (s := pending d w body) rfl rfl rfl rfl ⟨rfl, rfl, rfl⟩
  rw [replyTo_pending, hbefore, List.nil_append] at hwritten
  rw [hs]
  exact ⟨hqueue, hwritten⟩

/-- A command for a subsystem that does not exist is taken out of the queue, and it is answered if the name
of the subsystem fits into a frame twice. -/
theorem written_unknown {d : Dispatcher W} {target verb : String} (hname : Dispatcher.Named target verb)
    (hcontroller : target ≠ Target.controllerName) (hunknown : d.registry.resolve target = none) (w : W)
    (hrequest : Json.weight target + Json.weight verb + 27 ≤ Wire.bodyLimit) :
    let body := Bytes.ofString (Command.request ⟨.ofName target, verb, .empty⟩).text
    let s := (new d w).run [.accept (asks body), .read 0, .dispatch]
    s.queue = [] ∧ s.written 0 =
      if 2 * Json.weight target + 68 ≤ Wire.bodyLimit then (Dispatcher.unknown target).bytes else [] := by
  intro body
  have hlength : body.length = Json.weight target + Json.weight verb + 27 :=
    Dispatcher.length_request target verb
  have hne : body ≠ [] := fun heq => by simp [heq] at hlength
  rw [← hlength] at hrequest
  have hwritten := written_asks d w hne hrequest
  rw [Dispatcher.handle_unknown hname hcontroller hunknown w] at hwritten
  simpa only [ReplyFrame.Fits, Dispatcher.length_unknown] using hwritten

def lettered (n : Nat) : String := String.ofList (List.replicate n 'y')

theorem named_lettered (n : Nat) : Dispatcher.Named (lettered n) "z" := by
  have hletter : ∀ c ∈ (lettered n).toList, c = 'y' := by
    intro c hc
    rw [lettered, String.toList_ofList] at hc
    exact (List.mem_replicate.1 hc).2
  refine Command.splitDot_trim ?_ ?_ ?_
  · intro hdot
    cases hletter _ hdot
  · intro c hc
    rw [hletter c (List.mem_of_mem_head? hc)]
    decide
  · rintro c ⟨⟩
    decide

theorem weight_lettered (n : Nat) : Json.weight (lettered n) = n :=
  Json.weight_ofList_replicate (by decide) (by decide) n

theorem lettered_ne {n : Nat} {name : String} (h : name.length < n) : lettered n ≠ name := by
  intro heq
  have hlength : (lettered n).length = n := by rw [lettered, String.length_ofList, List.length_replicate]
  rw [heq] at hlength
  omega

/-- A request whose name fits into a frame once, but not twice, is read and done, and its client is sent
nothing. -/
theorem unanswered_of_lettered {d : Dispatcher W} (w : W) {n : Nat}
    (hnames : ∀ name, name = "controller" ∨ (d.registry.resolve name).isSome = true → name.length < n)
    (hrequest : n + 28 ≤ Wire.bodyLimit) (hreply : Wire.bodyLimit < 2 * n + 68) :
    let body := Bytes.ofString (Command.request ⟨.ofName (lettered n), "z", .empty⟩).text
    let s := (new d w).run [.accept (asks body), .read 0, .dispatch]
    body.length ≤ Wire.bodyLimit ∧ s.queue = [] ∧ s.written 0 = [] := by
  have hverb : Json.weight "z" = 1 := by decide
  have hcontroller : lettered n ≠ Target.controllerName := lettered_ne (hnames _ (.inl rfl))
  have hunknown : d.registry.resolve (lettered n) = none :=
    Option.not_isSome_iff_eq_none.1 fun hsome => lettered_ne (hnames _ (.inr hsome)) rfl
  have hbody := Dispatcher.length_request (lettered n) "z"
  rw [weight_lettered, hverb] at hbody
  have hwritten := written_unknown (named_lettered n) hcontroller hunknown w
    (by rw [weight_lettered, hverb]; exact hrequest)
  rw [weight_lettered, if_neg (Nat.not_le.2 hreply)] at hwritten
  exact ⟨hbody ▸ hrequest, hwritten⟩

/-- The controller of the bench rig. -/
def benchStart : Dispatcher Rig × Rig := Rig.bench.controller { now := ⟨0, "", ""⟩ }

theorem unanswered_bench :
    let body := Bytes.ofString (Command.request ⟨.ofName (lettered 600000), "z", .empty⟩).text
    let s := (new benchStart.1 benchStart.2).run [.accept (asks body), .read 0, .dispatch]
    body.length ≤ Wire.bodyLimit ∧ s.queue = [] ∧ s.written 0 = [] := by
  have hshort : ∀ name ∈ Equipment.names, name.length < 600000 := by decide
  have hnames : ∀ name, name = "controller" ∨ (benchStart.1.registry.resolve name).isSome = true →
      name.length < 600000 := by
    rintro name (rfl | hsome)
    · decide
    · obtain ⟨s, hs⟩ : ∃ s, benchStart.1.registry = Rig.bench.registry s := ⟨_, rfl⟩
      rw [hs, Registry.resolve, Option.isSome_map, Equipment.agrees_registry.isSome_find?_iff] at hsome
      exact hshort name (Equipment.names_registry ▸ hsome)
  exact unanswered_of_lettered benchStart.2 hnames (by decide) (by decide)

end Server

end DetectorControl
