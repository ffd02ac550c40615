import DetectorControl.Proofs.Hardware.Board
import DetectorControl.Proofs.Supply.Levels

/-!
# The record of a supply and its board

`Supply.Agrees s w ch`: what the supply has on record for a channel is what the board does, except
for what a switch-off failed to write and no later write has made good. A level is `Stale` if the
reset of a switch-off failed, an output is `Stuck` if the switching itself failed; other failing
writes change neither the record nor the board. Each switch-off brings the agreement about
(`switchOff_agrees`), and so the construction does, and every command keeps it (`handle_agrees`).
-/

namespace DetectorControl

/-- A switch-off could not reset the level of the channel, and the level was not set since. The
reset is the level written directly before the output is switched off. -/
def Stale (channel : Nat) (log : List Attempt) : Prop :=
  ∃ later earlier level done,
    log = later ++ ⟨.output channel false, done⟩ :: ⟨.level channel level, false⟩ :: earlier ∧
      ∀ v, ⟨.level channel v, true⟩ ∉ later

/-- A switch-off could not switch off the output of the channel, and the output was not switched
since. -/
def Stuck (channel : Nat) (log : List Attempt) : Prop :=
  ∃ later earlier, log = later ++ ⟨.output channel false, false⟩ :: earlier ∧
    ∀ on, ⟨.output channel on, true⟩ ∉ later

section
variable {channel : Nat} {log : List Attempt} {a : Attempt}

/-- Nothing but setting the level makes a stale one good. -/
theorem Stale.cons (ha : ∀ v, a ≠ ⟨.level channel v, true⟩) (h : Stale channel log) :
    Stale channel (a :: log) := by
  obtain ⟨later, earlier, level, done, hlog, hlater⟩ := h
  refine ⟨a :: later, earlier, level, done, by rw [hlog]; rfl, fun v hv => ?_⟩
  rcases List.mem_cons.1 hv with hv | hv
  · exact ha v hv.symm
  · exact hlater v hv

theorem Stuck.cons (ha : ∀ on, a ≠ ⟨.output channel on, true⟩) (h : Stuck channel log) :
    Stuck channel (a :: log) := by
  obtain ⟨later, earlier, hlog, hlater⟩ := h
  refine ⟨a :: later, earlier, by rw [hlog]; rfl, fun on hon => ?_⟩
  rcases List.mem_cons.1 hon with hon | hon
  · exact ha on hon.symm
  · exact hlater on hon

end

namespace Board

variable (faults : SupplyDriver.Faults) (b : Board) (log : List Attempt)

/-- A level is set, or the board stays as it is. -/
theorem watched_setLevel (ch : Fin 2) {level : Float} (hlow : 0 ≤ level) (hhigh : level ≤ 3300) :
    (∃ e, (supply.watched faults).setLevel ch level (b, log) =
      (.error e, b, ⟨.level ch level, false⟩ :: log)) ∨
    (supply.watched faults).setLevel ch level (b, log) =
      (.ok (), b.withLevel ch level, ⟨.level ch level, true⟩ :: log) := by
  have heq := setLevel_eq b ch hlow hhigh
  cases hf : faults log with
  | some e =>
    refine .inl ⟨e, ?_⟩
    simp only [SupplyDriver.watched, SupplyDriver.attempt, hf]
  | none =>
    simp only [SupplyDriver.watched, SupplyDriver.attempt, hf, supply, heq]
    by_cases hspi : b.spiFault = true
    · rw [if_pos hspi]
      exact .inl ⟨_, rfl⟩
    · rw [if_neg hspi]
      exact .inr rfl

/-- An output is switched, or the board stays as it is. -/
theorem watched_setOutput (ch : Fin 2) (on : Bool) :
    (∃ e, (supply.watched faults).setOutput ch on (b, log) =
      (.error e, b, ⟨.output ch on, false⟩ :: log)) ∨
    (supply.watched faults).setOutput ch on (b, log) =
      (.ok (), b.withOutput ch on, ⟨.output ch on, true⟩ :: log) := by
  cases hf : faults log with
  | some e =>
    refine .inl ⟨e, ?_⟩
    simp only [SupplyDriver.watched, SupplyDriver.attempt, hf]
  | none =>
    refine .inr ?_
    simp only [SupplyDriver.watched, SupplyDriver.attempt, hf, supply, setOutput_eq]
    rfl

end Board

namespace Supply

/-- The record of a channel is what the board does. -/
structure Agrees (s : Supply) (w : Board × List Attempt) (ch : Fin 2) : Prop where
  level : Stale ch w.2 ∨ (s.channels.get ch).level = w.1.levels.get ch
  output : Stuck ch w.2 ∨ (s.channels.get ch).output = .ofBool (w.1.outputs.get ch)

namespace Agrees
variable {s : Supply} {b : Board} {log : List Attempt} {ch ch' : Fin 2}

theorem withChannel_of_ne {w : Board × List Attempt} (hne : ch ≠ ch') (c : ChannelStatus)
    (h : s.Agrees w ch') : (s.withChannel ch c).Agrees w ch' := by
  have hch := get_withChannel_of_ne s hne c
  exact ⟨by rw [hch]; exact h.level, by rw [hch]; exact h.output⟩

theorem failed (write : SupplyWrite) (h : s.Agrees (b, log) ch) :
    s.Agrees (b, ⟨write, false⟩ :: log) ch :=
  ⟨h.level.imp_left (.cons fun _ => nofun), h.output.imp_left (.cons fun _ => nofun)⟩

theorem level_of_ne (hne : ch ≠ ch') (level : Float) (h : s.Agrees (b, log) ch') :
    s.Agrees (b.withLevel ch level, ⟨.level ch level, true⟩ :: log) ch' := by
  refine ⟨?_, h.output.imp_left (.cons fun _ => nofun)⟩
  rcases h.level with hstale | h
  · refine .inl (hstale.cons fun v hv => hne (Fin.ext ?_))
    injection hv with hwrite
    injection hwrite
  · exact .inr (h.trans (b.levels_withLevel_of_ne hne level).symm)

theorem output_of_ne (hne : ch ≠ ch') (on : Bool) (h : s.Agrees (b, log) ch') :
    s.Agrees (b.withOutput ch on, ⟨.output ch on, true⟩ :: log) ch' := by
  refine ⟨h.level.imp_left (.cons fun _ => nofun), ?_⟩
  rcases h.output with hstuck | h
  · refine .inl (hstuck.cons fun v hv => hne (Fin.ext ?_))
    injection hv with hwrite
    injection hwrite
  · exact .inr (h.trans (congrArg OnOff.ofBool (b.outputs_withOutput_of_ne hne on).symm))

theorem set_level (ch : Fin 2) (level : Float) (h : s.Agrees (b, log) ch') :
    (s.withChannel ch { s.channels.get ch with level }).Agrees
      (b.withLevel ch level, ⟨.level ch level, true⟩ :: log) ch' := by
  by_cases hne : ch = ch'
  · subst hne
    refine ⟨.inr ?_, h.output.imp (.cons fun _ => nofun) fun h => ?_⟩
    · rw [get_withChannel_self, b.levels_withLevel_self]
    · rw [get_withChannel_self]
      exact h
  · exact (h.level_of_ne hne level).withChannel_of_ne hne _

theorem set_output (ch : Fin 2) (h : s.Agrees (b, log) ch') :
    (s.withChannel ch { s.channels.get ch with output := .on }).Agrees
      (b.withOutput ch true, ⟨.output ch true, true⟩ :: log) ch' := by
  by_cases hne : ch = ch'
  · subst hne
    refine ⟨h.level.imp (.cons fun _ => nofun) fun h => ?_, .inr ?_⟩
    · rw [get_withChannel_self]
      exact h
    · rw [get_withChannel_self, b.outputs_withOutput_self]
      rfl
  · exact (h.output_of_ne hne true).withChannel_of_ne hne _

end Agrees

variable (faults : SupplyDriver.Faults)

/-- Whatever was on record for the channel before, and whichever writes fail, the record of a channel
that is switched off agrees. -/
theorem switchOff_agrees_self (ch : Fin 2) (s : Supply) (w : Board × List Attempt) :
    (switchOff (Board.supply.watched faults) ch s w).1.Agrees
      (switchOff (Board.supply.watched faults) ch s w).2 ch := by
  obtain ⟨b, log⟩ := w
  rw [switchOff_eq]
  have hoff : (s.withChannel ch channelOff).channels.get ch = channelOff := get_withChannel_self s ch _
  rcases Board.watched_setLevel faults b log ch Board.zero_le_zero Board.zero_le_highest with ⟨e, hlevel⟩ | hlevel
  · rw [hlevel]
    rcases Board.watched_setOutput faults b (⟨.level ch 0, false⟩ :: log) ch false with ⟨e', hout⟩ | hout
    · rw [hout]
      exact ⟨.inl ⟨[], log, 0, false, rfl, by simp⟩, .inl ⟨[], _, rfl, by simp⟩⟩
    · rw [hout]
      refine ⟨.inl ⟨[], log, 0, true, rfl, by simp⟩, .inr ?_⟩
      rw [hoff, b.outputs_withOutput_self]
      rfl
  · rw [hlevel]
    have hreset : (b.withLevel ch 0).levels.get ch = 0 := b.levels_withLevel_self 0
    rcases Board.watched_setOutput faults (b.withLevel ch 0) (⟨.level ch 0, true⟩ :: log) ch false with
      ⟨e', hout⟩ | hout
    · rw [hout]
      refine ⟨.inr ?_, .inl ⟨[], _, rfl, by simp⟩⟩
      rw [hoff, hreset]
      rfl
    · rw [hout]
      refine ⟨.inr ?_, .inr ?_⟩
      · rw [hoff]
        exact hreset.symm
      · rw [hoff, (b.withLevel ch 0).outputs_withOutput_self]
        rfl

theorem switchOff_agrees_of_ne {ch ch' : Fin 2} (hne : ch ≠ ch') {s : Supply}
    {w : Board × List Attempt} (h : s.Agrees w ch') :
    (switchOff (Board.supply.watched faults) ch s w).1.Agrees
      (switchOff (Board.supply.watched faults) ch s w).2 ch' := by
  obtain ⟨b, log⟩ := w
  rw [switchOff_eq]
  refine .withChannel_of_ne hne _ ?_
  rcases Board.watched_setLevel faults b log ch Board.zero_le_zero Board.zero_le_highest with ⟨e, hlevel⟩ | hlevel
  · rw [hlevel]
    rcases Board.watched_setOutput faults b (⟨.level ch 0, false⟩ :: log) ch false with ⟨e', hout⟩ | hout
    · rw [hout]
      exact (h.failed _).failed _
    · rw [hout]
      exact (h.failed _).output_of_ne hne false
  · rw [hlevel]
    rcases Board.watched_setOutput faults (b.withLevel ch 0) (⟨.level ch 0, true⟩ :: log) ch false with
      ⟨e', hout⟩ | hout
    · rw [hout]
      exact (h.level_of_ne hne 0).failed _
    · rw [hout]
      exact (h.level_of_ne hne 0).output_of_ne hne false

theorem switchOff_agrees (ch : Fin 2) {ch' : Fin 2} {s : Supply} {w : Board × List Attempt}
    (h : s.Agrees w ch') :
    (switchOff (Board.supply.watched faults) ch s w).1.Agrees
      (switchOff (Board.supply.watched faults) ch s w).2 ch' := by
  by_cases hne : ch = ch'
  · subst hne
    exact switchOff_agrees_self faults ch s w
  · exact switchOff_agrees_of_ne faults hne h

/-- The record of a supply that begins agrees with the board, however the board was found. -/
theorem init_agrees (w : Board × List Attempt) (ch : Fin 2) :
    (init (Board.supply.watched faults) w).1.Agrees (init (Board.supply.watched faults) w).2 ch := by
  unfold init
  rw [switchAllOff_eq]
  match ch with
  | 0 => exact switchOff_agrees_of_ne faults (by decide) (switchOff_agrees_self faults 0 _ w)
  | 1 => exact switchOff_agrees_self faults 1 _ _

/-- A command keeps the agreement. -/
theorem handle_agrees {config : Config} {verb : SupplyVerb} {o : Options} {s s' : Supply}
    {w w' : Board × List Attempt} {r : Reply} {ch' : Fin 2} (h : s.Agrees w ch')
    (hafter : handle (Board.supply.watched faults) config verb o s w = ((r, s'), w')) :
    s'.Agrees w' ch' := by
  obtain ⟨b, log⟩ := w
  cases handle_step hafter with
  | status => exact h
  | setRefused => exact h
  | setFailed hsetting hw =>
    rename_i ch level v e
    obtain ⟨-, hlow, hhigh, -⟩ := setting_admits hsetting
    rcases Board.watched_setLevel faults b log ch hlow hhigh with ⟨e', hlevel⟩ | hlevel
    · cases hw.symm.trans hlevel
      exact h.failed _
    · cases hw.symm.trans hlevel
  | set hsetting hw =>
    rename_i ch level v
    obtain ⟨-, hlow, hhigh, -⟩ := setting_admits hsetting
    rcases Board.watched_setLevel faults b log ch hlow hhigh with ⟨e', hlevel⟩ | hlevel
    · cases hw.symm.trans hlevel
    · cases hw.symm.trans hlevel
      exact h.set_level ch level
  | onRefused => exact h
  | onFailed _ hw =>
    rename_i ch e _
    rcases Board.watched_setOutput faults b log ch true with ⟨e', hout⟩ | hout
    · cases hw.symm.trans hout
      exact h.failed _
    · cases hw.symm.trans hout
  | on _ hw =>
    rename_i ch _
    rcases Board.watched_setOutput faults b log ch true with ⟨e', hout⟩ | hout
    · cases hw.symm.trans hout
    · cases hw.symm.trans hout
      exact h.set_output ch
  | offRefused => exact h
  | off => exact switchOff_agrees faults _ h
  | offAll =>
    rw [switchAllOff_eq]
    exact switchOff_agrees faults 1 (switchOff_agrees faults 0 h)

/-- Handles commands one after the other. -/
def handleAll {W : Type} (d : SupplyDriver W) (config : Config) (s : Supply) (w : W) :
    List (SupplyVerb × Options) → Supply × W
  | [] => (s, w)
  | (verb, o) :: rest =>
    handleAll d config (handle d config verb o s w).1.2 (handle d config verb o s w).2 rest

theorem handleAll_agrees (config : Config) {s : Supply} {w : Board × List Attempt} {ch : Fin 2}
    (h : s.Agrees w ch) (commands : List (SupplyVerb × Options)) :
    (handleAll (Board.supply.watched faults) config s w commands).1.Agrees
      (handleAll (Board.supply.watched faults) config s w commands).2 ch := by
  induction commands generalizing s w with
  | nil => exact h
  | cons command rest ih => exact ih (handle_agrees faults h rfl)

/-- The supply of a board, and the board, after the commands; the supply is made on the board as it is
found, and its writes may fail at any time. -/
def session (faults : SupplyDriver.Faults) (config : Config) (b : Board)
    (commands : List (SupplyVerb × Options)) : Supply × Board × List Attempt :=
  let begun := init (Board.supply.watched faults) (b, [])
  handleAll (Board.supply.watched faults) config begun.1 begun.2 commands

theorem session_agrees (config : Config) (b : Board) (commands : List (SupplyVerb × Options))
    (ch : Fin 2) :
    (session faults config b commands).1.Agrees (session faults config b commands).2 ch :=
  handleAll_agrees faults config (init_agrees faults (b, []) ch) commands

theorem status_field (s : Supply) (ch : Fin 2) :
    s.status.field? (toString ch) = some (s.channels.get ch).toJson := by
  match ch with
  | 0 => rfl
  | 1 => rfl

theorem onReply_fields (ch : Fin 2) (level : Float) :
    (onReply ch level).field? "ch" = some (.nat ch) ∧
      (onReply ch level).field? "value_in_mV" = some (.float level) :=
  ⟨rfl, rfl⟩

/-- What a supply reports after any commands and any failing writes. A channel is reported to be on
exactly if its output is, except while the output is stuck, and with the level of the board, except
while that level is stale. A channel that is switched on reports such a level, too, and its output
is on. -/
theorem reports_of_session (faults : SupplyDriver.Faults) (config : Config) (b : Board)
    (commands : List (SupplyVerb × Options)) :
    let after := session faults config b commands
    let handle := handle (Board.supply.watched faults) config
    (∀ (ch : Fin 2) (o : Options), ∃ c : ChannelStatus,
      (handle .status o after.1 after.2).1.1.field? (toString ch) = some c.toJson ∧
        (Stuck ch after.2.2 ∨ c.output = .ofBool (after.2.1.outputs.get ch)) ∧
        (Stale ch after.2.2 ∨ c.level = after.2.1.levels.get ch)) ∧
    ∀ o r s w, handle .on o after.1 after.2 = ((r, s), w) → r.isOk = true →
      ∃ (ch : Fin 2) (level : Float), r.field? "ch" = some (.nat ch) ∧
        r.field? "value_in_mV" = some (.float level) ∧ w.1.outputs.get ch = true ∧
        (Stale ch w.2 ∨ level = w.1.levels.get ch) := by
  intro after handle
  have hagrees : ∀ ch, after.1.Agrees after.2 ch := session_agrees faults config b commands
  refine ⟨fun ch o => ⟨after.1.channels.get ch, status_field after.1 ch, (hagrees ch).output,
    (hagrees ch).level⟩, fun o r s w hon hok => ?_⟩
  have hlevel := fun ch => (handle_agrees faults (hagrees ch) hon).level
  cases handle_step hon with
  | onRefused => cases hok
  | onFailed => cases hok
  | on _ hw =>
    rename_i ch _
    refine ⟨ch, _, (onReply_fields ch _).1, (onReply_fields ch _).2, ?_, ?_⟩
    · rcases Board.watched_setOutput faults after.2.1 after.2.2 ch true with ⟨e', hout⟩ | hout
      · cases hw.symm.trans hout
      · cases hw.symm.trans hout
        exact after.2.1.outputs_withOutput_self true
    · have hrecord := hlevel ch
      rw [get_withChannel_self] at hrecord
      exact hrecord

/-- The DAC of a board on which channel 0 was set to 1500 mV does not answer. The channel is switched
on, and is reported to be on at 0 mV, but it drives 1500 mV. -/
theorem unreset_level_unreported :
    let board : Board := { levels := #v[1500, 0], spiFault := true }
    let after := session (fun _ => none) .bench board [(.on, .ofPairs [("ch", .nat 0)])]
    after.2.1.outputs.get 0 = true ∧ after.2.1.levels.get 0 = 1500 ∧
      after.1.status.field? "0" = some (ChannelStatus.toJson ⟨.on, 0⟩) ∧ (0 : Float) ≠ 1500 := by
  intro board after
  have houtput : (after.1.channels.get 0).output = .on := by decide +kernel
  have hlevel : (after.1.channels.get 0).level = 0 := by decide +kernel
  have hstatus := status_field after.1 0
  refine ⟨by decide +kernel, by decide +kernel, hstatus.trans ?_, by decide +kernel⟩
  unfold ChannelStatus.toJson
  rw [houtput, hlevel]

end Supply

end DetectorControl
