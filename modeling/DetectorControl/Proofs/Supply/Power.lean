import DetectorControl.Proofs.Controller.Port
import DetectorControl.Proofs.Supply.Levels
import DetectorControl.Proofs.World.Plant

/-!
# A channel that is switched on

Two commands switch a channel on: the one asks for a level, and the other enables the output. They come to
the controller as texts, so the level that the supply is asked for is the one that is read where a level is
written. A channel takes a level if the configuration admits it (`Channel.asked`), it is enabled in any case,
and the other channel stays as it is (`turned`).
-/

namespace DetectorControl

theorem Config.admits_iff {c : Config} {channel : Nat} {level : Float} :
    c.Admits channel level ↔ level.isFinite = true ∧ 0 ≤ level ∧ level ≤ 3300 ∧
      (c.limits.isSome = true → c.conversion.isSome = true →
        ∃ v ∈ c.voltage? channel level, v ≤ c.limit channel) := by
  constructor
  · rintro ⟨hfinite, hlow, hhigh, hlimit⟩
    refine ⟨hfinite, hlow, hhigh, fun hlimits hconversion => ?_⟩
    obtain ⟨v, hv, hle, -⟩ := hlimit hlimits hconversion
    exact ⟨v, hv, hle⟩
  · rintro ⟨hfinite, hlow, hhigh, hlimit⟩
    refine ⟨hfinite, hlow, hhigh, fun hlimits hconversion => ?_⟩
    obtain ⟨v, hv, hle⟩ := hlimit hlimits hconversion
    exact ⟨v, hv, hle, Decimal.not_isNaN_of_le hle⟩

instance (c : Config) (channel : Nat) (level : Float) : Decidable (c.Admits channel level) :=
  decidable_of_iff' _ Config.admits_iff

/-! ## What the commands ask for -/

namespace Supply
variable {config : Config} {o : Options} {ch : Fin 2} {n : Number}

theorem channelOption_eq_ok_iff {command : String} :
    channelOption command o = .ok ch ↔ o.integer "ch" = .ok (ch : Int) := by
  unfold channelOption
  constructor
  · intro h
    split at h <;> cases h <;> assumption
  · intro h
    rw [h]
    match ch with
    | 0 => rfl
    | 1 => rfl

theorem levelOption_eq_ok_iff {level : Float} :
    levelOption o = .ok level ↔ o.number "value_in_mV" = .ok level ∧ levelInRange level = true := by
  unfold levelOption
  cases o.number "value_in_mV" with
  | error e => cases e <;> exact ⟨nofun, nofun⟩
  | ok x =>
    constructor
    · intro h
      simp only at h
      split at h <;> cases h
      exact ⟨rfl, ‹_›⟩
    · rintro ⟨h, hrange⟩
      cases h
      exact if_pos hrange

/-- What is set is the level that is asked for, if it is admitted. -/
theorem setting_eq_ok_iff {level : Float} : (∃ v, setting config o = .ok (ch, level, v)) ↔
    o.integer "ch" = .ok (ch : Int) ∧ o.number "value_in_mV" = .ok level ∧ config.Admits ch level := by
  constructor
  · rintro ⟨v, h⟩
    have hadmits := setting_admits h
    obtain ⟨ch', hch, h⟩ := bind_eq_ok_iff.1 h
    obtain ⟨level', hlevel, h⟩ := bind_eq_ok_iff.1 h
    obtain ⟨v', -, h⟩ := bind_eq_ok_iff.1 h
    cases h
    exact ⟨channelOption_eq_ok_iff.1 hch, (levelOption_eq_ok_iff.1 hlevel).1, hadmits⟩
  · rintro ⟨hch, hlevel, h⟩
    have hrange : levelInRange level = true := by
      simp only [levelInRange, levelMin, levelMax, Bool.and_eq_true]
      exact ⟨decide_eq_true h.low, decide_eq_true h.high⟩
    obtain ⟨v, hv⟩ : ∃ v, voltage config ch level = .ok v := by
      unfold voltage
      by_cases hlimited : config.limited = true
      · obtain ⟨hlimits, hconversion⟩ := Config.limited_iff.1 hlimited
        obtain ⟨v, hv, hle, -⟩ := h.limit hlimits hconversion
        rw [if_pos hlimited]
        simp only [hv, if_pos hle]
        exact ⟨v, rfl⟩
      · rw [if_neg hlimited]
        exact ⟨0, rfl⟩
    refine ⟨v, ?_⟩
    unfold setting
    rw [channelOption_eq_ok_iff.2 hch, levelOption_eq_ok_iff.2 ⟨hlevel, hrange⟩]
    simp only [bind, Except.bind, hv]
    rfl

theorem integer_of_get? (h : o.get? "ch" = some (.nat ch)) : o.integer "ch" = .ok (ch : Int) := by
  have hnumber : ∀ ch : Fin 2, (Options.numberOf? (.nat ch)).bind Options.integerOf? = some (ch : Int) := by
    decide +kernel
  obtain ⟨x, hx, hinteger⟩ := Option.bind_eq_some_iff.1 (hnumber ch)
  unfold Options.integer Options.number
  rw [h]
  simp only [hx, bind, Except.bind, hinteger]

theorem number_of_get? {key : String} (h : o.get? key = some (.number n)) (hfinite : n.toFloat.isFinite = true) :
    o.number key = .ok n.toFloat := by
  have hnumber : Options.numberOf? (.number n) = some n.toFloat := Option.filter_eq_some_iff.2 ⟨rfl, hfinite⟩
  unfold Options.number
  rw [h]
  simp only [hnumber]

theorem eq_of_number {key : String} {x : Float} (h : o.get? key = some (.number n)) (hx : o.number key = .ok x) :
    x = n.toFloat := by
  by_cases hfinite : n.toFloat.isFinite = true
  · exact Except.ok.inj (hx.symm.trans (number_of_get? h hfinite))
  · have hnumber : Options.numberOf? (.number n) = none := by
      show (some n.toFloat).filter Float.isFinite = none
      rw [Option.filter_some, if_neg hfinite]
    unfold Options.number at hx
    rw [h] at hx
    simp only [hnumber] at hx
    cases hx

/-- A level that is admitted is set. -/
theorem setting_of_admits (hch : o.get? "ch" = some (.nat ch)) (hlevel : o.get? "value_in_mV" = some (.number n))
    (h : config.Admits ch n.toFloat) : ∃ v, setting config o = .ok (ch, n.toFloat, v) :=
  setting_eq_ok_iff.2 ⟨integer_of_get? hch, number_of_get? hlevel h.finite, h⟩

theorem admits_of_setting (hch : o.get? "ch" = some (.nat ch)) (hlevel : o.get? "value_in_mV" = some (.number n))
    {ch' : Fin 2} {level v : Float} (h : setting config o = .ok (ch', level, v)) : config.Admits ch n.toFloat := by
  obtain ⟨hch', hlevel', hadmits⟩ := setting_eq_ok_iff.1 ⟨v, h⟩
  obtain rfl : ch' = ch := Fin.ext (Int.ofNat_inj.1 (Except.ok.inj (hch'.symm.trans (integer_of_get? hch))))
  rwa [← eq_of_number hlevel hlevel']

end Supply

/-! ## What becomes of a channel -/

/-- A channel, as it is recorded and as it is. -/
structure Channel where
  record : ChannelStatus
  level : Float
  output : Bool

namespace Channel

/-- The channels of a board and of the record that is kept of it. -/
def of (x : Supply × Board) (ch : Fin 2) : Channel :=
  ⟨x.1.channels.get ch, x.2.levels.get ch, x.2.outputs.get ch⟩

/-- The board has such a channel under the given number. -/
def On (c : Channel) (ch : Fin 2) (b : Board) : Prop := b.levels.get ch = c.level ∧ b.outputs.get ch = c.output

def leveled (level : Float) (c : Channel) : Channel := { c with record := { c.record with level }, level }

def enabled (c : Channel) : Channel := { c with record := { c.record with output := .on }, output := true }

/-- The channel takes a level if it is admitted. -/
def asked (config : Config) (ch : Fin 2) (level : Float) (c : Channel) : Channel :=
  if config.Admits ch level then c.leveled level else c

end Channel

/-- One channel changes in a certain way, and the other not at all. -/
def turned (ch : Fin 2) (f : Channel → Channel) (view : Fin 2 → Channel) : Fin 2 → Channel :=
  fun ch' => if ch' = ch then f (view ch') else view ch'

theorem turned_self (ch : Fin 2) (f : Channel → Channel) (view : Fin 2 → Channel) :
    turned ch f view ch = f (view ch) :=
  if_pos rfl

theorem turned_of_ne {ch ch' : Fin 2} {f : Channel → Channel} {view : Fin 2 → Channel} (h : ch' ≠ ch) :
    turned ch f view ch' = view ch' :=
  if_neg h

theorem turned_turned (ch : Fin 2) (f g : Channel → Channel) (view : Fin 2 → Channel) :
    turned ch g (turned ch f view) = turned ch (g ∘ f) view := by
  funext ch'
  unfold turned
  split <;> rfl

theorem turned_id (ch : Fin 2) (view : Fin 2 → Channel) : turned ch id view = view := by
  funext ch'
  exact ite_self _

namespace Channel

/-- One channel is recorded anew, and the board has changed in that channel only. -/
theorem of_withChannel {ch : Fin 2} {c : ChannelStatus} {f : Channel → Channel} {s : Supply} {b b' : Board}
    (hself : ⟨c, b'.levels.get ch, b'.outputs.get ch⟩ = f (of (s, b) ch))
    (hlevels : ∀ ch', ch ≠ ch' → b'.levels.get ch' = b.levels.get ch')
    (houtputs : ∀ ch', ch ≠ ch' → b'.outputs.get ch' = b.outputs.get ch') :
    of (s.withChannel ch c, b') = turned ch f (of (s, b)) := by
  funext ch'
  by_cases heq : ch' = ch
  · subst heq
    rw [turned_self, ← hself, of, Supply.get_withChannel_self]
  · have hne := Ne.symm heq
    rw [turned_of_ne heq, of, Supply.get_withChannel_of_ne s hne, hlevels ch' hne, houtputs ch' hne]
    rfl

theorem of_level (ch : Fin 2) (level : Float) (s : Supply) (b : Board) :
    of (s.withChannel ch { s.channels.get ch with level }, b.withLevel ch level) =
      turned ch (.leveled level) (of (s, b)) := by
  refine of_withChannel ?_ (fun ch' hne => b.levels_withLevel_of_ne hne level) fun _ _ => rfl
  rw [b.levels_withLevel_self]
  rfl

theorem of_output (ch : Fin 2) (s : Supply) (b : Board) :
    of (s.withChannel ch { s.channels.get ch with output := .on }, b.withOutput ch true) =
      turned ch .enabled (of (s, b)) := by
  refine of_withChannel ?_ (fun _ _ => rfl) fun ch' hne => b.outputs_withOutput_of_ne hne true
  rw [b.outputs_withOutput_self]
  rfl

end Channel

namespace Plant
variable {P : Type} {a : Acquirer P} {config : Config} {host : Host} {endpoints : Rig.Endpoints}
  {o : Options} {ch : Fin 2} {n : Number}

theorem handle_set (hch : o.get? "ch" = some (.nat ch)) (hlevel : o.get? "value_in_mV" = some (.number n))
    (s : Supply) {w : Plant P} (hspi : w.board.spiFault = false) :
    ∃ r s' b, Supply.handle (equipment a config host endpoints).supply config .set o s w = ((r, s'), w.putBoard b) ∧
      b.spiFault = w.board.spiFault ∧
      Channel.of (s', b) = turned ch (.asked config ch n.toFloat) (.of (s, w.board)) := by
  by_cases hadmits : config.Admits ch n.toFloat
  · obtain ⟨v, hsetting⟩ := Supply.setting_of_admits hch hlevel hadmits
    have hboard : (equipment a config host endpoints).supply.setLevel ch n.toFloat w =
        (.ok (), w.putBoard (w.board.withLevel ch n.toFloat)) := by
      show ((Board.setLevel ch n.toFloat w.board).1, w.putBoard (Board.setLevel ch n.toFloat w.board).2) = _
      rw [Board.setLevel_eq _ _ hadmits.low hadmits.high, hspi]
      rfl
    refine ⟨Supply.setReply ch n.toFloat v, s.withChannel ch { s.channels.get ch with level := n.toFloat },
      w.board.withLevel ch n.toFloat, ?_, rfl, ?_⟩
    · show Supply.set _ config o s w = _
      unfold Supply.set
      simp only [hsetting, bind, StateT.bind, hboard]
      rfl
    · have hasked : Channel.asked config ch n.toFloat = .leveled n.toFloat := funext fun _ => if_pos hadmits
      rw [hasked]
      exact Channel.of_level ch n.toFloat s w.board
  · obtain ⟨message, hrefused⟩ : ∃ message, Supply.setting config o = .error message := by
      cases hsetting : Supply.setting config o with
      | error message => exact ⟨message, rfl⟩
      | ok setting =>
        obtain ⟨ch', level, v⟩ := setting
        exact absurd (Supply.admits_of_setting hch hlevel hsetting) hadmits
    refine ⟨.error message, s, w.board, ?_, rfl, ?_⟩
    · show Supply.set _ config o s w = _
      unfold Supply.set
      simp only [hrefused]
      rfl
    · have hasked : Channel.asked config ch n.toFloat = id := funext fun _ => if_neg hadmits
      rw [hasked, turned_id]

theorem handle_on (hch : o.get? "ch" = some (.nat ch)) (s : Supply) (w : Plant P) :
    ∃ r s' b, Supply.handle (equipment a config host endpoints).supply config .on o s w = ((r, s'), w.putBoard b) ∧
      b.spiFault = w.board.spiFault ∧ Channel.of (s', b) = turned ch .enabled (.of (s, w.board)) := by
  have hboard : (equipment a config host endpoints).supply.setOutput ch true w =
      (.ok (), w.putBoard (w.board.withOutput ch true)) := by
    show ((Board.setOutput ch true w.board).1, w.putBoard (Board.setOutput ch true w.board).2) = _
    rw [Board.setOutput_eq]
  refine ⟨Supply.onReply ch (s.channels.get ch).level, s.withChannel ch { s.channels.get ch with output := .on },
    w.board.withOutput ch true, ?_, rfl, Channel.of_output ch s w.board⟩
  show Supply.switchOn _ o s w = _
  unfold Supply.switchOn
  simp only [Supply.channelOption_eq_ok_iff.2 (Supply.integer_of_get? hch), bind, StateT.bind, hboard]
  rfl

end Plant

end DetectorControl
