import DetectorControl.Proofs.Supply.Power

/-!
# What a command to the supply touches

A board refuses a write or carries it out as a whole. So a command that is refused leaves the record and the
board as they are (`handle_keeps`), and one that is carried out, which is so exactly if it is allowed
(`isOk_iff`), turns the channels that it is about, in their record and on the board, and no others
(`handle_change`). Only a switch-off while the DAC does not answer leaves a level on the board that is not on
record.
-/

namespace DetectorControl

namespace Channel

/-- What is on record is what the board does. -/
def Known (c : Channel) : Prop := c.record = ⟨.ofBool c.output, c.level⟩

def OutputKnown (c : Channel) : Prop := c.record.output = .ofBool c.output

/-- A channel that is switched off keeps its level if the DAC does not answer. -/
def disabled (fault : Bool) (c : Channel) : Channel where
  record := Supply.channelOff
  level := if fault then c.level else 0
  output := false

end Channel

namespace SupplyVerb

/-- The channels that a command is about. -/
def Concerns (o : Options) (ch : Fin 2) : SupplyVerb → Prop
  | .status => False
  | .set | .on | .off => o.integer "ch" = .ok (ch : Int)
  | .offAll => True

/-- What makes a command succeed. -/
def Allowed (config : Config) (o : Options) (fault : Bool) : SupplyVerb → Prop
  | .status | .offAll => True
  | .on | .off => ∃ ch : Fin 2, o.integer "ch" = .ok (ch : Int)
  | .set => fault = false ∧ ∃ (ch : Fin 2) (level : Float),
    o.integer "ch" = .ok (ch : Int) ∧ o.number "value_in_mV" = .ok level ∧ config.Admits ch level

/-- What becomes of a channel that a command is about. -/
inductive Turns (o : Options) (fault : Bool) (c : Channel) : SupplyVerb → Channel → Prop
  | set {level : Float} (h : o.number "value_in_mV" = .ok level) : Turns o fault c .set (c.leveled level)
  | on : Turns o fault c .on c.enabled
  | off : Turns o fault c .off (c.disabled fault)
  | offAll : Turns o fault c .offAll (c.disabled fault)

variable {verb : SupplyVerb} {o : Options} {fault : Bool} {c c' : Channel} {ch ch' : Fin 2}

namespace Turns

theorem output_eq (h : Turns o fault c .set c') : c'.record.output = c.record.output ∧ c'.output = c.output := by
  cases h
  exact ⟨rfl, rfl⟩

theorem level_eq (h : Turns o fault c .on c') : c'.record.level = c.record.level ∧ c'.level = c.level := by
  cases h
  exact ⟨rfl, rfl⟩

/-- Setting and switching off bring record and board together. -/
theorem known (h : Turns o false c verb c') (hverb : verb ≠ .on) (hknown : c.OutputKnown) : c'.Known := by
  cases h with
  | set => exact congrArg (ChannelStatus.mk · _) hknown
  | on => exact absurd rfl hverb
  | off | offAll => rfl

theorem outputKnown (h : Turns o fault c verb c') (hknown : c.OutputKnown) : c'.OutputKnown := by
  cases h with
  | set => exact hknown
  | on | off | offAll => rfl

end Turns

theorem integer_inj (h : o.integer "ch" = .ok (ch : Int)) (h' : o.integer "ch" = .ok (ch' : Int)) : ch' = ch :=
  Fin.ext (Int.ofNat_inj.1 (Except.ok.inj (h'.symm.trans h)))

end SupplyVerb

/-- What a command has made of the channels: it has turned those that it is about. -/
structure Supply.Change (o : Options) (fault : Bool) (verb : SupplyVerb) (view view' : Fin 2 → Channel) : Prop where
  turns : ∀ ch, verb.Concerns o ch → verb.Turns o fault (view ch) (view' ch)
  keeps : ∀ ch, ¬ verb.Concerns o ch → view' ch = view ch

namespace Supply
variable {config : Config} {verb : SupplyVerb} {o : Options} {ch : Fin 2} {s s' : Supply} {b b' : Board} {r : Reply}
  {fault : Bool} {view view' : Fin 2 → Channel}

namespace Change

theorem of_turned {f : Channel → Channel} (hconcerns : ∀ ch', verb.Concerns o ch' ↔ ch' = ch)
    (h : verb.Turns o fault (view ch) (f (view ch))) : Change o fault verb view (turned ch f view) := by
  refine ⟨fun ch' hch' => ?_, fun ch' hch' => turned_of_ne (mt (hconcerns ch').2 hch')⟩
  obtain rfl := (hconcerns ch').1 hch'
  rwa [turned_self]

theorem outputKnown (h : Change o fault verb view view') (hknown : ∀ ch, (view ch).OutputKnown) (ch : Fin 2) :
    (view' ch).OutputKnown := by
  by_cases hch : verb.Concerns o ch
  · exact (h.turns ch hch).outputKnown (hknown ch)
  · rw [h.keeps ch hch]
    exact hknown ch

/-- What a command of the kind leaves alone in the channels that it is about it leaves alone in all. -/
theorem forall_eq {α : Type} (h : Change o fault verb view view') (get : Channel → α)
    (hturns : ∀ {c c'}, verb.Turns o fault c c' → get c' = get c) (ch : Fin 2) : get (view' ch) = get (view ch) := by
  by_cases hch : verb.Concerns o ch
  · exact hturns (h.turns ch hch)
  · rw [h.keeps ch hch]

end Change

/-! ## Writes to the board -/

/-- A level that may be set is written if the DAC answers. -/
theorem board_setLevel {level v : Float} (h : setting config o = .ok (ch, level, v)) {x : Except HardwareError Unit}
    (hw : Board.supply.setLevel ch level b = (x, b')) :
    (∃ e, x = .error e ∧ b.spiFault = true ∧ b' = b) ∨
      (x = .ok () ∧ b.spiFault = false ∧ b' = b.withLevel ch level) := by
  obtain ⟨-, hlow, hhigh, -⟩ := setting_admits h
  have heq := hw.symm.trans (Board.setLevel_eq b ch hlow hhigh)
  cases hfault : b.spiFault with
  | true =>
    rw [if_pos hfault] at heq
    cases heq
    exact .inl ⟨_, rfl, rfl, rfl⟩
  | false =>
    rw [if_neg (by simp [hfault])] at heq
    cases heq
    exact .inr ⟨rfl, rfl, rfl⟩

theorem board_setOutput {on : Bool} {x : Except HardwareError Unit}
    (hw : Board.supply.setOutput ch on b = (x, b')) : x = .ok () ∧ b' = b.withOutput ch on := by
  cases hw.symm.trans (Board.setOutput_eq b ch on)
  exact ⟨rfl, rfl⟩

theorem board_switchOff (ch : Fin 2) (s : Supply) (b : Board) :
    switchOff Board.supply ch s b =
      (s.withChannel ch channelOff, if b.spiFault then b.withOutput ch false else b.withOff ch) := by
  have hlevel := Board.setLevel_eq b ch Board.zero_le_zero Board.zero_le_highest
  have houtput (b : Board) : (Board.supply.setOutput ch false b).2 = b.withOutput ch false :=
    congrArg Prod.snd (Board.setOutput_eq b ch false)
  rw [switchOff_eq, houtput]
  show (_, ((Board.setLevel ch 0 b).2.withOutput ch false)) = _
  rw [hlevel]
  split <;> rfl

theorem of_switchOff (ch : Fin 2) (s : Supply) (b : Board) :
    Channel.of (switchOff Board.supply ch s b) = turned ch (.disabled b.spiFault) (.of (s, b)) := by
  rw [board_switchOff]
  cases b.spiFault with
  | true =>
    refine Channel.of_withChannel ?_ (fun _ _ => rfl) fun ch' hne => b.outputs_withOutput_of_ne hne false
    show Channel.mk _ _ ((b.withOutput ch false).outputs.get ch) = _
    rw [b.outputs_withOutput_self]
    rfl
  | false =>
    obtain ⟨houtput, hlevel⟩ := b.isOff_withOff ch
    refine Channel.of_withChannel ?_ (fun ch' hne => b.levels_withLevel_of_ne hne 0)
      fun ch' hne => (b.withLevel ch 0).outputs_withOutput_of_ne hne false
    show Channel.mk _ ((b.withOff ch).levels.get ch) ((b.withOff ch).outputs.get ch) = _
    rw [houtput, hlevel]
    rfl

theorem of_switchAllOff (s : Supply) (b : Board) :
    Channel.of (switchAllOff Board.supply s b) = fun ch => (Channel.of (s, b) ch).disabled b.spiFault := by
  -- the second channel meets the same DAC as the first
  have hfault : (switchOff Board.supply 0 s b).2.spiFault = b.spiFault := by
    rw [board_switchOff]
    show (if b.spiFault then b.withOutput 0 false else b.withOff 0).spiFault = _
    split <;> rfl
  rw [switchAllOff_eq, of_switchOff, hfault]
  show turned 1 _ (Channel.of (switchOff Board.supply 0 s b)) = _
  rw [of_switchOff]
  funext ch
  match ch with
  | 0 => rfl
  | 1 => rfl

/-! ## Commands -/

theorem handle_change (h : handle Board.supply config verb o s b = ((r, s'), b')) (hok : r.isOk = true) :
    Change o b.spiFault verb (.of (s, b)) (.of (s', b')) := by
  have hconcerns {ch : Fin 2} (hch : o.integer "ch" = .ok (ch : Int)) (ch' : Fin 2) :
      o.integer "ch" = .ok (ch' : Int) ↔ ch' = ch :=
    ⟨SupplyVerb.integer_inj hch, by rintro rfl; exact hch⟩
  cases handle_step h with
  | status => exact ⟨fun _ hno => hno.elim, fun _ _ => rfl⟩
  | setRefused => cases hok
  | setFailed => cases hok
  | set hsetting hw =>
    obtain ⟨hch, hlevel, -⟩ := setting_eq_ok_iff.1 ⟨_, hsetting⟩
    obtain ⟨e, he, -⟩ | ⟨-, -, rfl⟩ := board_setLevel hsetting hw
    · cases he
    · rw [Channel.of_level]
      exact .of_turned (hconcerns hch) (.set hlevel)
  | onRefused => cases hok
  | onFailed => cases hok
  | on hch hw =>
    obtain ⟨-, rfl⟩ := board_setOutput hw
    rw [Channel.of_output]
    exact .of_turned (hconcerns (channelOption_eq_ok_iff.1 hch)) .on
  | offRefused => cases hok
  | off hch =>
    show Change _ _ _ _ (Channel.of (switchOff Board.supply _ s b))
    rw [of_switchOff]
    exact .of_turned (hconcerns (channelOption_eq_ok_iff.1 hch)) .off
  | offAll =>
    show Change _ _ _ _ (Channel.of (switchAllOff Board.supply s b))
    rw [of_switchAllOff]
    exact ⟨fun _ _ => .offAll, fun _ hno => absurd trivial hno⟩

theorem handle_keeps (h : handle Board.supply config verb o s b = ((r, s'), b'))
    (hkeeps : r.isOk = false ∨ verb = .status) : s' = s ∧ b' = b := by
  cases handle_step h with
  | setFailed hsetting hw =>
    obtain ⟨e, -, -, rfl⟩ | ⟨he, -⟩ := board_setLevel hsetting hw
    · exact ⟨rfl, rfl⟩
    · cases he
  | onFailed _ hw => cases (board_setOutput hw).1
  | set | on | off | offAll => rcases hkeeps with hno | hno <;> cases hno
  | _ => exact ⟨rfl, rfl⟩

theorem isOk_iff (h : handle Board.supply config verb o s b = ((r, s'), b')) :
    r.isOk = true ↔ verb.Allowed config o b.spiFault := by
  have hrefused {command message : String} (h : channelOption command o = .error message) :
      ¬ ∃ ch : Fin 2, o.integer "ch" = .ok (ch : Int) := by
    rintro ⟨ch, hch⟩
    cases h.symm.trans (channelOption_eq_ok_iff.2 hch)
  cases handle_step h with
  | status | offAll => exact iff_of_true rfl trivial
  | setRefused hsetting =>
    refine iff_of_false nofun ?_
    rintro ⟨-, ch, level, hasked⟩
    obtain ⟨v, hv⟩ := setting_eq_ok_iff.2 hasked
    cases hsetting.symm.trans hv
  | setFailed hsetting hw =>
    obtain ⟨e, -, hfault, -⟩ | ⟨he, -⟩ := board_setLevel hsetting hw
    · exact iff_of_false nofun fun hallowed => absurd (hfault.symm.trans hallowed.1) nofun
    · cases he
  | set hsetting hw =>
    obtain ⟨e, he, -⟩ | ⟨-, hfault, -⟩ := board_setLevel hsetting hw
    · cases he
    · exact iff_of_true rfl ⟨hfault, _, _, setting_eq_ok_iff.1 ⟨_, hsetting⟩⟩
  | onFailed _ hw => cases (board_setOutput hw).1
  | onRefused hch | offRefused hch => exact iff_of_false nofun (hrefused hch)
  | on hch | off hch => exact iff_of_true rfl ⟨_, channelOption_eq_ok_iff.1 hch⟩

/-- The reply to a command for one channel names it. -/
theorem named (h : handle Board.supply config verb o s b = ((r, s'), b')) (hok : r.isOk = true)
    (hverb : verb = .set ∨ verb = .on ∨ verb = .off) :
    ∃ ch : Fin 2, o.integer "ch" = .ok (ch : Int) ∧ r.field? "ch" = some (.nat ch) := by
  cases handle_step h with
  | set hsetting => exact ⟨_, (setting_eq_ok_iff.1 ⟨_, hsetting⟩).1, rfl⟩
  | on hch | off hch => exact ⟨_, channelOption_eq_ok_iff.1 hch, rfl⟩
  | status | offAll => rcases hverb with hno | hno | hno <;> cases hno
  | setRefused | setFailed | onRefused | onFailed | offRefused => cases hok

/-- A supply and its board as they come to be: the supply is made on a board as it is found and handles commands,
and the DAC answers at times and at times does not. -/
inductive Driven (config : Config) : Supply × Board → Prop
  | start (board : Board) : Driven config (init Board.supply board)
  | handle {x : Supply × Board} (v : SupplyVerb) (options : Options) (h : Driven config x) :
    Driven config ((handle Board.supply config v options x.1 x.2).1.2,
      (handle Board.supply config v options x.1 x.2).2)
  | fault {x : Supply × Board} (fault : Bool) (h : Driven config x) :
    Driven config (x.1, { x.2 with spiFault := fault })

/-- A supply knows at all times which outputs are on. -/
theorem Driven.outputKnown {x : Supply × Board} (h : Driven config x) : ∀ ch, (Channel.of x ch).OutputKnown := by
  induction h with
  | start b =>
    unfold init
    rw [of_switchAllOff]
    exact fun _ => rfl
  | @handle x verb o _ ih =>
    obtain ⟨⟨⟨r, s'⟩, b'⟩, hafter⟩ : ∃ after, Supply.handle Board.supply config verb o x.1 x.2 = after := ⟨_, rfl⟩
    rw [hafter]
    cases hok : r.isOk with
    | true => exact (handle_change hafter hok).outputKnown ih
    | false =>
      obtain ⟨rfl, rfl⟩ := handle_keeps hafter (.inl hok)
      exact ih
  | fault _ _ ih => exact ih

/-- Whatever is on record, whatever the board does, and whether or not its DAC answers: a command succeeds exactly
if it is allowed. A command that is refused and one that only asks change nothing. A command that is carried out
turns the channels that it is about, and no others, and its reply names the channel if there is one: to set a level
leaves the outputs alone, to switch on leaves the levels alone. If the DAC answers, setting and switching off bring
the record and the board together. -/
theorem effect_of_handle (config : Config) (verb : SupplyVerb) (o : Options) (s : Supply) (b : Board) :
    let after := handle Board.supply config verb o s b
    let r := after.1.1
    let view := Channel.of (s, b)
    let view' := Channel.of (after.1.2, after.2)
    (r.isOk = true ↔ verb.Allowed config o b.spiFault) ∧
      (r.isOk = false ∨ verb = .status → after.1.2 = s ∧ after.2 = b) ∧
      (r.isOk = true →
        (∀ ch, verb.Concerns o ch → verb.Turns o b.spiFault (view ch) (view' ch)) ∧
        (∀ ch, ¬ verb.Concerns o ch → view' ch = view ch) ∧
        (verb = .set ∨ verb = .on ∨ verb = .off → ∃ ch : Fin 2, o.integer "ch" = .ok (ch : Int) ∧
          r.field? "ch" = some (.nat ch) ∧ ∀ ch' ≠ ch, view' ch' = view ch') ∧
        (verb = .set → ∀ ch,
          (view' ch).record.output = (view ch).record.output ∧ (view' ch).output = (view ch).output) ∧
        (verb = .on → ∀ ch,
          (view' ch).record.level = (view ch).record.level ∧ (view' ch).level = (view ch).level) ∧
        (b.spiFault = false → verb = .set ∨ verb = .off ∨ verb = .offAll →
          ∀ ch, verb.Concerns o ch → (view ch).OutputKnown → (view' ch).Known)) := by
  intro after r view view'
  have hafter : handle Board.supply config verb o s b = ((r, after.1.2), after.2) := rfl
  refine ⟨isOk_iff hafter, handle_keeps hafter, fun hok => ?_⟩
  have hchange := handle_change hafter hok
  refine ⟨hchange.turns, hchange.keeps, fun hverb => ?_, ?_, ?_, fun hfault hverb ch hch hknown => ?_⟩
  · obtain ⟨ch, hch, hnamed⟩ := named hafter hok hverb
    refine ⟨ch, hch, hnamed, fun ch' hne => hchange.keeps ch' fun hch' => hne ?_⟩
    rcases hverb with rfl | rfl | rfl <;> exact SupplyVerb.integer_inj hch hch'
  · rintro rfl ch
    exact ⟨hchange.forall_eq (·.record.output) (·.output_eq.1) ch, hchange.forall_eq (·.output) (·.output_eq.2) ch⟩
  · rintro rfl ch
    exact ⟨hchange.forall_eq (·.record.level) (·.level_eq.1) ch, hchange.forall_eq (·.level) (·.level_eq.2) ch⟩
  · have hturns := hchange.turns ch hch
    rw [hfault] at hturns
    exact hturns.known (by rintro rfl; simp at hverb) hknown

end Supply

end DetectorControl
