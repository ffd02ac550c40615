import DetectorControl.Autorun.Permission
import DetectorControl.Proofs.Hardware.Sensors
import DetectorControl.Proofs.Wire.Frames

/-!
# What it takes to run

From the sensors of a simulated board to the permission: the reply to a reading is framed, handed on and
taken apart, and permits a run exactly when the board is in a state in which it should (`permits_iff`). A
float that is not finite is handed on as nothing, and so the whole reading is of no use.
-/

namespace DetectorControl

open Json

/-! ## A reading that is handed on -/

namespace Snapshot
variable {s : Snapshot}

theorem relayed?_fields (h : s.readout.Regular) (hlow : Bounds.least64 ≤ s.unixTime)
    (hhigh : s.unixTime ≤ Bounds.greatest64) (subsystem : String) :
    (Reply.ok none s.fields).relayed? subsystem = some (.ok none s.fields) := by
  have hshaped : Shaped depthLimit (.object s.fields) := s.shaped_toJson h hlow hhigh
  have hkeys : ∀ f ∈ s.fields, f.1 ∉ ReplyFrame.header := by
    intro f hf
    obtain ⟨m, hm, rfl⟩ := (mem_sortedMembers hf).resolve_left List.not_mem_nil
    simp only [List.mem_cons, List.not_mem_nil, or_false] at hm
    rcases hm with rfl | rfl | rfl <;> simp [ReplyFrame.header]
  refine Reply.relayed?_eq subsystem ?_
  rintro message fields ⟨⟩
  cases hshaped with
  | object hsorted hfields => exact ⟨hsorted, hfields, hkeys⟩

/-- A float that is not finite makes the whole reading useless. -/
theorem permits_fields_iff (h : s.readout.Regular) (hlow : Bounds.least64 ≤ s.unixTime)
    (hhigh : s.unixTime ≤ Bounds.greatest64) {l : TemperatureLimits} :
    (Reply.ok none s.fields).permits l = true ↔
      (∀ x ∈ s.readout.floats, x.isFinite = true) ∧ s.readout.permits l = true := by
  have hanswered := s.ofTree?_toJson h hlow hhigh
  rw [s.sorted_toJson] at hanswered
  unfold Reply.permits Reply.decode
  by_cases hfinite : ∀ x ∈ s.readout.floats, x.isFinite = true
  · simp only [hanswered.1 hfinite]
    exact (and_iff_right hfinite).symm
  · simp only [hanswered.2 hfinite]
    simp [hfinite]

end Snapshot

/-! ## The state of a board -/

namespace Board
variable {b : Board} {l : TemperatureLimits}

/-- All floats that a reading of the board contains are finite. -/
structure Finite (b : Board) : Prop where
  channels : ∀ c ∈ b.channels, c.2.voltage.isFinite = true ∧ c.2.converted.isFinite = true
  environment : ∀ e, b.environment = some e → b.environmentFailures < 5 →
    e.temperature.value.isFinite = true ∧ e.pressure.value.isFinite = true ∧ e.humidity.value.isFinite = true

/-- The temperatures that are looked at are there, and within the limits. -/
inductive Within (l : TemperatureLimits) (b : Board) : Prop
  | board (hsource : l.source = .board) (hsome : l.channels ≠ [])
    (h : ∀ channel ∈ l.channels, channel < 8 ∧
      ∃ m, b.channels.get? channel = some m ∧ l.lower ≤ m.converted ∧ m.converted ≤ l.upper) : Within l b
  | environment (hsource : l.source = .environment) {e : Environment} (he : b.environment = some e)
    (hanswers : b.environmentFailures < 5) (hlower : l.lower ≤ e.temperature.value)
    (hupper : e.temperature.value ≤ l.upper) : Within l b

/-- The state of a board that may run. -/
structure Permits (b : Board) (l : TemperatureLimits) : Prop where
  adc : b.adcFault = false
  switch : b.slideSwitch = some true
  finite : b.Finite
  within : b.Within l

/-- Channels 0 and 1 of the slow ADC carry the two temperatures of the board. -/
theorem get?_channels_sensor (b : Board) (sensor : Fin 2) :
    ∃ m, b.channels.get? sensor = some m ∧ m.converted = b.temperatures.get sensor ∧ m.units = "degC" :=
  match sensor with
  | 0 => ⟨temperatureChannel b.temperatures[0], rfl, rfl, rfl⟩
  | 1 => ⟨temperatureChannel b.temperatures[1], rfl, rfl, rfl⟩

/-- So it is they that are held against the limits, if no other channels are looked at. -/
theorem within_sensors_iff {sensors : List (Fin 2)} (hsource : l.source = .board)
    (hchannels : l.channels = sensors.map Fin.val) :
    b.Within l ↔ sensors ≠ [] ∧
      ∀ sensor ∈ sensors, l.lower ≤ b.temperatures.get sensor ∧ b.temperatures.get sensor ≤ l.upper := by
  constructor
  · intro h
    cases h with
    | environment henvironment => cases hsource.symm.trans henvironment
    | board _ hsome hall =>
      rw [hchannels] at hsome hall
      refine ⟨fun hnil => hsome (by rw [hnil, List.map_nil]), fun sensor hsensor => ?_⟩
      obtain ⟨-, m, hget, hinside⟩ := hall sensor (List.mem_map_of_mem hsensor)
      obtain ⟨m', hget', hconverted, -⟩ := b.get?_channels_sensor sensor
      cases hget.symm.trans hget'
      rwa [hconverted] at hinside
  · rintro ⟨hsome, hall⟩
    refine .board hsource (by rwa [hchannels, Ne, List.map_eq_nil_iff]) fun channel hchannel => ?_
    rw [hchannels] at hchannel
    obtain ⟨sensor, hsensor, rfl⟩ := List.mem_map.1 hchannel
    obtain ⟨m, hget, hconverted, -⟩ := b.get?_channels_sensor sensor
    exact ⟨by omega, m, hget, hconverted ▸ hall sensor hsensor⟩

theorem environment?_eq_some_iff {e : Environment} :
    b.environment? = some e ↔ b.environment = some e ∧ b.environmentFailures < 5 := by
  have htrials : Housekeeping.environmentTrials = 5 := rfl
  unfold environment?
  rw [htrials]
  by_cases h : b.environmentFailures < 5
  · simp [h]
  · simp [h]

theorem finite_readout_iff : (∀ x ∈ b.readout.floats, x.isFinite = true) ↔ b.Finite := by
  have henvironment : ∀ x, x ∈ b.readout.environment.toList.flatMap Environment.floats ↔
      ∃ e, (b.environment = some e ∧ b.environmentFailures < 5) ∧ x ∈ e.floats := by
    intro x
    simp only [List.mem_flatMap, Option.mem_toList]
    exact exists_congr fun e => and_congr_left' environment?_eq_some_iff
  have hchannels : ∀ x, x ∈ b.readout.slowAdc.flatMap (fun c => c.2.floats) ↔
      ∃ c ∈ b.channels, x ∈ c.2.floats := by
    intro x
    rw [readout, List.flatMap_map, List.mem_flatMap]
  simp only [Readout.floats, List.mem_append, henvironment, hchannels]
  constructor
  · intro h
    refine ⟨fun c hc => ?_, fun e he hfailures => ?_⟩
    · exact ⟨h _ (.inl ⟨c, hc, by simp [Measurement.floats]⟩), h _ (.inl ⟨c, hc, by simp [Measurement.floats]⟩)⟩
    · have hvalue : ∀ x ∈ e.floats, x.isFinite = true := fun x hx => h x (.inr ⟨e, ⟨he, hfailures⟩, hx⟩)
      simpa [Environment.floats] using hvalue
  · rintro h x (⟨c, hc, hx⟩ | ⟨e, ⟨he, hfailures⟩, hx⟩)
    · obtain ⟨hvoltage, hconverted⟩ := h.channels c hc
      simp only [Measurement.floats, List.mem_cons, List.not_mem_nil, or_false] at hx
      rcases hx with rfl | rfl
      · exact hvoltage
      · exact hconverted
    · obtain ⟨htemperature, hpressure, hhumidity⟩ := h.environment e he hfailures
      simp only [Environment.floats, List.mem_cons, List.not_mem_nil, or_false] at hx
      rcases hx with rfl | rfl | rfl
      · exact htemperature
      · exact hpressure
      · exact hhumidity

theorem lt_of_get?_channels {channel : Nat} {m : Measurement} (h : b.channels.get? channel = some m) :
    channel < 8 := by
  obtain ⟨c, hc, -⟩ := Option.map_eq_some_iff.1 h
  have hkey := List.find?_some hc
  obtain rfl : c.1 = channel := of_decide_eq_true hkey
  have hkeys : ∀ c ∈ b.channels, c.1 < 8 := by simp [channels]
  exact hkeys c (List.mem_of_find?_eq_some hc)

theorem contains_iff {t : Float} : l.contains t = true ↔ l.lower ≤ t ∧ t ≤ l.upper := by
  simp [TemperatureLimits.contains]

theorem admits_readout_iff : l.admits b.readout = true ↔ b.Within l := by
  unfold TemperatureLimits.admits
  constructor
  · intro h
    cases hsource : l.source with
    | board =>
      rw [hsource] at h
      simp only [Bool.and_eq_true, Bool.not_eq_true', List.isEmpty_eq_false_iff, List.all_eq_true] at h
      obtain ⟨hsome, hall⟩ := h
      refine .board hsource hsome fun channel hchannel => ?_
      have hinside := hall channel hchannel
      rw [value?_readout] at hinside
      cases hget : b.channels.get? channel with
      | none =>
        rw [hget] at hinside
        cases hinside
      | some m =>
        rw [hget] at hinside
        exact ⟨lt_of_get?_channels hget, m, rfl, contains_iff.1 hinside⟩
    | environment =>
      rw [hsource] at h
      simp only [readout] at h
      cases henvironment : b.environment? with
      | none =>
        rw [henvironment] at h
        cases h
      | some e =>
        rw [henvironment] at h
        obtain ⟨he, hfailures⟩ := environment?_eq_some_iff.1 henvironment
        obtain ⟨hlower, hupper⟩ := contains_iff.1 h
        exact .environment hsource he hfailures hlower hupper
  · intro h
    cases h with
    | board hsource hsome hall =>
      rw [hsource]
      simp only [Bool.and_eq_true, Bool.not_eq_true', List.isEmpty_eq_false_iff, List.all_eq_true]
      refine ⟨hsome, fun channel hchannel => ?_⟩
      obtain ⟨-, m, hget, hinside⟩ := hall channel hchannel
      rw [value?_readout, hget]
      exact contains_iff.2 hinside
    | environment hsource he hfailures hlower hupper =>
      rw [hsource]
      simp only [readout, environment?_eq_some_iff.2 ⟨he, hfailures⟩]
      exact contains_iff.2 ⟨hlower, hupper⟩

theorem permits_readout_iff : b.readout.permits l = true ↔ b.slideSwitch = some true ∧ b.Within l := by
  have hswitch : (b.readout.slideSwitch == .on) = true ↔ b.slideSwitch = some true := by
    show (OnOff.ofBool (b.slideSwitch == some true) == .on) = true ↔ _
    rcases b.slideSwitch with _ | _ | _ <;> decide
  rw [Readout.permits, Bool.and_eq_true, hswitch, admits_readout_iff]

/-- From the sensors to the permission: the reply to a reading is always found in its frame again, and it
permits a run if and only if the state of the board does. -/
theorem permits_iff (b : Board) (l : TemperatureLimits) (o : Options) {now : StateM Board Instant}
    (hnow : ∀ b', Bounds.least64 ≤ (now b').1.unixTime ∧ (now b').1.unixTime ≤ Bounds.greatest64) :
    ∃ r, (Housekeeping.handle sensors now .read o () b).1.1.relayed? "hk" = some r ∧
      (r.permits l = true ↔ b.Permits l) := by
  refine ⟨(Housekeeping.read sensors now b).1, ?_⟩
  show (Housekeeping.read sensors now b).1.relayed? "hk" = _ ∧ _
  cases hfault : b.adcFault with
  | true =>
    obtain ⟨text, hread⟩ := read_of_fault hfault now
    rw [hread]
    refine ⟨Reply.relayed?_eq "hk" ?_, ?_⟩
    · rintro message fields ⟨⟩
    · constructor
      · intro h
        cases h
      · intro h
        cases hfault.symm.trans h.adc
  | false =>
    obtain ⟨b', hread⟩ := read_eq hfault now
    rw [hread]
    obtain ⟨hlow, hhigh⟩ := hnow b'
    refine ⟨Snapshot.relayed?_fields b.regular_readout hlow hhigh "hk", ?_⟩
    rw [Snapshot.permits_fields_iff b.regular_readout hlow hhigh]
    constructor
    · rintro ⟨hfinite, hpermits⟩
      obtain ⟨hswitch, hwithin⟩ := permits_readout_iff.1 hpermits
      exact ⟨hfault, hswitch, finite_readout_iff.1 hfinite, hwithin⟩
    · intro h
      exact ⟨finite_readout_iff.2 h.finite, permits_readout_iff.2 ⟨h.switch, h.within⟩⟩

theorem permits_of_fresh : fresh.Permits {} := by
  have hwithin : fresh.Within {} := by
    have hchannels : ({} : TemperatureLimits).channels = [(0 : Fin 2), 1].map Fin.val := rfl
    exact (within_sensors_iff rfl hchannels).2 (by decide +kernel)
  refine ⟨rfl, rfl, ⟨by decide +kernel, ?_⟩, hwithin⟩
  rintro e ⟨⟩ -
  decide +kernel

def noon : StateM Board Instant := pure ⟨1500000000, "2017-07-14T02-40-00", ""⟩

/-- At noon the board is as it was when it was opened. -/
theorem permits_at_noon :
    (∀ b', Bounds.least64 ≤ (noon b').1.unixTime ∧ (noon b').1.unixTime ≤ Bounds.greatest64) ∧
      ∃ r, (Housekeeping.handle sensors noon .read .empty () fresh).1.1.relayed? "hk" = some r ∧
        r.permits {} = true := by
  have hbounds : Bounds.least64 ≤ 1500000000 ∧ 1500000000 ≤ Bounds.greatest64 := by decide
  have hnoon : ∀ b', Bounds.least64 ≤ (noon b').1.unixTime ∧ (noon b').1.unixTime ≤ Bounds.greatest64 :=
    fun _ => hbounds
  obtain ⟨r, hrelayed, hpermits⟩ := permits_iff fresh {} .empty hnoon
  exact ⟨hnoon, r, hrelayed, hpermits.2 permits_of_fresh⟩

end Board

end DetectorControl
