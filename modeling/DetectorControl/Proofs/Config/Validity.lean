import DetectorControl.Proofs.Config.Sections
import DetectorControl.Proofs.Decimal.Order

/-!
# Which files are accepted

A file is accepted exactly if it is valid (`accepted_iff`). Of its levels those must be levels of the DAC that
are in effect: a level that another key for the same channel overwrites is not looked at. Limits of temperature
are accepted unless the lower one is greater than the upper one. That is not to say that they are in order: a
limit that is no number is in no order with any other, and then no temperature is inside.
-/

namespace DetectorControl

namespace ConfigFile

/-- What is asked of a file. -/
structure Valid (f : ConfigFile) : Prop where
  detectorId : ∃ c ∈ f.detectorId.toList, Text.isBlank c = false
  highVoltage : f.highVoltage.isSome = true
  defaults : Config.Keyed f.defaults
  conversion : Config.Keyed f.conversion
  voltageLimits : Config.Keyed f.voltageLimits
  /-- A level that another key for its channel overwrites is not asked about. -/
  levels : ∀ channel level, Config.Says f.defaults channel level → 0 ≤ level ∧ level ≤ 3300
  temperature : ∀ t ∈ f.limits.temperature, ¬ t.upper < t.lower
  periods : 0 < f.autorun.period ∧ 0 < f.autorun.checkPeriod

end ConfigFile

namespace Config
variable {repository : Option String} {config : Config} {f : ConfigFile} {l : TemperatureLimits}

/-! ## Checks -/

theorem Checked.valid (hf : f.Ordered) (h : Checked repository f config) : f.Valid := by
  obtain ⟨hid, hhv, hdefaults, hrange, hconversion, hlimits, htemperature, hperiods⟩ := h
  rename_i hv defaults _ _
  have hbyChannel : byChannel "hv.default" f.defaults = .ok defaults := by rwa [ConfigFile.defaults, hhv]
  refine ⟨Text.trim_ne_empty_iff.1 hid, by rw [hhv]; rfl, (byChannel_isOk_iff _).1 ⟨_, hbyChannel⟩, ?_,
    (byChannel?_isOk_iff _).1 ⟨_, hlimits⟩, fun channel level hsays => ?_, htemperature,
    Nat.pos_of_ne_zero hperiods.1, Nat.pos_of_ne_zero hperiods.2⟩
  · rw [ConfigFile.conversion, hhv]
    exact (byChannel?_isOk_iff _).1 ⟨_, hconversion⟩
  · have hget := ((effective_byChannel hf.defaults hbyChannel).says_iff channel level).2 hsays
    obtain ⟨item, hitem, rfl⟩ := Option.map_eq_some_iff.1 hget
    exact levelInRange_iff.1 (hrange item (List.mem_of_find?_eq_some hitem))

theorem checked_of_valid (repository : Option String) (hf : f.Ordered) (h : f.Valid) :
    ∃ config, Checked repository f config := by
  obtain ⟨hv, hhv⟩ := Option.isSome_iff_exists.1 h.highVoltage
  have hdefaultsOf : f.defaults = hv.defaults.getD [] := by rw [ConfigFile.defaults, hhv]; rfl
  have hconversionOf : f.conversion = hv.conversion.getD [] := by rw [ConfigFile.conversion, hhv]; rfl
  obtain ⟨defaults, hdefaults⟩ := (byChannel_isOk_iff "hv.default").2 h.defaults
  obtain ⟨conversion, hconversion⟩ := (byChannel?_isOk_iff "hv.conversion").2 (hconversionOf ▸ h.conversion)
  obtain ⟨limits, hlimits⟩ := (byChannel?_isOk_iff "limits.hv").2 h.voltageLimits
  have hrange : ∀ item ∈ defaults, levelInRange item.2 = true := by
    intro item hitem
    have hget := Entries.get?_of_mem (sorted_byChannel hdefaults) hitem
    have hsays := ((effective_byChannel hf.defaults hdefaults).says_iff item.1 item.2).1 hget
    exact levelInRange_iff.2 (h.levels item.1 item.2 hsays)
  rw [hdefaultsOf] at hdefaults
  exact ⟨_, .intro (Text.trim_ne_empty_iff.2 h.detectorId) hhv hdefaults hrange hconversion hlimits h.temperature
    ⟨Nat.ne_of_gt h.periods.1, Nat.ne_of_gt h.periods.2⟩⟩

/-! ## Temperatures -/

theorem insideTemperature_iff (h : config.temperature = some l) {t : Float} :
    config.insideTemperature t = true ↔ l.lower ≤ t ∧ t ≤ l.upper := by
  simp [insideTemperature, h, TemperatureLimits.contains]

/-- Limits that are numbers, and in order, are inside themselves. -/
theorem limits_inside (h : config.temperature = some l) (horder : ¬ l.upper < l.lower)
    (hlower : l.lower.isNaN = false) (hupper : l.upper.isNaN = false) :
    config.insideTemperature l.lower = true ∧ config.insideTemperature l.upper = true := by
  have hle : l.lower ≤ l.upper := Decimal.le_of_not_lt hlower hupper horder
  rw [insideTemperature_iff h, insideTemperature_iff h]
  exact ⟨⟨Decimal.le_of_not_lt hlower hlower (Decimal.not_lt_self _), hle⟩,
    hle, Decimal.le_of_not_lt hupper hupper (Decimal.not_lt_self _)⟩

theorem not_inside_of_isNaN (h : config.temperature = some l) (hnan : l.lower.isNaN = true ∨ l.upper.isNaN = true)
    (t : Float) : config.insideTemperature t = false := by
  rw [Bool.eq_false_iff, Ne, insideTemperature_iff h]
  rintro ⟨hlower, hupper⟩
  rw [Decimal.not_isNaN_of_le hlower, Decimal.not_isNaN_of_le_right hupper] at hnan
  exact hnan.elim nofun nofun

/-- A file, its keys in order as they are in every file that is read, is accepted exactly if it is valid. Limits of
temperature that were accepted are inside the limits if they are numbers; if one of them is not, no temperature is. -/
theorem accepted_iff (repository : Option String) (hf : f.Ordered) :
    ((∃ config, ofFile repository f = .ok config) ↔ f.Valid) ∧
    ∀ config l, ofFile repository f = .ok config → config.temperature = some l →
      (l.lower.isNaN = false → l.upper.isNaN = false →
        config.insideTemperature l.lower = true ∧ config.insideTemperature l.upper = true) ∧
      (l.lower.isNaN = true ∨ l.upper.isNaN = true → ∀ t, config.insideTemperature t = false) := by
  refine ⟨⟨?_, fun hvalid => ?_⟩, fun config l h hl => ?_⟩
  · rintro ⟨config, h⟩
    exact (ofFile_eq_ok_iff.1 h).valid hf
  · obtain ⟨config, hchecked⟩ := checked_of_valid repository hf hvalid
    exact ⟨config, ofFile_eq_ok_iff.2 hchecked⟩
  · have horder : ¬ l.upper < l.lower := by
      cases ofFile_eq_ok_iff.1 h with
      | intro hid hhv hdefaults hrange hconversion hlimits htemperature hperiods => exact htemperature l hl
    exact ⟨limits_inside hl horder, not_inside_of_isNaN hl⟩

/-- A file at the edge of what is valid: the levels in effect are the least and the greatest one, the limits of
temperature leave room for one temperature only, and the keys are not written in the shortest way. -/
def edgeFile : ConfigFile where
  detectorId := " g "
  highVoltage := some { defaults := some [(" +01", 3300), ("00", 5000), ("000", 0)], conversion := none }
  limits := { temperature := some { lower := 20, upper := 20 } }

theorem accepted_edge : edgeFile.Ordered ∧ edgeFile.Valid ∧
    ∃ config, ofFile none edgeFile = .ok config ∧ config.temperature = some { lower := 20, upper := 20 } ∧
      config.insideTemperature 20 = true := by
  have hsorted : edgeFile.defaults.Pairwise fun e e' => e.1 < e'.1 := by decide +kernel
  have hordered : edgeFile.Ordered := ⟨hsorted, .nil, .nil⟩
  have hlevels : ∀ channel level, Says edgeFile.defaults channel level → 0 ≤ level ∧ level ≤ 3300 := by
    rintro channel level ⟨key, hmem, hdenotes, hgreatest⟩
    have hentries : (key, level) = (" +01", 3300) ∨ (key, level) = ("00", 5000) ∨ (key, level) = ("000", 0) := by
      simpa [edgeFile, ConfigFile.defaults] using hmem
    rcases hentries with heq | heq | heq <;> cases heq
    · decide +kernel
    · -- the key behind it denotes the same channel
      have hzero : Denotes "00" 0 := (channelOf?_eq_some_iff.1 (by decide +kernel)).1
      have hzero' : Denotes "000" 0 := (channelOf?_eq_some_iff.1 (by decide +kernel)).1
      obtain rfl := hdenotes.unique hzero
      exact absurd (hgreatest ("000", 0) (by simp [edgeFile, ConfigFile.defaults]) hzero') (by decide +kernel)
    · decide +kernel
  have hvalid : edgeFile.Valid :=
    ⟨⟨'g', by decide, by decide⟩, rfl, keyed_iff.2 (by decide +kernel), keyed_iff.2 (by decide +kernel),
      keyed_iff.2 (by decide +kernel), hlevels, by decide +kernel, by decide⟩
  obtain ⟨hiff, hinside⟩ := accepted_iff none hordered
  obtain ⟨config, h⟩ := hiff.2 hvalid
  have hlimits : config.temperature = some { lower := 20, upper := 20 } := by
    cases ofFile_eq_ok_iff.1 h
    rfl
  exact ⟨hordered, hvalid, config, h, hlimits,
    ((hinside config _ h hlimits).1 (by decide +kernel) (by decide +kernel)).1⟩

/-- The lower limit of temperature is no number. -/
def unorderedText : String :=
  "detector_id = \"g\"\n[hv]\n[limits.temperature]\nlower = nan\n"

/-- The level that stands with the first of two keys for channel 0 is none of the DAC. -/
def overlookedText : String :=
  "detector_id = \"g\"\n[hv.default]\n0 = 5000\n00 = 100\n"

/-- Limits that are in no order are accepted, and then no temperature is inside; and a level beyond the range is
accepted, if another one for its channel comes behind it. -/
theorem accepted_unordered :
    (∃ f config l, ConfigFile.ofText? unorderedText = some f ∧ ofFile none f = .ok config ∧
      f.limits.temperature = some l ∧ ¬ l.lower ≤ l.upper ∧ config.temperature = some l ∧
      config.insideTemperature l.lower = false ∧ config.insideTemperature l.upper = false) ∧
    ∃ f config, ConfigFile.ofText? overlookedText = some f ∧ ofFile none f = .ok config ∧
      ("0", 5000) ∈ f.defaults ∧ ¬ (5000 : Float) ≤ 3300 := by
  constructor
  · have haccepted : (ofText none unorderedText).toOption.isSome = true := by decide +kernel
    obtain ⟨f, config, hf, h, -⟩ := exists_of_ofText haccepted
    have hlimits : (ConfigFile.ofText? unorderedText).map (fun f => f.limits.temperature.map (·.lower.isNaN)) =
        some (some true) := by decide +kernel
    rw [hf] at hlimits
    obtain ⟨l, hl, hnan⟩ := Option.map_eq_some_iff.1 (Option.some.inj hlimits)
    have htemperature : config.temperature = some l := by
      cases ofFile_eq_ok_iff.1 h
      exact hl
    have hinside := not_inside_of_isNaN htemperature (.inl hnan)
    refine ⟨f, config, l, hf, h, hl, fun hle => ?_, htemperature, hinside _, hinside _⟩
    rw [Decimal.not_isNaN_of_le hle] at hnan
    cases hnan
  · have haccepted : (ofText none overlookedText).toOption.isSome = true := by decide +kernel
    obtain ⟨f, config, hf, h, -⟩ := exists_of_ofText haccepted
    have hlevels : (ConfigFile.ofText? overlookedText).map (·.defaults) = some [("0", 5000), ("00", 100)] := by
      decide +kernel
    rw [hf] at hlevels
    have hdefaults : f.defaults = [("0", 5000), ("00", 100)] := Option.some.inj hlevels
    exact ⟨f, config, hf, h, by rw [hdefaults]; exact List.mem_cons_self, by decide +kernel⟩

end Config

end DetectorControl
