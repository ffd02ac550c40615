import DetectorControl.Proofs.Basic

/-!
# Accepted configurations

What is known of a configuration because it was read from a text and has passed all checks. `Checked` says
what the checks come to, one after the other, and what is made of the file then.
-/

namespace DetectorControl

theorem throw_bind_ne {ε α β : Type} {e : ε} {f : α → Except ε β} {b : β} :
    (throw e >>= f : Except ε β) ≠ .ok b := nofun

theorem Toml.Value.le_of_nat? {high n : Nat} {v : Toml.Value} (h : v.nat? high = some n) : n ≤ high := by
  unfold nat? at h
  split at h
  · split at h
    · cases h
      omega
    · cases h
  · cases h

namespace AutorunSettings

/-- Every time is a number of 64 bits. -/
structure Bounded (a : AutorunSettings) : Prop where
  exposure : a.exposure ≤ Bounds.natural64
  period : a.period ≤ Bounds.natural64
  checkPeriod : a.checkPeriod ≤ Bounds.natural64

theorem bounded_default : Bounded {} := ⟨by decide, by decide, by decide⟩

theorem seconds_le {part : Option Toml.Value} {default n : Nat} (hdefault : default ≤ Bounds.natural64)
    (h : Toml.Value.orElse part default (Toml.Value.nat? Bounds.natural64) = some n) :
    n ≤ Bounds.natural64 := by
  cases part with
  | none =>
    cases h
    exact hdefault
  | some v => exact Toml.Value.le_of_nat? h

theorem bounded_of_ofToml? {v : Toml.Value} {a : AutorunSettings} (h : ofToml? v = some a) : a.Bounded := by
  unfold ofToml? at h
  obtain ⟨parts, -, h⟩ := Option.bind_eq_some_iff.1 h
  split at h
  · obtain ⟨exposure, hexposure, h⟩ := Option.bind_eq_some_iff.1 h
    obtain ⟨period, hperiod, h⟩ := Option.bind_eq_some_iff.1 h
    obtain ⟨checkPeriod, hcheckPeriod, h⟩ := Option.bind_eq_some_iff.1 h
    cases h
    exact ⟨seconds_le (by decide) hexposure, seconds_le (by decide) hperiod, seconds_le (by decide) hcheckPeriod⟩
  · cases h

end AutorunSettings

theorem ConfigFile.bounded_of_ofText? {text : String} {f : ConfigFile} (h : ofText? text = some f) :
    f.autorun.Bounded := by
  obtain ⟨t, -, h⟩ := Option.bind_eq_some_iff.1 h
  unfold ofTable? at h
  obtain ⟨parts, -, h⟩ := Option.bind_eq_some_iff.1 h
  split at h
  · rename_i autorun
    obtain ⟨detectorId, -, h⟩ := Option.bind_eq_some_iff.1 h
    obtain ⟨detectorId, -, h⟩ := Option.bind_eq_some_iff.1 h
    obtain ⟨repository, -, h⟩ := Option.bind_eq_some_iff.1 h
    obtain ⟨logLevel, -, h⟩ := Option.bind_eq_some_iff.1 h
    obtain ⟨highVoltage, -, h⟩ := Option.bind_eq_some_iff.1 h
    obtain ⟨limits, -, h⟩ := Option.bind_eq_some_iff.1 h
    obtain ⟨settings, hsettings, h⟩ := Option.bind_eq_some_iff.1 h
    cases h
    cases autorun with
    | none =>
      cases hsettings
      exact AutorunSettings.bounded_default
    | some v => exact AutorunSettings.bounded_of_ofToml? hsettings
  · cases h

namespace Config
variable {repository : Option String} {config : Config}

/-- A file has passed all checks, and this is the configuration made of it. -/
inductive Checked (repository : Option String) (f : ConfigFile) : Config → Prop
  | intro {hv : HighVoltageSection} {defaults : Entries Nat Float} {conversion : Option (Entries Nat (List Float))}
    {limits : Option (Entries Nat Float)} (hid : Text.trim f.detectorId ≠ "") (hhv : f.highVoltage = some hv)
    (hdefaults : byChannel "hv.default" (hv.defaults.getD []) = .ok defaults)
    (hrange : ∀ e ∈ defaults, levelInRange e.2 = true)
    (hconversion : byChannel? "hv.conversion" hv.conversion = .ok conversion)
    (hlimits : byChannel? "limits.hv" f.limits.highVoltage = .ok limits)
    (htemperature : ∀ t ∈ f.limits.temperature, ¬ t.upper < t.lower)
    (hperiods : f.autorun.period ≠ 0 ∧ f.autorun.checkPeriod ≠ 0) :
    Checked repository f {
      detectorId := Text.trim f.detectorId
      repository := repository.or f.repository
      logLevel := f.logLevel
      defaults
      conversion
      limits
      temperature := f.limits.temperature
      autorun := f.autorun }

theorem checked_of_check {f : ConfigFile} (h : check repository f = .ok config) : Checked repository f config := by
  unfold check at h
  dsimp only at h
  split at h
  · exact absurd h throw_bind_ne
  rename_i hid
  rw [String.isEmpty_iff] at hid
  split at h
  · cases h
  rename_i hhv
  obtain ⟨defaults, hdefaults, h⟩ := bind_eq_ok_iff.1 h
  split at h
  · exact absurd h throw_bind_ne
  rename_i hfind
  have hrange : ∀ e ∈ defaults, levelInRange e.2 = true := by
    intro e he
    simpa using List.find?_eq_none.1 hfind e he
  obtain ⟨conversion, hconversion, h⟩ := bind_eq_ok_iff.1 h
  obtain ⟨limits, hlimits, h⟩ := bind_eq_ok_iff.1 h
  have hchecked (htemperature : ∀ t ∈ f.limits.temperature, ¬ t.upper < t.lower)
      (hperiods : ¬ (f.autorun.period = 0 ∨ f.autorun.checkPeriod = 0)) : Checked repository f _ :=
    .intro hid hhv hdefaults hrange hconversion hlimits htemperature (not_or.1 hperiods)
  -- what is left are the checks of temperatures, if there are any, and of periods
  split at h
  · rename_i t ht
    split at h
    · exact absurd h throw_bind_ne
    · rename_i horder
      split at h
      · exact absurd h throw_bind_ne
      · rename_i hperiods
        cases h
        refine hchecked (fun t' ht' => ?_) hperiods
        obtain rfl := Option.some.inj (ht.symm.trans ht')
        exact horder
  · rename_i ht
    split at h
    · exact absurd h throw_bind_ne
    · rename_i hperiods
      cases h
      refine hchecked (fun t' ht' => ?_) hperiods
      cases ht.symm.trans ht'

theorem Checked.check {f : ConfigFile} (h : Checked repository f config) : check repository f = .ok config := by
  obtain ⟨hid, hhv, hdefaults, hrange, hconversion, hlimits, htemperature, hperiods⟩ := h
  rename_i hv defaults conversion limits
  have hid : ¬ (Text.trim f.detectorId).isEmpty = true := by rwa [String.isEmpty_iff]
  have hfind : List.find? (fun e => !levelInRange e.2) defaults = none := by
    rw [List.find?_eq_none]
    intro e he
    simp [hrange e he]
  unfold Config.check
  simp only [if_neg hid, hhv, hdefaults, ok_bind, hfind, hconversion, hlimits, if_neg (not_or.2 hperiods)]
  cases htemp : f.limits.temperature with
  | none => rfl
  | some t =>
    have horder : ¬ t.upper < t.lower := htemperature t htemp
    simp only [if_neg horder]
    rfl

/-- What a file that passes all checks is known for: its times are taken over, its levels are levels of the
DAC, and its periods are positive. -/
theorem of_check {f : ConfigFile} (h : check repository f = .ok config) :
    config.autorun = f.autorun ∧ List.find? (fun e => !levelInRange e.2) config.defaults = none ∧
      f.autorun.period ≠ 0 ∧ f.autorun.checkPeriod ≠ 0 := by
  obtain ⟨-, -, -, hrange, -, -, -, hperiods⟩ := checked_of_check h
  refine ⟨rfl, ?_, hperiods⟩
  rw [List.find?_eq_none]
  intro e he
  simp [hrange e he]

theorem check_of_ofFile {f : ConfigFile} (h : ofFile repository f = .ok config) :
    check repository f = .ok config := by
  unfold ofFile at h
  cases hcheck : check repository f with
  | error flaw =>
    rw [hcheck] at h
    cases h
  | ok c =>
    rw [hcheck] at h
    cases h
    rfl

theorem ofFile_eq_ok_iff {f : ConfigFile} : ofFile repository f = .ok config ↔ Checked repository f config := by
  constructor
  · exact fun h => checked_of_check (check_of_ofFile h)
  · intro h
    rw [ofFile, h.check]
    rfl

theorem check_of_ofText {text : String} (h : ofText repository text = .ok config) :
    ∃ f, ConfigFile.ofText? text = some f ∧ check repository f = .ok config := by
  unfold ofText at h
  split at h
  · cases h
  · rename_i f hf
    exact ⟨f, hf, check_of_ofFile h⟩

theorem bounded_of_ofText {text : String} (h : ofText repository text = .ok config) :
    config.autorun.Bounded := by
  obtain ⟨f, hf, hcheck⟩ := check_of_ofText h
  rw [(of_check hcheck).1]
  exact ConfigFile.bounded_of_ofText? hf

theorem levelInRange_iff {level : Float} : levelInRange level = true ↔ 0 ≤ level ∧ level ≤ 3300 := by
  rw [levelInRange, Bool.and_eq_true]
  exact and_congr decide_eq_true_iff decide_eq_true_iff

/-- A level that autorun sets is one that the DAC can be set to. -/
theorem inRange_of_ofText {text : String} (h : ofText repository text = .ok config) {channel : Nat} {level : Float}
    (hlevel : config.default? channel = some level) : 0 ≤ level ∧ level ≤ 3300 := by
  obtain ⟨f, -, hcheck⟩ := check_of_ofText h
  obtain ⟨e, he, rfl⟩ := Option.map_eq_some_iff.1 hlevel
  have hrange := List.find?_eq_none.1 (of_check hcheck).2.1 e (List.mem_of_find?_eq_some he)
  exact levelInRange_iff.1 (by simpa using hrange)

end Config

end DetectorControl
