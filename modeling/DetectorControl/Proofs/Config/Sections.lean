import DetectorControl.Proofs.Config.Channels

/-!
# What a file says of a channel

The levels, the polynomials and the limits that a configuration goes by are those of its file
(`effective_of_ofText`). What stands with a key is gone by if no other key of the section denotes the same
channel. A channel may be spelled in several ways, though, and then all but the last of its entries, in the
order of keys, are dropped without a word.
-/

namespace DetectorControl

namespace ConfigFile
variable {f : ConfigFile} {text : String} {v : Toml.Value}

/-! ## The sections of a file -/

def defaults (f : ConfigFile) : Entries String Float :=
  (f.highVoltage.bind (·.defaults)).getD []

def conversion (f : ConfigFile) : Entries String (List Float) :=
  (f.highVoltage.bind (·.conversion)).getD []

def voltageLimits (f : ConfigFile) : Entries String Float :=
  f.limits.highVoltage.getD []

/-- The keys of every section increase. -/
structure Ordered (f : ConfigFile) : Prop where
  defaults : f.defaults.Sorted
  conversion : f.conversion.Sorted
  voltageLimits : f.voltageLimits.Sorted

theorem ifGiven_eq_some {α : Type} {byName : Bool} {part : Option Toml.Value} {read? : Toml.Value → Option α}
    {a? : Option α} (h : Toml.Value.ifGiven byName part read? = some a?) :
    a? = none ∨ ∃ v a, read? v = some a ∧ a? = some a := by
  cases part with
  | none =>
    have h : (if byName then some none else none) = some a? := h
    split at h
    · exact .inl (Option.some.inj h).symm
    · cases h
  | some v =>
    obtain ⟨a, ha, rfl⟩ := Option.map_eq_some_iff.1 h
    exact .inr ⟨v, a, ha, rfl⟩

theorem sorted_entries? {α : Type} {read? : Toml.Value → Option α} {entries : Entries String α}
    (h : entries? read? v = some entries) : entries.Sorted := by
  obtain ⟨pairs, -, rfl⟩ := Option.map_eq_some_iff.1 h
  exact Entries.sorted_ofList pairs

theorem sorted_ifGiven {α : Type} {byName : Bool} {part : Option Toml.Value} {read? : Toml.Value → Option α}
    {section? : Option (Entries String α)} (h : Toml.Value.ifGiven byName part (entries? read?) = some section?) :
    (section?.getD []).Sorted := by
  rcases ifGiven_eq_some h with rfl | ⟨v, entries, hentries, rfl⟩
  · exact .nil
  · exact sorted_entries? hentries

theorem sorted_of_highVoltage? {hv : HighVoltageSection} (h : highVoltage? v = some hv) :
    (hv.defaults.getD []).Sorted ∧ (hv.conversion.getD []).Sorted := by
  unfold highVoltage? at h
  obtain ⟨parts, -, h⟩ := Option.bind_eq_some_iff.1 h
  split at h
  · obtain ⟨defaults, hdefaults, h⟩ := Option.bind_eq_some_iff.1 h
    obtain ⟨conversion, hconversion, h⟩ := Option.bind_eq_some_iff.1 h
    cases h
    exact ⟨sorted_ifGiven hdefaults, sorted_ifGiven hconversion⟩
  · cases h

theorem sorted_of_limits? {l : LimitsSection} (h : limits? v = some l) : (l.highVoltage.getD []).Sorted := by
  unfold limits? at h
  obtain ⟨parts, -, h⟩ := Option.bind_eq_some_iff.1 h
  split at h
  · obtain ⟨temperature, -, h⟩ := Option.bind_eq_some_iff.1 h
    obtain ⟨highVoltage, hhighVoltage, h⟩ := Option.bind_eq_some_iff.1 h
    cases h
    exact sorted_ifGiven hhighVoltage
  · cases h

theorem ordered_of_ofText? (h : ofText? text = some f) : f.Ordered := by
  obtain ⟨t, -, h⟩ := Option.bind_eq_some_iff.1 h
  unfold ofTable? at h
  obtain ⟨parts, -, h⟩ := Option.bind_eq_some_iff.1 h
  split at h
  · rename_i highVoltage limits _
    obtain ⟨detectorId, -, h⟩ := Option.bind_eq_some_iff.1 h
    obtain ⟨detectorId, -, h⟩ := Option.bind_eq_some_iff.1 h
    obtain ⟨repository, -, h⟩ := Option.bind_eq_some_iff.1 h
    obtain ⟨logLevel, -, h⟩ := Option.bind_eq_some_iff.1 h
    obtain ⟨hv, hhv, h⟩ := Option.bind_eq_some_iff.1 h
    obtain ⟨l, hl, h⟩ := Option.bind_eq_some_iff.1 h
    obtain ⟨autorun, -, h⟩ := Option.bind_eq_some_iff.1 h
    cases h
    have hsections : ((hv.bind (·.defaults)).getD []).Sorted ∧ ((hv.bind (·.conversion)).getD []).Sorted := by
      rcases ifGiven_eq_some hhv with rfl | ⟨v, hv, hread, rfl⟩
      · exact ⟨.nil, .nil⟩
      · exact sorted_of_highVoltage? hread
    refine ⟨hsections.1, hsections.2, ?_⟩
    cases limits with
    | none =>
      cases hl
      exact .nil
    | some v => exact sorted_of_limits? hl
  · cases h

end ConfigFile
namespace Config
variable {α : Type} {repository : Option String} {config : Config} {f : ConfigFile} {text sectionName : String}

/-! ## What takes effect -/

/-- What a section comes to, given what is asked of each channel. -/
structure Effective (entries : Entries String α) (get : Nat → Option α) : Prop where
  /-- An entry takes effect if no other entry is for the same channel. -/
  alone : ∀ e ∈ entries, Alone entries e → ∀ channel, Denotes e.1 channel → get channel = some e.2
  /-- Of several entries for a channel the one with the last key takes effect, and no other. -/
  says_iff : ∀ channel v, get channel = some v ↔ Says entries channel v

theorem effective_byChannel {entries : Entries String α} {m : Entries Nat α} (hsorted : entries.Sorted)
    (h : byChannel sectionName entries = .ok m) : Effective entries m.get? := by
  have hkeyed : Keyed entries := (byChannel_isOk_iff sectionName).1 ⟨m, h⟩
  refine ⟨fun e he halone channel hdenotes => ?_, fun channel v => ?_⟩
  · rw [get?_byChannel h, last?_of_alone he halone (channelOf?_of_mem hkeyed he hdenotes)]
    rfl
  · rw [get?_byChannel h, last?_iff hsorted hkeyed]

theorem effective_byChannel? {section? : Option (Entries String α)} {m? : Option (Entries Nat α)}
    (hsorted : (section?.getD []).Sorted) (h : byChannel? sectionName section? = .ok m?) :
    Effective (section?.getD []) fun channel => m?.bind fun m => m.get? channel := by
  obtain ⟨m, hm, hget⟩ := byChannel?_eq_ok h
  rw [show (fun channel => m?.bind fun m => m.get? channel) = m.get? from funext hget]
  exact effective_byChannel hsorted hm

/-- In a configuration that was accepted the levels, the polynomials and the limits of the file are in effect: each
entry of a section whose channel no other key of the section denotes, and of several entries for a channel the one
that comes last in the order of keys. A channel without an entry has no level and no polynomial, and the default
limit. -/
theorem effective_of_ofText (hf : ConfigFile.ofText? text = some f) (h : ofFile repository f = .ok config) :
    Effective f.defaults config.default? ∧
    (∃ coefficients : Nat → Option (List Float), Effective f.conversion coefficients ∧
      ∀ channel level, config.voltage? channel level = (coefficients channel).map fun cs => polynomial cs level) ∧
    ∃ limits : Nat → Option Float, Effective f.voltageLimits limits ∧
      ∀ channel, config.limit channel = (limits channel).getD defaultLimit := by
  have hordered := ConfigFile.ordered_of_ofText? hf
  obtain ⟨-, hhv, hdefaults, -, hconversion, hlimits, -, -⟩ := ofFile_eq_ok_iff.1 h
  rename_i hv defaults conversion limits
  have hdefaultsOf : f.defaults = hv.defaults.getD [] := by rw [ConfigFile.defaults, hhv]; rfl
  have hconversionOf : f.conversion = hv.conversion.getD [] := by rw [ConfigFile.conversion, hhv]; rfl
  refine ⟨?_, ⟨fun channel => conversion.bind fun m => m.get? channel, ?_, fun channel level => rfl⟩,
    ⟨fun channel => limits.bind fun m => m.get? channel, ?_, fun channel => rfl⟩⟩
  · rw [hdefaultsOf]
    exact effective_byChannel (hdefaultsOf ▸ hordered.defaults) hdefaults
  · rw [hconversionOf]
    exact effective_byChannel? (hconversionOf ▸ hordered.conversion) hconversion
  · exact effective_byChannel? hordered.voltageLimits hlimits

/-- Channel 0 is spelled in two ways. -/
def respelledText : String :=
  "detector_id = \"g\"\n[hv.conversion]\n0 = [0.0, 1.0]\n[limits.hv]\n0 = 300\n00 = 900\n1 = 500\n"

theorem exists_of_ofText (h : (ofText repository text).toOption.isSome = true) :
    ∃ f config, ConfigFile.ofText? text = some f ∧ ofFile repository f = .ok config ∧
      ofText repository text = .ok config := by
  obtain ⟨config, hconfig⟩ := Option.isSome_iff_exists.1 h
  rw [toOption_eq_some_iff] at hconfig
  obtain ⟨f, hf, hcheck⟩ := check_of_ofText hconfig
  exact ⟨f, config, hf, ofFile_eq_ok_iff.2 (checked_of_check hcheck), hconfig⟩

/-- The lower one of two limits for a channel is dropped, because its key comes first. -/
theorem effective_respelled : ∃ f config, ConfigFile.ofText? respelledText = some f ∧ ofFile none f = .ok config ∧
    f.voltageLimits = [("0", 300), ("00", 900), ("1", 500)] ∧ Denotes "0" 0 ∧ Denotes "00" 0 ∧
    config.limited = true ∧ config.limit 0 = 900 ∧ config.limit 1 = 500 ∧
    Says f.voltageLimits 0 900 ∧ ¬ Says f.voltageLimits 0 300 := by
  have haccepted : (ofText none respelledText).toOption.isSome = true := by decide +kernel
  obtain ⟨f, config, hf, h, htext⟩ := exists_of_ofText haccepted
  have hentries : (ConfigFile.ofText? respelledText).map (·.voltageLimits) =
      some [("0", 300), ("00", 900), ("1", 500)] := by decide +kernel
  have hlimits : (ofText none respelledText).toOption.map (fun c => (c.limited, c.limit 0, c.limit 1)) =
      some (true, 900, 500) := by decide +kernel
  rw [hf] at hentries
  rw [htext] at hlimits
  obtain ⟨hlimited, hlimits⟩ := Prod.mk.inj (Option.some.inj hlimits)
  obtain ⟨hlimit, hlimit'⟩ := Prod.mk.inj hlimits
  obtain ⟨-, -, limits, heffective, hget⟩ := effective_of_ofText hf h
  have hkept : limits 0 = some 900 := by
    rw [hget] at hlimit
    cases hnone : limits 0 with
    | none =>
      rw [hnone] at hlimit
      exact absurd hlimit (by decide +kernel)
    | some limit =>
      rw [hnone] at hlimit
      exact congrArg some hlimit
  refine ⟨f, config, hf, h, Option.some.inj hentries, (channelOf?_eq_some_iff.1 (by decide +kernel)).1,
    (channelOf?_eq_some_iff.1 (by decide +kernel)).1, hlimited, hlimit, hlimit', (heffective.says_iff 0 900).1 hkept,
    fun hsays => ?_⟩
  have hlower := (heffective.says_iff 0 300).2 hsays
  exact absurd (Option.some.inj (hkept.symm.trans hlower)) (by decide +kernel)

end Config

end DetectorControl
