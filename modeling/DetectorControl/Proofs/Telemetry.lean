import DetectorControl.Proofs.Json.Sorting
import DetectorControl.Telemetry

/-!
# Telemetry that is handed on

The status of the data acquisition is passed on as a text that is read again. It is a status still,
with the same state (`RunStatus.ofTree?_again`). A housekeeping reading that is handed on without a text is
read as it was written if every float in it is finite, and is no reading otherwise
(`Snapshot.ofTree?_toJson`).
-/

namespace DetectorControl

open Json

theorem RunState.ofTree?_again (v : Json) : ofTree? (.ofValue v.again) = ofTree? (.ofValue v) := by
  rw [ofTree?, Tree.choice?_again, ofTree?]

/-- A part that may be missing is read as before if its value is. -/
theorem Json.Tree.orElse_again {α : Type} {v? : Option Json} {default a : α} {read? : Tree → Option α}
    (hread : ∀ v a, read? (.ofValue v) = some a → read? (.ofValue v.again) = some a)
    (h : Tree.orElse (v?.map Tree.ofValue) default read? = some a) :
    Tree.orElse ((v?.map again).map Tree.ofValue) default read? = some a := by
  cases v? with
  | none => exact h
  | some v => exact hread v a h

theorem get?_membersAgain (fields : Fields) (key : String) :
    Entries.get? (membersAgain fields) key = (fields.get? key).map again := by
  rw [membersAgain_eq_map, Entries.get?_map]

theorem sorted_membersAgain {fields : Fields} (h : fields.Sorted) : Entries.Sorted (membersAgain fields) := by
  rw [membersAgain_eq_map]
  exact Entries.sorted_map _ h

namespace RunStatus

theorem ofTree?_again {fields : Fields} (h : fields.Sorted) {s : RunStatus}
    (hs : ofTree? (.ofValue (.object fields)) = some s) :
    ∃ elapsed, ofTree? (.ofValue (.object (membersAgain fields))) = some { s with elapsed } := by
  unfold ofTree? at hs ⊢
  rw [Tree.record?_ofValue h] at hs
  rw [Tree.record?_ofValue (sorted_membersAgain h)]
  simp only [List.map_cons, List.map_nil, get?_membersAgain, Option.bind_eq_bind, Option.bind_some] at hs ⊢
  obtain ⟨t, ht, hs⟩ := Option.bind_eq_some_iff.1 hs
  obtain ⟨state, hstate, hs⟩ := Option.bind_eq_some_iff.1 hs
  obtain ⟨outputFile, hfile, hs⟩ := Option.bind_eq_some_iff.1 hs
  obtain ⟨elapsed, helapsed, hs⟩ := Option.bind_eq_some_iff.1 hs
  obtain ⟨events, hevents, hs⟩ := Option.bind_eq_some_iff.1 hs
  obtain ⟨unixTime, htime, hs⟩ := Option.bind_eq_some_iff.1 hs
  cases hs
  obtain ⟨v, hv, rfl⟩ := Option.map_eq_some_iff.1 ht
  rw [← RunState.ofTree?_again] at hstate
  have hfile' := Tree.orElse_again (fun v _ ha => (Tree.string?_again v).trans ha) hfile
  have hevents' := Tree.orElse_again (fun v _ ha => Tree.nat?_again (Nat.le_refl _) ha) hevents
  have htime' := Tree.orElse_again (fun v _ ha => Tree.int?_again (Int.le_refl _) (by decide) ha) htime
  have helapsed' : ∃ elapsed, Tree.orElse
      (((fields.get? "elapsedTimeOfCurrentOutputFile").map again).map Tree.ofValue) (-1) Tree.float? =
        some elapsed := by
    cases hget : fields.get? "elapsedTimeOfCurrentOutputFile" with
    | none => exact ⟨-1, rfl⟩
    | some u =>
      rw [hget] at helapsed
      exact Tree.float?_again helapsed
  obtain ⟨elapsed', helapsed'⟩ := helapsed'
  refine ⟨elapsed', ?_⟩
  rw [hv]
  simp only [Option.map_some, Option.bind_some, hstate, hfile', hevents', htime', helapsed']
  rfl

end RunStatus

/-! ## Housekeeping readings -/

theorem Json.shaped_float {depth : Nat} (x : Float) : Shaped depth (Json.float x).sorted := by
  by_cases hx : x.isFinite = true
  · rw [Json.float, if_pos hx]
    exact .number hx
  · rw [Json.float, if_neg hx]
    exact .null

theorem Json.shaped_int {depth : Nat} {i : Int} (hlow : Bounds.least64 ≤ i) (hhigh : i ≤ Bounds.natural64) :
    Shaped depth (Json.int i).sorted := .number ⟨hlow, hhigh⟩

namespace Measurement
variable {m : Measurement} {depth : Nat}

def floats (m : Measurement) : List Float := [m.voltage, m.converted]

theorem shaped_toJson (hraw : m.raw ≤ Bounds.natural32) : Shaped (depth + 1) m.toJson.sorted := by
  have hcount : Shaped depth (Json.nat m.raw).sorted := by
    unfold Bounds.natural32 at hraw
    refine shaped_int ?_ ?_
    · unfold Bounds.least64
      omega
    · unfold Bounds.natural64
      omega
  refine shaped_sorted_object ?_
  simp only [List.forall_mem_cons]
  exact ⟨hcount, shaped_float _, shaped_float _, .string _, nofun⟩

theorem ofTree?_toJson (hraw : m.raw ≤ Bounds.natural32) :
    Tree.AnsweredIf (∀ x ∈ m.floats, x.isFinite = true) m (ofTree? (.ofValue m.toJson.sorted)) := by
  have hparts : (Tree.ofValue m.toJson.sorted).record? ["raw", "voltage", "converted_value", "units"] =
      some [some (.ofValue (Json.nat m.raw).sorted), some (.ofValue (Json.float m.voltage).sorted),
        some (.ofValue (Json.float m.converted).sorted), some (.string (some m.units))] :=
    Tree.record?_sorted (by simp) _
  unfold ofTree?
  simp only [hparts, Option.bind_eq_bind, Option.bind_some, Tree.nat?_nat hraw, Tree.string?]
  refine ((Tree.float?_float m.voltage).bind ((Tree.float?_float m.converted).bind (.some m))).congr ?_
  simp [floats]

end Measurement

namespace Quantity
variable {depth : Nat}

theorem shaped_toJson (q : Quantity) : Shaped (depth + 1) q.toJson.sorted := by
  refine shaped_sorted_object ?_
  simp only [List.forall_mem_cons]
  exact ⟨shaped_float _, .string _, nofun⟩

theorem ofTree?_toJson (q : Quantity) :
    Tree.AnsweredIf (q.value.isFinite = true) q (ofTree? (.ofValue q.toJson.sorted)) := by
  have hparts : (Tree.ofValue q.toJson.sorted).record? ["value", "units"] =
      some [some (.ofValue (Json.float q.value).sorted), some (.string (some q.units))] :=
    Tree.record?_sorted (by simp) _
  unfold ofTree?
  simp only [hparts, Option.bind_eq_bind, Option.bind_some, Tree.string?]
  exact ((Tree.float?_float q.value).bind (.some q)).congr (by simp)

end Quantity

namespace Environment
variable {depth : Nat}

def floats (e : Environment) : List Float := [e.temperature.value, e.pressure.value, e.humidity.value]

theorem shaped_toJson (e : Environment) : Shaped (depth + 2) e.toJson.sorted := by
  refine shaped_sorted_object ?_
  simp only [List.forall_mem_cons]
  exact ⟨Quantity.shaped_toJson _, Quantity.shaped_toJson _, Quantity.shaped_toJson _, nofun⟩

theorem ofTree?_toJson (e : Environment) :
    Tree.AnsweredIf (∀ x ∈ e.floats, x.isFinite = true) e (ofTree? (.ofValue e.toJson.sorted)) := by
  have hparts : (Tree.ofValue e.toJson.sorted).record? ["temperature", "pressure", "humidity"] =
      some [some (.ofValue e.temperature.toJson.sorted), some (.ofValue e.pressure.toJson.sorted),
        some (.ofValue e.humidity.toJson.sorted)] :=
    Tree.record?_sorted (by simp) _
  unfold ofTree?
  simp only [hparts, Option.bind_eq_bind, Option.bind_some]
  refine ((Quantity.ofTree?_toJson e.temperature).bind ((Quantity.ofTree?_toJson e.pressure).bind
    ((Quantity.ofTree?_toJson e.humidity).bind (.some e)))).congr ?_
  simp [floats]

end Environment

namespace Readout
variable {r : Readout} {depth : Nat}

/-- All floats that a reading contains. -/
def floats (r : Readout) : List Float :=
  r.slowAdc.flatMap (fun c => c.2.floats) ++ r.environment.toList.flatMap Environment.floats

/-- A reading that can be handed on: the channels are in order, and the counts are of 32 bits. -/
structure Regular (r : Readout) : Prop where
  sorted : r.slowAdc.Sorted
  raw : ∀ c ∈ r.slowAdc, c.2.raw ≤ Bounds.natural32

theorem shaped_toJson (h : r.Regular) : Shaped (depth + 3) r.toJson.sorted := by
  have hadc : Shaped (depth + 2) (Json.object (r.slowAdc.map fun c => (c.1, c.2.toJson))).sorted := by
    refine shaped_sorted_object fun m hm => ?_
    obtain ⟨c, hc, rfl⟩ := List.mem_map.1 hm
    exact Measurement.shaped_toJson (h.raw c hc)
  refine shaped_sorted_object fun m hm => ?_
  rcases List.mem_append.1 hm with hm | hm
  · rcases List.mem_cons.1 hm with rfl | hm
    · exact hadc
    · obtain ⟨e, he, rfl⟩ := Option.map_eq_some_iff.1 (Option.mem_toList.1 hm)
      exact Environment.shaped_toJson e
  · rw [List.mem_singleton.1 hm]
    exact .string _

/-- The environmental sensor's part, which may be missing. -/
theorem environment_toJson (e? : Option Environment) :
    Tree.AnsweredIf (∀ x ∈ e?.toList.flatMap Environment.floats, x.isFinite = true) e?
      (Tree.orElse (e?.map fun e => Tree.ofValue e.toJson.sorted) none
        (Tree.nullable? Environment.ofTree?)) := by
  cases e? with
  | none => exact ⟨fun _ => rfl, fun h => absurd (by simp) h⟩
  | some e => exact ((Environment.ofTree?_toJson e).map some).congr (by simp)

theorem onOff_toJson (s : OnOff) : OnOff.ofTree? (.ofValue s.toJson.sorted) = some s := by
  cases s <;> rfl

theorem ofTree?_toJson (h : r.Regular) :
    Tree.AnsweredIf (∀ x ∈ r.floats, x.isFinite = true) r (ofTree? (.ofValue r.toJson.sorted)) := by
  have hparts : (Tree.ofValue r.toJson.sorted).record? ["slow_adc", "bme280", "slide_switch"] =
      some [some (.ofValue (Json.object (r.slowAdc.map fun c => (c.1, c.2.toJson))).sorted),
        r.environment.map fun e => .ofValue e.toJson.sorted, some (.ofValue r.slideSwitch.toJson.sorted)] := by
    unfold toJson
    rw [Tree.record?_sorted]
    · cases r.environment <;> rfl
    · cases r.environment <;> simp
  have hadc : Tree.AnsweredIf (∀ c ∈ r.slowAdc, ∀ x ∈ c.2.floats, x.isFinite = true) r.slowAdc
      (Tree.members? Measurement.ofTree?
        (.ofValue (Json.object (r.slowAdc.map fun c => (c.1, c.2.toJson))).sorted)) :=
    Tree.members?_sorted (P := fun m => ∀ x ∈ m.floats, x.isFinite = true) h.sorted
      fun c hc => Measurement.ofTree?_toJson (h.raw c hc)
  unfold ofTree?
  simp only [hparts, Option.bind_eq_bind, Option.bind_some, onOff_toJson]
  refine (Tree.AnsweredIf.bind hadc ((environment_toJson r.environment).bind (.some r))).congr ?_
  simp only [floats, List.mem_append, List.mem_flatMap, and_true]
  constructor
  · intro hall
    exact ⟨fun c hc x hx => hall x (.inl ⟨c, hc, hx⟩), fun x hx => hall x (.inr hx)⟩
  · rintro ⟨hchannels, henvironment⟩ x (⟨c, hc, hx⟩ | hx)
    · exact hchannels c hc x hx
    · exact henvironment x hx

end Readout

namespace Snapshot
variable {s : Snapshot} {depth : Nat}

theorem shaped_toJson (h : s.readout.Regular) (hlow : Bounds.least64 ≤ s.unixTime)
    (hhigh : s.unixTime ≤ Bounds.greatest64) : Shaped (depth + 4) s.toJson.sorted := by
  have htime : s.unixTime ≤ Bounds.natural64 := Int.le_trans hhigh (by decide)
  refine shaped_sorted_object ?_
  simp only [List.forall_mem_cons]
  exact ⟨shaped_int hlow htime, .string _, Readout.shaped_toJson h, nofun⟩

/-- A reading with its time is read as it was written if every float in it is finite, and is none
otherwise. -/
theorem ofTree?_toJson (h : s.readout.Regular) (hlow : Bounds.least64 ≤ s.unixTime)
    (hhigh : s.unixTime ≤ Bounds.greatest64) :
    Tree.AnsweredIf (∀ x ∈ s.readout.floats, x.isFinite = true) s (ofTree? (.ofValue s.toJson.sorted)) := by
  have hparts : (Tree.ofValue s.toJson.sorted).record? ["unixtime", "time", "hk"] =
      some [some (.ofValue (Json.int s.unixTime).sorted), some (.string (some s.time)),
        some (.ofValue s.readout.toJson.sorted)] :=
    Tree.record?_sorted (by simp) _
  have htime : Tree.int? Bounds.least64 Bounds.greatest64 (.ofValue (Json.int s.unixTime).sorted) =
      some s.unixTime := if_pos ⟨hlow, hhigh⟩
  unfold ofTree?
  simp only [hparts, Option.bind_eq_bind, Option.bind_some, htime, Tree.orElse, Tree.string?]
  exact ((Readout.ofTree?_toJson h).bind (.some s)).congr (by simp)

/-- The payload of the reply to a reading. -/
def fields (s : Snapshot) : Fields :=
  sortedMembers [] [("unixtime", .int s.unixTime), ("time", .string s.time), ("hk", s.readout.toJson)]

theorem sorted_toJson (s : Snapshot) : s.toJson.sorted = .object s.fields := rfl

end Snapshot

end DetectorControl
