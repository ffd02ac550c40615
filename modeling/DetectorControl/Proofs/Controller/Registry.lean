import DetectorControl.Controller.Registry
import DetectorControl.Proofs.Entries

/-!
# The names of a registry

A registry keeps its names twice, as the keys of a map and in a list. `Registry.Agrees` says that the two go
together; it holds of the empty registry, and is kept by whatever is registered or refused and by commands
(`Agrees.register`, `Agrees.invoke`).
-/

namespace DetectorControl.Registry
variable {W : Type} {r : Registry W} {name name' verb : String} {m : Module W} {e : Entry W}

/-! ## Sets of verbs -/

theorem mem_insertName {s t : String} {l : List String} : t ∈ insertName s l ↔ t = s ∨ t ∈ l := by
  induction l with
  | nil => simp [insertName]
  | cons u rest ih =>
    unfold insertName
    split
    · simp
    · split
      · rename_i _ h
        simp [h]
      · simp only [List.mem_cons, ih]
        exact or_left_comm

theorem mem_nameSet {t : String} {names : List String} : t ∈ nameSet names ↔ t ∈ names := by
  induction names with
  | nil => simp [nameSet]
  | cons s rest ih =>
    show t ∈ insertName s (nameSet rest) ↔ _
    rw [mem_insertName, ih, List.mem_cons]

theorem pairwise_insertName {s : String} {l : List String} (h : l.Pairwise (· < ·)) :
    (insertName s l).Pairwise (· < ·) := by
  induction l with
  | nil => exact List.pairwise_singleton ..
  | cons t rest ih =>
    obtain ⟨ht, hrest⟩ := List.pairwise_cons.1 h
    unfold insertName
    split
    · rename_i hlt
      refine List.pairwise_cons.2 ⟨fun u hu => ?_, h⟩
      rcases List.mem_cons.1 hu with rfl | hu
      · exact hlt
      · exact String.lt_trans hlt (ht u hu)
    · split
      · exact h
      · rename_i hlt hne
        refine List.pairwise_cons.2 ⟨fun u hu => ?_, ih hrest⟩
        rcases mem_insertName.1 hu with rfl | hu
        · exact Entries.lt_of_not_lt_of_ne hlt hne
        · exact ht u hu

theorem pairwise_nameSet (names : List String) : (nameSet names).Pairwise (· < ·) := by
  induction names with
  | nil => exact .nil
  | cons s rest ih => exact pairwise_insertName ih

/-! ## Entries that are added and replaced -/

theorem find?_add_self (r : Registry W) (name : String) (m : Module W) :
    (r.add name m).find? name = some (.ofModule m) :=
  Entries.get?_insert_self ..

theorem find?_add_of_ne (h : name' ≠ name) (r : Registry W) (m : Module W) : (r.add name m).find? name' = r.find? name' :=
  Entries.get?_insert_of_ne _ _ h

theorem find?_put_self (r : Registry W) (name : String) (e : Entry W) : (r.put name e).find? name = some e :=
  Entries.get?_insert_self ..

theorem find?_put_of_ne (h : name' ≠ name) (r : Registry W) (e : Entry W) : (r.put name e).find? name' = r.find? name' :=
  Entries.get?_insert_of_ne _ _ h

theorem register_of_free (hreserved : name ≠ Target.controllerName) (hfree : r.find? name = none) (m : Module W) :
    r.register name m = (.ok (), r.add name m) := by
  rw [register, if_neg hreserved, hfree]
  rfl

theorem register_of_refused (h : name = Target.controllerName ∨ (r.find? name).isSome = true) (m : Module W) :
    ∃ e, r.register name m = (.error e, r) := by
  unfold register
  by_cases hreserved : name = Target.controllerName
  · exact ⟨_, if_pos hreserved⟩
  · rw [if_neg hreserved, if_pos (h.resolve_left hreserved)]
    exact ⟨_, rfl⟩

/-- All that can come of an attempt. -/
theorem register_cases (r : Registry W) (name : String) (m : Module W) :
    (r.register name m = (.ok (), r.add name m) ∧ name ≠ Target.controllerName ∧ r.find? name = none) ∨
      (∃ e, r.register name m = (.error e, r)) ∧ (name = Target.controllerName ∨ (r.find? name).isSome = true) := by
  by_cases h : name = Target.controllerName ∨ (r.find? name).isSome = true
  · exact .inr ⟨register_of_refused h m, h⟩
  · obtain ⟨hreserved, htaken⟩ := not_or.1 h
    have hfree := Option.not_isSome_iff_eq_none.1 htaken
    exact .inl ⟨register_of_free hreserved hfree m, hreserved, hfree⟩

theorem register_eq_error_iff : (∃ e, (r.register name m).1 = .error e) ↔
    name = Target.controllerName ∨ (r.find? name).isSome = true := by
  obtain ⟨hr, hreserved, hfree⟩ | ⟨⟨e, hr⟩, hrefused⟩ := register_cases r name m
  · rw [hr, hfree]
    exact iff_of_false nofun (not_or.2 ⟨hreserved, nofun⟩)
  · exact iff_of_true ⟨e, by rw [hr]⟩ hrefused

theorem register_of_error {error : RegistryError} (h : (r.register name m).1 = .error error) :
    (r.register name m).2 = r := by
  obtain ⟨hr, -⟩ | ⟨⟨e, hr⟩, -⟩ := register_cases r name m
  · rw [hr] at h
    cases h
  · rw [hr]

/-! ## Commands -/

theorem supports_iff_find? : r.supports name verb = true ↔ ∃ e, r.find? name = some e ∧ verb ∈ e.verbs := by
  unfold supports
  cases r.find? name with
  | none => exact iff_of_false nofun nofun
  | some e =>
    constructor
    · exact fun h => ⟨e, rfl, List.contains_iff_mem.1 h⟩
    · rintro ⟨e, ⟨⟩, h⟩
      exact List.contains_iff_mem.2 h

theorem invoke_of_find? (hfind : r.find? name = some e) (hverb : verb ∈ e.verbs) (o : Options) (w : W) :
    r.invoke name verb o w = ((e.invoke verb o w).1, r.put name (e.invoke verb o w).2.1, (e.invoke verb o w).2.2) := by
  unfold invoke
  rw [hfind]
  exact if_pos (List.contains_iff_mem.2 hverb)

theorem invoke_of_unsupported (h : r.supports name verb = false) (o : Options) (w : W) :
    r.invoke name verb o w = (.unserved, r, w) := by
  unfold invoke
  cases hfind : r.find? name with
  | none => rfl
  | some e =>
    rw [supports, hfind] at h
    exact if_neg (Bool.eq_false_iff.1 h)

/-- A command leaves the registry as it is, or puts back the entry that it found. -/
theorem invoke_cases (r : Registry W) (name verb : String) (o : Options) (w : W) :
    (r.invoke name verb o w).2.1 = r ∨
      ∃ e, r.find? name = some e ∧ (r.invoke name verb o w).2.1 = r.put name (e.invoke verb o w).2.1 := by
  cases hsupports : r.supports name verb with
  | false => exact .inl (by rw [invoke_of_unsupported hsupports])
  | true =>
    obtain ⟨e, hfind, hverb⟩ := supports_iff_find?.1 hsupports
    exact .inr ⟨e, hfind, by rw [invoke_of_find? hfind hverb]⟩

theorem names_invoke (r : Registry W) (name verb : String) (o : Options) (w : W) :
    (r.invoke name verb o w).2.1.names = r.names := by
  obtain h | ⟨e, -, h⟩ := invoke_cases r name verb o w
  · rw [h]
  · rw [h]
    rfl

theorem find?_invoke_of_ne (r : Registry W) (hne : name' ≠ name) (verb : String) (o : Options) (w : W) :
    (r.invoke name verb o w).2.1.find? name' = r.find? name' := by
  obtain h | ⟨e, -, h⟩ := invoke_cases r name verb o w
  · rw [h]
  · rw [h, find?_put_of_ne hne]

/-! ## The map and the list -/

/-- The names of the list are those of the map, each of them once. -/
structure Agrees (r : Registry W) : Prop where
  nodup : r.order.Nodup
  isSome_find?_iff : ∀ name, (r.find? name).isSome = true ↔ name ∈ r.order

namespace Agrees

theorem empty : (Registry.empty : Registry W).Agrees := ⟨.nil, fun _ => iff_of_false nofun List.not_mem_nil⟩

theorem find?_eq_none_iff (h : r.Agrees) : r.find? name = none ↔ name ∉ r.names := by
  rw [← Option.not_isSome_iff_eq_none, h.isSome_find?_iff]
  rfl

theorem add (h : r.Agrees) (hfree : r.find? name = none) (m : Module W) : (r.add name m).Agrees := by
  have hnew : name ∉ r.order := h.find?_eq_none_iff.1 hfree
  refine ⟨?_, fun name' => ?_⟩
  · refine List.nodup_append.2 ⟨h.nodup, List.pairwise_singleton .., fun n hn n' hn' heq => hnew ?_⟩
    rwa [← List.mem_singleton.1 hn', ← heq]
  · show _ ↔ name' ∈ r.order ++ [name]
    rw [List.mem_append, List.mem_singleton]
    by_cases hname : name' = name
    · subst hname
      exact iff_of_true (by rw [find?_add_self]; rfl) (.inr rfl)
    · rw [find?_add_of_ne hname, h.isSome_find?_iff]
      exact (or_iff_left hname).symm

theorem put (h : r.Agrees) (htaken : (r.find? name).isSome = true) (e : Entry W) : (r.put name e).Agrees := by
  refine ⟨h.nodup, fun name' => ?_⟩
  by_cases hname : name' = name
  · subst hname
    exact iff_of_true (by rw [find?_put_self]; rfl) ((h.isSome_find?_iff name').1 htaken)
  · rw [find?_put_of_ne hname]
    exact h.isSome_find?_iff name'

/-- Whether it is registered or refused. -/
theorem register (h : r.Agrees) (name : String) (m : Module W) : (r.register name m).2.Agrees := by
  obtain ⟨hr, -, hfree⟩ | ⟨⟨e, hr⟩, -⟩ := register_cases r name m
  · rw [hr]
    exact h.add hfree m
  · rwa [hr]

theorem invoke (h : r.Agrees) (name verb : String) (o : Options) (w : W) : (r.invoke name verb o w).2.1.Agrees := by
  obtain hr | ⟨e, hfind, hr⟩ := invoke_cases r name verb o w
  · rwa [hr]
  · rw [hr]
    exact h.put (by rw [hfind]; rfl) _

end Agrees

/-! ## Modules whose names differ -/

theorem registerAll_nil (r : Registry W) : r.registerAll [] = r := by
  rw [registerAll, List.foldl_nil]

theorem registerAll_cons (r : Registry W) (name : String) (m : Module W) (modules : List (String × Module W)) :
    r.registerAll ((name, m) :: modules) = (r.register name m).2.registerAll modules := by
  rw [registerAll, registerAll, List.foldl_cons]

theorem Agrees.registerAll (h : r.Agrees) (modules : List (String × Module W)) : (r.registerAll modules).Agrees := by
  induction modules generalizing r with
  | nil => rwa [registerAll_nil]
  | cons p rest ih =>
    rw [registerAll_cons]
    exact ih (h.register p.1 p.2)

/-- The names behind the first module are free when it has been registered. -/
theorem find?_add_of_nodup {p : String × Module W} {rest : List (String × Module W)}
    (hnodup : ((p :: rest).map (·.1)).Nodup) (hfree : ∀ q ∈ p :: rest, r.find? q.1 = none) :
    ∀ q ∈ rest, (r.add p.1 p.2).find? q.1 = none := by
  intro q hq
  have hdiffers : q.1 ≠ p.1 := fun heq => (List.nodup_cons.1 hnodup).1 (List.mem_map.2 ⟨q, hq, heq⟩)
  rw [find?_add_of_ne hdiffers, hfree q (List.mem_cons_of_mem p hq)]

/-- Modules that are registered one after the other, under names that differ and are free. -/
theorem registerAll_of_nodup {modules : List (String × Module W)} (hnodup : (modules.map (·.1)).Nodup)
    (hreserved : Target.controllerName ∉ modules.map (·.1)) (hfree : ∀ p ∈ modules, r.find? p.1 = none) :
    r.registerAll modules =
      ⟨(modules.map fun p => (p.1, Entry.ofModule p.2)).foldl (fun entries p => entries.insert p.1 p.2) r.entries,
        r.order ++ modules.map (·.1)⟩ := by
  induction modules generalizing r with
  | nil =>
    rw [registerAll_nil]
    exact congrArg (Registry.mk r.entries) (List.append_nil _).symm
  | cons p rest ih =>
    obtain ⟨hne, hreserved⟩ := not_or.1 (mt List.mem_cons.2 hreserved)
    have hregister := register_of_free (Ne.symm hne) (hfree p List.mem_cons_self) p.2
    rw [registerAll_cons, hregister,
      ih (List.nodup_cons.1 hnodup).2 hreserved (find?_add_of_nodup hnodup hfree)]
    exact congrArg (Registry.mk _) (List.append_cons ..).symm

section
variable {front back : List (String × Module W)} {m' : Module W}

theorem ne_of_mem_back (hnodup : ((front ++ (name, m) :: back).map (·.1)).Nodup) :
    ∀ p ∈ back.map fun p => (p.1, Entry.ofModule p.2), p.1 ≠ name := by
  intro p hp
  obtain ⟨q, hq, rfl⟩ := List.mem_map.1 hp
  rw [List.map_append] at hnodup
  have hback := (List.nodup_cons.1 (List.nodup_append.1 hnodup).2.1).1
  exact fun heq => hback (List.mem_map.2 ⟨q, hq, heq⟩)

theorem find?_registerAll (hnodup : ((front ++ (name, m) :: back).map (·.1)).Nodup)
    (hreserved : Target.controllerName ∉ (front ++ (name, m) :: back).map (·.1)) :
    (Registry.empty.registerAll (front ++ (name, m) :: back)).find? name = some (.ofModule m) := by
  rw [registerAll_of_nodup hnodup hreserved fun _ _ => rfl, List.map_append, List.map_cons, List.foldl_append,
    List.foldl_cons]
  exact (Entries.get?_foldl_insert (ne_of_mem_back hnodup) _).trans (Entries.get?_insert_self ..)

/-- A module that is put in the place of another stands where that one was registered. -/
theorem put_registerAll (hnodup : ((front ++ (name, m) :: back).map (·.1)).Nodup)
    (hreserved : Target.controllerName ∉ (front ++ (name, m) :: back).map (·.1)) :
    (Registry.empty.registerAll (front ++ (name, m) :: back)).put name (.ofModule m') =
      Registry.empty.registerAll (front ++ (name, m') :: back) := by
  have hnames : (front ++ (name, m') :: back).map (·.1) = (front ++ (name, m) :: back).map (·.1) := by simp
  rw [registerAll_of_nodup hnodup hreserved fun _ _ => rfl,
    registerAll_of_nodup (hnames ▸ hnodup) (hnames ▸ hreserved) fun _ _ => rfl, hnames]
  simp only [put, List.map_append, List.map_cons, List.foldl_append, List.foldl_cons]
  rw [Entries.insert_foldl_insert (ne_of_mem_back hnodup)]

end

end DetectorControl.Registry
