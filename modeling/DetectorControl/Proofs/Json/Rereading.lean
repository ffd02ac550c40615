import DetectorControl.Proofs.Entries
import DetectorControl.Proofs.Json.Propriety
import DetectorControl.Proofs.Json.Reading

/-!
# A value after its text

A value that was read has its objects in order, is nested only so deep and has proper numbers
(`Shaped`). So its text has a value again: the same one, with the numbers as they are read
(`value?_tree`), of which integers are the same (`again_eq_self_iff`).
-/

namespace DetectorControl

/-- The number that is read where `n` is written. -/
def Number.again (n : Number) : Number :=
  match n.token with
  | .number (some m) => m
  | _ => n

theorem Number.again_eq {n m : Number} (h : n.token = .number (some m)) : n.again = m := by
  rw [again, h]

/-- The float that is read where a float is written. -/
def reread (x : Float) : Float := (Number.float x).again.toFloat

theorem Number.tree_eq {n : Number} (h : n.Proper) : n.tree = .number (some n.again) := by
  obtain ⟨m, hm, -⟩ := token_of_proper h
  rw [tree, hm, again_eq hm]

namespace Json

/-- Objects have their members in order, arrays and objects are nested at most `depth` deep, and numbers
are proper. -/
inductive Shaped : (depth : Nat) → Json → Prop
  | null {depth : Nat} : Shaped depth .null
  | bool {depth : Nat} (b : Bool) : Shaped depth (.bool b)
  | number {depth : Nat} {n : Number} (h : n.Proper) : Shaped depth (.number n)
  | string {depth : Nat} (s : String) : Shaped depth (.string s)
  | array {depth : Nat} {items : List Json} (h : ∀ v ∈ items, Shaped depth v) :
    Shaped (depth + 1) (.array items)
  | object {depth : Nat} {members : Fields} (hsorted : members.Sorted)
    (h : ∀ m ∈ members, Shaped depth m.2) : Shaped (depth + 1) (.object members)

mutual

/-- The value with the numbers as they are read where they are written. -/
def again : Json → Json
  | .null => .null
  | .bool b => .bool b
  | .number n => .number n.again
  | .string s => .string s
  | .array items => .array (itemsAgain items)
  | .object members => .object (membersAgain members)

def itemsAgain : List Json → List Json
  | [] => []
  | v :: vs => again v :: itemsAgain vs

def membersAgain : List (String × Json) → List (String × Json)
  | [] => []
  | (k, v) :: ms => (k, again v) :: membersAgain ms

end

theorem itemsAgain_eq_map (vs : List Json) : itemsAgain vs = vs.map again := by
  induction vs with
  | nil => rfl
  | cons v vs ih => rw [itemsAgain, ih, List.map_cons]

theorem treesOfItems_eq_map (vs : List Json) : treesOfItems vs = vs.map tree := by
  induction vs with
  | nil => rfl
  | cons v vs ih => rw [treesOfItems, ih, List.map_cons]

theorem treesOfMembers_eq_map (ms : List (String × Json)) :
    treesOfMembers ms = ms.map fun m => (some m.1, tree m.2) := by
  induction ms with
  | nil => rfl
  | cons m ms ih => rw [treesOfMembers, ih, List.map_cons]

theorem membersAgain_eq_map (ms : List (String × Json)) :
    membersAgain ms = ms.map fun m => (m.1, m.2.again) := by
  induction ms with
  | nil => rfl
  | cons m ms ih => rw [membersAgain, ih, List.map_cons]

/-! ## What is read has its shape -/

namespace Tree

mutual

theorem shaped_of_value? {depth : Nat} {t : Tree} {v : Json} (h : t.value? depth = some v)
    (ht : t.Proper) : Shaped depth v := by
  cases t with
  | null => cases h; exact .null
  | bool b => cases h; exact .bool b
  | number n =>
    obtain ⟨m, hm, rfl⟩ := Option.map_eq_some_iff.1 h
    cases ht with
    | number hn => exact .number (hn m hm)
  | string s =>
    obtain ⟨s', -, rfl⟩ := Option.map_eq_some_iff.1 h
    exact .string s'
  | array items =>
    cases depth with
    | zero => cases h
    | succ depth =>
      obtain ⟨vs, hvs, rfl⟩ := Option.map_eq_some_iff.1 h
      cases ht with
      | array hitems => exact .array (shaped_of_values? hvs hitems fun v hv => absurd hv List.not_mem_nil)
  | object members =>
    cases depth with
    | zero => cases h
    | succ depth =>
      obtain ⟨ms, hms, rfl⟩ := Option.map_eq_some_iff.1 h
      cases ht with
      | object hmembers =>
        obtain ⟨hsorted, hshaped⟩ := shaped_of_fields? hms hmembers .nil fun m hm => absurd hm List.not_mem_nil
        exact .object hsorted hshaped

theorem shaped_of_values? {depth : Nat} {ts : List Tree} {done vs : List Json}
    (h : values? depth done ts = some vs) (hts : ∀ t ∈ ts, t.Proper) (hdone : ∀ v ∈ done, Shaped depth v) :
    ∀ v ∈ vs, Shaped depth v := by
  cases ts with
  | nil =>
    cases h
    exact fun v hv => hdone v (List.mem_reverse.1 hv)
  | cons t ts =>
    unfold values? at h
    split at h
    · cases h
    · rename_i v hv
      refine shaped_of_values? h (fun u hu => hts u (List.mem_cons_of_mem _ hu)) fun u hu => ?_
      rcases List.mem_cons.1 hu with rfl | hu
      · exact shaped_of_value? hv (hts t List.mem_cons_self)
      · exact hdone u hu

theorem shaped_of_fields? {depth : Nat} {ts : List (Option String × Tree)} {done ms : Fields}
    (h : fields? depth done ts = some ms) (hts : ∀ m ∈ ts, m.2.Proper) (hsorted : done.Sorted)
    (hdone : ∀ m ∈ done, Shaped depth m.2) :
    ms.Sorted ∧ ∀ m ∈ ms, Shaped depth m.2 := by
  cases ts with
  | nil =>
    cases h
    exact ⟨hsorted, hdone⟩
  | cons t ts =>
    obtain ⟨key, t⟩ := t
    unfold fields? at h
    split at h
    · rename_i key v hv
      refine shaped_of_fields? h (fun m hm => hts m (List.mem_cons_of_mem _ hm))
        (Entries.sorted_insert hsorted) fun m hm => ?_
      rcases Entries.mem_insert hm with rfl | hm
      · exact shaped_of_value? hv (hts _ List.mem_cons_self)
      · exact hdone m hm
    · cases h

end

/-- Each key that is read stands among the members, or was read before. -/
theorem key_of_fields? {depth : Nat} {ts : List (Option String × Tree)} {done ms : Fields}
    (h : fields? depth done ts = some ms) {m : String × Json} (hm : m ∈ ms) :
    m ∈ done ∨ ∃ t ∈ ts, t.1 = some m.1 := by
  induction ts generalizing done with
  | nil =>
    cases h
    exact .inl hm
  | cons t ts ih =>
    obtain ⟨key, t⟩ := t
    unfold fields? at h
    split at h
    · rename_i key v hv
      rcases ih h with hm | ⟨u, hu, hkey⟩
      · rcases Entries.mem_insert hm with rfl | hm
        · exact .inr ⟨_, List.mem_cons_self, rfl⟩
        · exact .inl hm
      · exact .inr ⟨u, List.mem_cons_of_mem _ hu, hkey⟩
    · cases h

end Tree

/-! ## What has its shape is read -/

namespace Tree
variable {depth : Nat} {f : Json → Tree} {g : Json → Json}

theorem values?_map {items : List Json} (h : ∀ v ∈ items, (f v).value? depth = some (g v)) (done : List Json) :
    values? depth done (items.map f) = some (done.reverse ++ items.map g) := by
  induction items generalizing done with
  | nil => rw [List.map_nil, List.map_nil, List.append_nil]; rfl
  | cons v vs ih =>
    rw [List.map_cons, values?, h v (by simp)]
    simp only
    rw [ih (fun u hu => h u (by simp [hu])), List.map_cons, List.reverse_cons, List.append_assoc]
    rfl

theorem fields?_cons {done : Fields} {k : String} {t : Tree} {v : Json} {ts : List (Option String × Tree)}
    (h : t.value? depth = some v) : fields? depth done ((some k, t) :: ts) = fields? depth (done.insert k v) ts := by
  simp only [fields?, h]

/-- Members in order are read one after the other. -/
theorem fields?_map {members : Fields} (hsorted : members.Sorted)
    (h : ∀ m ∈ members, (f m.2).value? depth = some (g m.2)) {done : Fields}
    (hdone : ∀ e ∈ done, ∀ m ∈ members, e.1 < m.1) :
    fields? depth done (members.map fun m => (some m.1, f m.2)) =
      some (done ++ members.map fun m => (m.1, g m.2)) := by
  induction members generalizing done with
  | nil => rw [List.map_nil, List.map_nil, List.append_nil]; rfl
  | cons m ms ih =>
    obtain ⟨k, v⟩ := m
    have hms : Entries.Sorted ms := (List.pairwise_cons.1 hsorted).2
    have hv : (f v).value? depth = some (g v) := h (k, v) (by simp)
    rw [List.map_cons, fields?_cons hv, Entries.insert_eq_append fun e he => hdone e he (k, v) (by simp),
      ih hms (fun m hm => h m (by simp [hm])) (Entries.forall_lt_concat hsorted hdone (g v)), List.map_cons,
      List.append_assoc]
    rfl

end Tree

theorem fields?_trees {depth : Nat} {members : Fields} (hsorted : members.Sorted)
    (h : ∀ m ∈ members, (tree m.2).value? depth = some m.2.again) :
    Tree.fields? depth [] (treesOfMembers members) = some (membersAgain members) := by
  rw [treesOfMembers_eq_map, membersAgain_eq_map, Tree.fields?_map hsorted h (by simp)]
  rfl

/-- The text of a value has that value, but for the numbers. -/
theorem value?_tree {depth : Nat} {v : Json} (h : Shaped depth v) :
    (tree v).value? depth = some v.again := by
  induction h with
  | null => rfl
  | bool b => rfl
  | number hn => rw [tree, Number.tree_eq hn]; rfl
  | string s => rfl
  | array _ ih =>
    rw [tree, Tree.value?, treesOfItems_eq_map, Tree.values?_map ih, again, itemsAgain_eq_map]
    rfl
  | object hsorted _ ih =>
    rw [tree, Tree.value?, fields?_trees hsorted ih]
    rfl

/-! ## Values that stay the same -/

/-- Where a float of the value is written, the same float is read. -/
inductive Exact : Json → Prop
  | null : Exact .null
  | bool (b : Bool) : Exact (.bool b)
  | int (i : Int) : Exact (.number (.int i))
  | float {x : Float} (h : (Number.float x).again = .float x) : Exact (.number (.float x))
  | string (s : String) : Exact (.string s)
  | array {items : List Json} (h : ∀ v ∈ items, Exact v) : Exact (.array items)
  | object {members : Fields} (h : ∀ m ∈ members, Exact m.2) : Exact (.object members)

theorem itemsAgain_eq_self_iff {vs : List Json} : itemsAgain vs = vs ↔ ∀ v ∈ vs, v.again = v := by
  rw [itemsAgain_eq_map]
  simpa only [List.map_id, id] using List.map_inj_left (l := vs) (f := again) (g := id)

theorem membersAgain_eq_self_iff {ms : List (String × Json)} :
    membersAgain ms = ms ↔ ∀ m ∈ ms, m.2.again = m.2 := by
  have hmap := List.map_inj_left (l := ms) (f := fun m => (m.1, m.2.again)) (g := id)
  rw [List.map_id] at hmap
  rw [membersAgain_eq_map, hmap]
  exact forall₂_congr fun m _ => ⟨congrArg Prod.snd, fun h => Prod.ext rfl h⟩

/-- Only the floats of a value can be read as others. -/
theorem again_eq_self_iff {depth : Nat} {v : Json} (h : Shaped depth v) : v.again = v ↔ v.Exact := by
  induction h with
  | null => exact ⟨fun _ => .null, fun _ => rfl⟩
  | bool b => exact ⟨fun _ => .bool b, fun _ => rfl⟩
  | string s => exact ⟨fun _ => .string s, fun _ => rfl⟩
  | @number _ n hn =>
    cases n with
    | int i => exact ⟨fun _ => .int i, fun _ => congrArg Json.number (Number.again_eq (Number.token_int hn.1 hn.2))⟩
    | float x =>
      refine ⟨fun h => .float (Json.number.inj h), fun h => ?_⟩
      cases h with
      | float h => exact congrArg Json.number h
  | @array _ items _ ih =>
    rw [again, array.injEq, itemsAgain_eq_self_iff, forall₂_congr ih]
    refine ⟨.array, fun h => ?_⟩
    cases h with
    | array h => exact h
  | @object _ members _ _ ih =>
    rw [again, object.injEq, membersAgain_eq_self_iff, forall₂_congr ih]
    refine ⟨.object, fun h => ?_⟩
    cases h with
    | object h => exact h

end Json

end DetectorControl
