import DetectorControl.Proofs.Json.Sorting
import DetectorControl.Reply

/-!
# Frames after their texts

A reply frame that is read has its payload in order and apart from the header (`Shaped`), and its text
is read as the same frame, with the numbers of the payload as they are read (`read_text`). A frame that is
handed on without a text is the same (`ofTree?_sorted`). A request keeps its command whatever becomes of
its options (`Request.read_text`).
-/

namespace DetectorControl

open Json

namespace ReplyFrame

/-- The payload has the shape of one that was read. -/
structure Shaped (f : ReplyFrame) : Prop where
  sorted : f.fields.Sorted
  fields : ∀ m ∈ f.fields, Json.Shaped (depthLimit - 1) m.2
  free : ∀ m ∈ f.fields, m.1 ∉ header

theorem any_header {key : String} : (!header.any fun h => some key == some h) = true ↔ key ∉ header := by
  simp only [Bool.not_eq_true', List.any_eq_false, Option.some_beq_some, beq_iff_eq]
  exact ⟨fun h hkey => h key hkey rfl, fun h x hx heq => h (heq ▸ hx)⟩

theorem shaped_of_ofTree? {t : Tree} {f : ReplyFrame} (h : ofTree? t = some f) (ht : t.Proper) :
    f.Shaped := by
  cases ht with
  | @object members hmembers =>
    have hpayload : payload? (depthLimit - 1) members = some f.fields := by
      unfold ofTree? at h
      obtain ⟨parts, -, h⟩ := Option.bind_eq_some_iff.1 h
      split at h
      · obtain ⟨status, -, h⟩ := Option.bind_eq_some_iff.1 h
        obtain ⟨message, -, h⟩ := Option.bind_eq_some_iff.1 h
        obtain ⟨subsystem, -, h⟩ := Option.bind_eq_some_iff.1 h
        obtain ⟨fields, hfields, h⟩ := Option.bind_eq_some_iff.1 h
        cases h
        exact hfields
      · cases h
    obtain ⟨hsorted, hshaped⟩ := Tree.shaped_of_fields? hpayload
      (fun m hm => hmembers m ((List.mem_filter.1 hm).1)) .nil fun m hm => absurd hm List.not_mem_nil
    refine ⟨hsorted, hshaped, fun m hm => ?_⟩
    rcases Tree.key_of_fields? hpayload hm with hm | ⟨t, ht, hkey⟩
    · cases hm
    · have hfree := (List.mem_filter.1 ht).2
      rw [hkey] at hfree
      exact any_header.1 hfree
  | _ => cases h

theorem shaped_of_read {text : Bytes} {f : ReplyFrame} (h : read text = .ok f) : f.Shaped := by
  unfold read at h
  split at h
  · rename_i g hg
    cases h
    obtain ⟨t, hparse, ht⟩ := Option.bind_eq_some_iff.1 hg
    exact shaped_of_ofTree? ht (Tree.proper_of_parse? hparse)
  · cases h

/-- The frame with the numbers of its payload as they are read where they are written. -/
def again (f : ReplyFrame) : ReplyFrame := { f with fields := membersAgain f.fields }

def headerTrees (f : ReplyFrame) : List (Option String × Tree) :=
  (some "status", .string (some f.status.name))
    :: (f.message.map fun m => (some "message", .string (some m))).toList
    ++ (f.subsystem.map fun s => (some "subsystem", .string (some s))).toList

theorem tree_toJson (f : ReplyFrame) :
    tree f.toJson = .object (f.headerTrees ++ treesOfMembers f.fields) := by
  obtain ⟨status, message, subsystem, fields⟩ := f
  cases message <;> cases subsystem <;> rfl

section
variable (f : ReplyFrame) {rest : List (Option String × Tree)}

theorem record?_headerTrees (hkeys : rest.all (·.1.isSome) = true)
    (hfree : ∀ name ∈ header, rest.filter (·.1 == some name) = []) :
    Tree.record? header (.object (f.headerTrees ++ rest)) =
      some [some (.string (some f.status.name)), f.message.map fun m => .string (some m),
        f.subsystem.map fun s => .string (some s)] := by
  have hstatus := hfree "status" (by decide)
  have hmessage := hfree "message" (by decide)
  have hsubsystem := hfree "subsystem" (by decide)
  obtain ⟨status, message, subsystem, fields⟩ := f
  cases message <;> cases subsystem <;>
    simp [headerTrees, Tree.record?, header, hkeys, hstatus, hmessage, hsubsystem]

theorem filter_headerTrees (hfree : rest.filter (fun m => !header.any fun h => m.1 == some h) = rest) :
    (f.headerTrees ++ rest).filter (fun m => !header.any fun h => m.1 == some h) = rest := by
  have hheader : f.headerTrees.filter (fun m => !header.any fun h => m.1 == some h) = [] := by
    obtain ⟨status, message, subsystem, fields⟩ := f
    cases message <;> cases subsystem <;> rfl
  rw [List.filter_append, hheader, hfree]
  rfl

end

theorem read_text {f : ReplyFrame} (h : f.Shaped) :
    read (Bytes.ofString f.text) = .ok f.again := by
  have hkeys : (treesOfMembers f.fields).all (·.1.isSome) = true := by
    simp [treesOfMembers_eq_map]
  -- no name of the header stands in the payload
  have hnone : ∀ name ∈ header, (treesOfMembers f.fields).filter (·.1 == some name) = [] := by
    intro name hname
    rw [treesOfMembers_eq_map, List.filter_eq_nil_iff]
    intro t ht heq
    obtain ⟨m, hm, rfl⟩ := List.mem_map.1 ht
    have hkey : m.1 = name := by simpa using heq
    exact h.free m hm (hkey ▸ hname)
  have hrest : (treesOfMembers f.fields).filter (fun m => !header.any fun h => m.1 == some h) =
      treesOfMembers f.fields := by
    rw [List.filter_eq_self, treesOfMembers_eq_map]
    intro t ht
    obtain ⟨m, hm, rfl⟩ := List.mem_map.1 ht
    exact any_header.2 (h.free m hm)
  have hpayload : payload? (depthLimit - 1) (f.headerTrees ++ treesOfMembers f.fields) =
      some (membersAgain f.fields) := by
    rw [payload?, filter_headerTrees f hrest]
    exact fields?_trees h.sorted fun m hm => value?_tree (h.fields m hm)
  have hread : ofText? (Bytes.ofString f.text) = some f.again := by
    rw [ofText?, text, parse?_compact, tree_toJson, Option.bind_some, ofTree?,
      record?_headerTrees f hkeys hnone, hpayload]
    obtain ⟨status, message, subsystem, fields⟩ := f
    cases status <;> cases message <;> cases subsystem <;> rfl
  rw [read, hread]

/-! ### Frames without texts -/

def headerMembers (f : ReplyFrame) : List (String × Json) :=
  ("status", .string f.status.name)
    :: (f.message.map fun m => ("message", Json.string m)).toList
    ++ (f.subsystem.map fun s => ("subsystem", Json.string s)).toList

theorem mem_header_of_mem {f : ReplyFrame} {m : String × Json} (h : m ∈ f.headerMembers) : m.1 ∈ header := by
  obtain ⟨status, message, subsystem, fields⟩ := f
  have hkeys : ∀ m ∈ headerMembers ⟨status, message, subsystem, fields⟩, m.1 ∈ header := by
    cases message <;> cases subsystem <;> simp [headerMembers, header]
  exact hkeys m h

theorem nodup_members {f : ReplyFrame} (h : f.Shaped) : ((f.headerMembers ++ f.fields).map (·.1)).Nodup := by
  rw [List.map_append, List.nodup_append]
  refine ⟨?_, ?_, ?_⟩
  · obtain ⟨status, message, subsystem, fields⟩ := f
    cases message <;> cases subsystem <;> simp [headerMembers]
  · rw [List.Nodup, List.pairwise_map]
    exact h.sorted.imp fun hlt => String.ne_of_lt hlt
  · intro key hheader key' hfields heq
    obtain ⟨m, hm, rfl⟩ := List.mem_map.1 hheader
    obtain ⟨m', hm', rfl⟩ := List.mem_map.1 hfields
    exact h.free m' hm' (heq ▸ mem_header_of_mem hm)

theorem get?_members {f : ReplyFrame} (h : f.Shaped) {name : String} (hname : name ∈ header) :
    Entries.get? (f.headerMembers ++ f.fields) name = Entries.get? f.headerMembers name := by
  have hnone : f.fields.get? name = none := by
    refine Entries.get?_eq_none ?_
    rintro m hm rfl
    exact h.free m hm hname
  rw [Entries.get?_append, hnone, Option.or_none]

/-- Without the header, the payload is left. -/
theorem filter_members {f : ReplyFrame} (h : f.Shaped) :
    (sortedMembers [] (f.headerMembers ++ f.fields)).filter (fun m => !header.any fun h => some m.1 == some h) =
      f.fields := by
  have hheader : f.headerMembers.filter (fun m => !header.any fun h => some m.1 == some h) = [] := by
    rw [List.filter_eq_nil_iff]
    intro m hm hfree
    exact any_header.1 hfree (mem_header_of_mem hm)
  have hpayload : f.fields.filter (fun m => !header.any fun h => some m.1 == some h) = f.fields := by
    rw [List.filter_eq_self]
    intro m hm
    exact any_header.2 (h.free m hm)
  have hvalues : (f.fields.map fun m => (m.1, m.2.sorted)) = f.fields := by
    refine (List.map_congr_left fun m hm => ?_).trans (List.map_id f.fields)
    rw [sorted_of_shaped (h.fields m hm)]
    rfl
  rw [filter_sortedMembers (fun key => !header.any fun h => some key == some h) .nil, List.filter_append, hheader,
    hpayload]
  show sortedMembers [] f.fields = f.fields
  rw [sortedMembers_of_sorted h.sorted (by simp), hvalues]
  rfl

theorem ofTree?_sorted {f : ReplyFrame} (h : f.Shaped) : ofTree? (.ofValue f.toJson.sorted) = some f := by
  have hparts : Tree.record? header (.ofValue f.toJson.sorted) =
      some (header.map fun name => (Entries.get? f.headerMembers name).map fun v => Tree.ofValue v.sorted) := by
    show Tree.record? header (.ofValue (Json.object (f.headerMembers ++ f.fields)).sorted) = _
    rw [Tree.record?_sorted (nodup_members h)]
    refine congrArg some (List.map_congr_left fun name hname => ?_)
    rw [get?_members h hname]
  have hmembers : Tree.ofValue f.toJson.sorted =
      .object ((sortedMembers [] (f.headerMembers ++ f.fields)).map fun m => (some m.1, .ofValue m.2)) := by
    show Tree.ofValue (.object (sortedMembers [] (f.headerMembers ++ f.fields))) = _
    rw [Tree.ofValue, Tree.ofMembers_eq_map, List.reverse_nil, List.nil_append]
  rw [hmembers] at hparts ⊢
  have hpayload : payload? (depthLimit - 1)
      ((sortedMembers [] (f.headerMembers ++ f.fields)).map fun m => (some m.1, .ofValue m.2)) = some f.fields := by
    have hread : ∀ m ∈ f.fields, (Tree.ofValue m.2).value? (depthLimit - 1) = some (id m.2) :=
      fun m hm => Tree.value?_ofValue (h.fields m hm)
    unfold payload?
    rw [List.filter_map]
    refine (congrArg _ (congrArg _ (filter_members h))).trans ?_
    rw [Tree.fields?_map h.sorted hread (by simp)]
    simp
  unfold ofTree?
  simp only [hparts, hpayload]
  obtain ⟨status, message, subsystem, fields⟩ := f
  cases status <;> cases message <;> cases subsystem <;> rfl

end ReplyFrame

/-- What is read where a reply is written, on behalf of a subsystem. -/
theorem Reply.read_frame {r : Reply} (name : String)
    (h : ∀ message fields, r = .ok message fields → (ReplyFrame.mk .ok message none fields).Shaped) :
    ∃ f, ReplyFrame.read (Bytes.ofString (r.frame name).text) = .ok f ∧
      f.reply = match r with
        | .ok message fields => .ok message (membersAgain fields)
        | .error message => .error message := by
  cases r with
  | ok message fields =>
    have hshaped := h message fields rfl
    have hframe : (frame (.ok message fields) name).Shaped := ⟨hshaped.sorted, hshaped.fields, hshaped.free⟩
    exact ⟨_, ReplyFrame.read_text hframe, rfl⟩
  | error message =>
    have hframe : (frame (.error message) name).Shaped := ⟨.nil, nofun, nofun⟩
    exact ⟨_, ReplyFrame.read_text hframe, rfl⟩

/-- The reply that is found in its frame after the frame was handed on without a text. -/
def Reply.relayed? (r : Reply) (subsystem : String) : Option Reply :=
  (ReplyFrame.ofTree? (.ofValue (r.frame subsystem).toJson.sorted)).map ReplyFrame.reply

theorem Reply.relayed?_eq {r : Reply} (subsystem : String)
    (h : ∀ message fields, r = .ok message fields → (ReplyFrame.mk .ok message none fields).Shaped) :
    r.relayed? subsystem = some r := by
  have hframe : (r.frame subsystem).Shaped := by
    cases r with
    | ok message fields =>
      have hshaped := h message fields rfl
      exact ⟨hshaped.sorted, hshaped.fields, hshaped.free⟩
    | error message => exact ⟨.nil, nofun, nofun⟩
  rw [relayed?, ReplyFrame.ofTree?_sorted hframe]
  cases r <;> rfl

/-- The options with their numbers as they are read where they are written. -/
def Options.again (o : Options) : Options := ⟨membersAgain o.map⟩

namespace Request

theorem tree_toJson (r : Request) :
    tree r.toJson = .object ((some "command", .string (some r.command)) ::
      (r.options.map fun o => (some "option", tree o.toJson)).toList) := by
  obtain ⟨command, options⟩ := r
  cases options <;> rfl

/-- The text of a request is read as its command, with what is read of its options. -/
theorem ofText?_text (r : Request) :
    ofText? (Bytes.ofString r.text) =
      (Tree.orElse (r.options.map fun o => tree o.toJson) none
        (Tree.nullable? (Options.ofTree? (depthLimit - 1)))).map fun o => ⟨r.command, o⟩ := by
  obtain ⟨command, options⟩ := r
  rw [ofText?, text, parse?_compact, tree_toJson, Option.bind_some]
  cases options with
  | none => rfl
  | some o =>
    show ((Tree.nullable? _ (tree o.toJson)).bind fun options => some (Request.mk command options)) =
      (Tree.nullable? _ (tree o.toJson)).map fun options => Request.mk command options
    exact Option.map_eq_bind.symm

/-- A request with options of the right shape keeps them, but for their numbers. -/
theorem read_shaped (command : String) {o : Options} (h : Shaped (depthLimit - 1) o.toJson) :
    read (Bytes.ofString (Request.mk command (some o)).text) = .ok ⟨command, some o.again⟩ := by
  have hvalue : (Tree.object (treesOfMembers o.map)).value? (depthLimit - 1) = some (.object (membersAgain o.map)) :=
    value?_tree h
  have hoptions : Options.ofTree? (depthLimit - 1) (.object (treesOfMembers o.map)) = some o.again := by
    rw [Options.ofTree?, hvalue]
    rfl
  have hread : ofText? (Bytes.ofString (Request.mk command (some o)).text) = some ⟨command, some o.again⟩ := by
    rw [ofText?_text]
    show ((Options.ofTree? (depthLimit - 1) (.object (treesOfMembers o.map))).map some).map _ = _
    rw [hoptions]
    rfl
  rw [read, hread]

/-- A request that is read where it was written has kept its command. -/
theorem command_of_read {r q : Request} (h : read (Bytes.ofString r.text) = .ok q) :
    q.command = r.command := by
  unfold read at h
  rw [ofText?_text] at h
  split at h
  · rename_i hq
    cases h
    obtain ⟨o, -, rfl⟩ := Option.map_eq_some_iff.1 hq
    rfl
  · cases h

end Request

end DetectorControl
