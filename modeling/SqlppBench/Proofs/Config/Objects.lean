import SqlppBench.Config.Json
import SqlppBench.Proofs.Config.Styles
import SqlppBench.Proofs.Json.Records

/-! # Configurations as objects

What is written for each member of a configuration is stated without the reader, and an object with
these members is read as the configuration, in any order and with anything usual left out
(`ClientConfig.readsAs_object`). No object is read that has a member of another name, or two under
names of one member (`ClientConfig.names_of_ofJson`).
-/

namespace SqlppBench

open Json (IsTextFor PassesValue ReadsAs ReadsBehind ReadsMembers ReadsValues)

/-! ## Feeds -/

/-- The value of a member of a feed. -/
def FeedMember.toJson (f : FeedConfig) : FeedMember → Json.Value
  | .host => .string f.host
  | .port => .number (.whole f.port)

/-- The objects that are written for a feed: both members, in either order. -/
def FeedConfig.IsObject (f : FeedConfig) (v : Json.Value) : Prop :=
  ∃ order : List FeedMember, order.Perm [.host, .port] ∧
    v = .object (order.map fun m => (m.name, m.toJson f))

namespace FeedConfig

variable {f : FeedConfig}

theorem isObject_toJson (f : FeedConfig) : f.IsObject f.toJson :=
  ⟨[.host, .port], .refl _, rfl⟩

theorem readsBehind_member {read : List FeedMember} {m : FeedMember} (port : f.port < portBound)
    (hnew : m ∉ read) :
    ReadsBehind IsTextFor (member m.name (.of f read)) (m.toJson f) (.of f (read ++ [m])) := by
  intro ws ws' t hws hws' ht p rest hrest
  rw [← FeedDraft.put_of]
  simp only [member, FeedMember.ofName_name]
  cases m with
  | host => exact (Json.readsAs_anyText f.host).field_unread hnew hws hws' ht p rest hrest
  | port => exact (Json.readsAs_natural port "u16").field_unread hnew hws hws' ht p rest hrest

/-- An object is read as the feed that it is written for. -/
theorem readsAs_object {v : Json.Value} (port : f.port < portBound) (h : f.IsObject v) :
    ReadsAs (Json.record reader) v f := by
  obtain ⟨order, hperm, rfl⟩ := h
  have once : ([] ++ order).Nodup := hperm.nodup_iff.2 (by decide)
  have read : ReadsMembers IsTextFor member (.of f []) _ (.of f ([] ++ order)) :=
    Json.readsMembers_map (FeedDraft.of f) (fun _ _ hnew => readsBehind_member port hnew) once
  refine ReadsAs.record read (FeedDraft.finish_of fun m => ?_)
  rw [List.nil_append, hperm.mem_iff]
  cases m <;> decide

/-- What is read as a feed is a value. -/
theorem readsValues_reader (depth : Nat) : ReadsValues (Json.record reader) (depth + 1) := by
  have string := (Json.readsShape_anyText depth).readsValues
  have port : ReadsValues portReader depth := Json.readsValues_natural portBound "u16" depth
  refine ReadsValues.record (fun name d => ?_) ?_
  · show PassesValue (member name d) depth
    intro c d' c' hread
    unfold member at hread
    split at hread
    · cases hread
    · exact string.field _ _ _ hread
    · exact port.field _ _ _ hread
  · intro c d c₁ c' hread hclose
    obtain ⟨⟨host, c₂⟩, hhost, hread⟩ := Json.bind_eq_ok_iff.1 hread
    obtain ⟨⟨_, c₃⟩, hport, heq⟩ := Json.bind_eq_ok_iff.1 hread
    cases heq
    obtain ⟨steps, hsteps⟩ : ∃ steps, c.rest.length = steps + 1 :=
      Nat.exists_eq_add_one.2 (List.length_pos_of_ne_nil (Json.rest_ne_nil_of_nextField hhost))
    obtain ⟨vs, hport⟩ :=
      Json.exists_items_of_nextField port hport (Json.items_of_closeList hclose steps)
    obtain ⟨vs', hhost⟩ := Json.exists_items_of_nextField string hhost hport
    exact ⟨vs', by rw [Json.Cursor.steps, hsteps]; exact hhost⟩

end FeedConfig

/-! ## Members of a configuration -/

/-- The values that are written for a member of a configuration. -/
def ConfigMember.IsValue (c : ClientConfig) : ConfigMember → Json.Value → Prop
  | .url => fun v => v = .string c.url
  | .scope => fun v => v = .string c.scope
  | .relation => fun v => v = .string c.relation
  | .batchInserts => fun v => v = .number (.whole c.batchInserts)
  | .batchUpdates => fun v => v = .number (.whole c.batchUpdates)
  | .upsert => fun v => v = .bool c.upsert
  | .feed => fun v =>
    match c.feed with
    | none => v = .null
    | some f => f.IsObject v
  | .printStatements => fun v => v = .bool c.printStatements

namespace ClientConfig

variable {c : ClientConfig}

theorem readsAs_feed {v : Json.Value} (range : c.InRange) (h : ConfigMember.feed.IsValue c v) :
    ReadsAs feedReader v c.feed := by
  cases hfeed : c.feed with
  | none =>
      simp only [ConfigMember.IsValue, hfeed] at h
      rw [h]
      exact Json.readsAs_null _
  | some f =>
      simp only [ConfigMember.IsValue, hfeed] at h
      have hread := FeedConfig.readsAs_object (range.port f hfeed) h
      obtain ⟨order, -, rfl⟩ := h
      exact hread.optional nofun

/-- A member is read into the draft, whichever of its names is used. -/
theorem readsBehind_member {read : List ConfigMember} {m : ConfigMember} {n : String}
    {v : Json.Value} (range : c.InRange) (hname : n ∈ m.names) (hnew : m ∉ read)
    (h : m.IsValue c v) :
    ReadsBehind IsTextFor (member n (.of c read)) v (.of c (read ++ [m])) := by
  intro ws ws' t hws hws' ht p rest hrest
  rw [← ConfigDraft.put_of]
  simp only [member, ConfigMember.ofName_of_mem hname]
  -- every member has a reader and a place of its own
  cases m with
  | url | scope | relation =>
      cases h
      exact (Json.readsAs_anyText _).field_unread hnew hws hws' ht p rest hrest
  | batchInserts =>
      cases h
      exact (Json.readsAs_natural range.inserts "u64").field_unread hnew hws hws' ht p rest hrest
  | batchUpdates =>
      cases h
      exact (Json.readsAs_natural range.updates "u64").field_unread hnew hws hws' ht p rest hrest
  | upsert | printStatements =>
      cases h
      exact (Json.readsAs_flag _).field_unread hnew hws hws' ht p rest hrest
  | feed => exact (readsAs_feed range h).field_unread hnew hws hws' ht p rest hrest

/-- An object is read as the configuration that its members are written for. -/
theorem readsAs_object {called : ConfigMember → String} {told : ConfigMember → Json.Value}
    {given : List ConfigMember} (range : c.InRange) (hnames : ∀ m, called m ∈ m.names)
    (htold : ∀ m : ConfigMember, m.IsValue c (told m)) (once : given.Nodup)
    (usual : ∀ m, m ∉ given → m.IsUsual c) :
    ReadsAs (Json.record reader) (.object (given.map fun m => (called m, told m))) c := by
  have read : ReadsMembers IsTextFor member (.of c []) _ (.of c ([] ++ given)) :=
    Json.readsMembers_map (ConfigDraft.of c)
      (fun _ m hnew => readsBehind_member range (hnames m) hnew (htold m)) once
  refine ReadsAs.record read ?_
  show Except.ok (ConfigDraft.finish _) = _
  rw [List.nil_append, ConfigDraft.finish_of usual]

end ClientConfig

/-! ## The object of a configuration -/

/-- The value of a member, as it is written. -/
def ConfigMember.toJson (c : ClientConfig) : ConfigMember → Json.Value
  | .url => .string c.url
  | .scope => .string c.scope
  | .relation => .string c.relation
  | .batchInserts => .number (.whole c.batchInserts)
  | .batchUpdates => .number (.whole c.batchUpdates)
  | .upsert => .bool c.upsert
  | .feed => (c.feed.map FeedConfig.toJson).getD .null
  | .printStatements => .bool c.printStatements

theorem ConfigMember.isValue_toJson (c : ClientConfig) (m : ConfigMember) :
    m.IsValue c (m.toJson c) := by
  cases m with
  | feed =>
      cases hfeed : c.feed with
      | none => simp [IsValue, toJson, hfeed]
      | some f => simpa [IsValue, toJson, hfeed] using f.isObject_toJson
  | url | scope | relation | batchInserts | batchUpdates | upsert | printStatements => rfl

namespace ClientConfig

variable {c : ClientConfig}

/-- The members that are written: all of them, but no feed where there is none. -/
def written (c : ClientConfig) : List ConfigMember :=
  ConfigMember.all.filter fun m => m ≠ .feed ∨ c.feed.isSome

theorem toJson_eq (c : ClientConfig) :
    c.toJson = .object (c.written.map fun m => (m.name, m.toJson c)) := by
  obtain ⟨_, _, _, _, _, _, _ | f, _⟩ := c <;> rfl

/-- A configuration is read from the value that is written for it. -/
theorem readsAs_toJson (range : c.InRange) : ReadsAs (Json.record reader) c.toJson c := by
  have once : c.written.Nodup := List.Nodup.filter _ (by decide)
  have usual (m : ConfigMember) (hm : m ∉ c.written) : m.IsUsual c := by
    have hall : m ∈ ConfigMember.all := by cases m <;> decide
    have hnot : ¬ (m ≠ .feed ∨ c.feed.isSome) := by simpa [written, hall] using hm
    obtain ⟨rfl, hnone⟩ : m = .feed ∧ c.feed = none := by simpa using hnot
    exact hnone
  rw [toJson_eq]
  exact readsAs_object range ConfigMember.name_mem_names (ConfigMember.isValue_toJson c) once usual

/-- What is written for a configuration nests twice. -/
theorem nests_toJson (range : c.InRange) : Json.Nests 2 c.toJson := by
  have member (m : ConfigMember) : Json.Nests 1 (m.toJson c) := by
    cases m with
    | url | scope | relation => exact .inl (.string _)
    | batchInserts => exact .inl (.natural range.inserts)
    | batchUpdates => exact .inl (.natural range.updates)
    | upsert | printStatements => exact .inl (.bool _)
    | feed =>
        cases hfeed : c.feed with
        | none =>
            rw [ConfigMember.toJson, hfeed]
            exact .inl .null
        | some f =>
            rw [ConfigMember.toJson, hfeed]
            refine .inr (.inr ⟨_, rfl, ?_⟩)
            have port : f.port < Json.wholeBound :=
              Nat.lt_of_lt_of_le (range.port f hfeed) (by decide)
            simpa using ⟨Json.IsExact.string f.host, Json.IsExact.natural port⟩
  rw [toJson_eq]
  refine .inr (.inr ⟨_, rfl, fun m hm => ?_⟩)
  obtain ⟨m, -, rfl⟩ := List.mem_map.1 hm
  exact member m

/-! ## Names in objects that are read -/

/-- What is read for a member is a value. -/
theorem passesValue_member (depth : Nat) (n : String) (d : ConfigDraft) :
    PassesValue (member n d) (depth + 1) := by
  have string := (Json.readsShape_anyText (depth + 1)).readsValues
  have flag := (Json.readsShape_flag (depth + 1)).readsValues
  have size : ReadsValues batchSize (depth + 1) :=
    Json.readsValues_natural batchBound "u64" (depth + 1)
  have feed : ReadsValues feedReader (depth + 1) := (FeedConfig.readsValues_reader depth).optional
  intro c d' c' hread
  unfold member at hread
  split at hread
  · cases hread
  · rename_i m hm
    cases m with
    | url | scope | relation => exact string.field _ _ _ hread
    | batchInserts | batchUpdates => exact size.field _ _ _ hread
    | upsert | printStatements => exact flag.field _ _ _ hread
    | feed => exact feed.field _ _ _ hread

/-- A member is read under a name of its own, and once. -/
theorem exists_of_member {n : String} {d d' : ConfigDraft} {c c' : Json.Cursor}
    (h : member n d c = .ok (d', c')) :
    ∃ m : ConfigMember, n ∈ m.names ∧ d.has m = false ∧
      ∀ other, d'.has other = (decide (other = m) || d.has other) := by
  unfold member at h
  split at h
  · cases h
  rename_i m hm
  refine ⟨m, ConfigMember.mem_names_of_ofName hm, ?_⟩
  cases m with
  | url | scope | relation | batchInserts | batchUpdates | upsert | feed | printStatements =>
      obtain ⟨hnone, _, _, _, _, rfl⟩ := Json.field_eq_ok h
      refine ⟨by simp [ConfigDraft.has, hnone], fun other => ?_⟩
      cases other <;> simp [ConfigDraft.has]

/-- Members that are passed one by one have names that are known, and no two name the same
member. -/
theorem names_of_passes {d : ConfigDraft} {names : List String} (h : Json.Passes member d names) :
    (∀ n ∈ names, ∃ m : ConfigMember, n ∈ m.names) ∧
      ∀ m : ConfigMember, names.countP (· ∈ m.names) + (d.has m).toNat ≤ 1 := by
  induction h with
  | nil => exact ⟨by simp, fun m => by simpa using Bool.toNat_le _⟩
  | cons hread _ ih =>
      obtain ⟨m₀, hname, hnew, hhas⟩ := exists_of_member hread
      obtain ⟨hknown, honce⟩ := ih
      refine ⟨fun n hn => ?_, fun m => ?_⟩
      · rcases List.mem_cons.1 hn with rfl | hn
        · exact ⟨m₀, hname⟩
        · exact hknown n hn
      · have hm := honce m
        rw [hhas] at hm
        rw [List.countP_cons]
        by_cases heq : m = m₀
        · subst heq
          simp only [decide_true, Bool.true_or, Bool.toNat_true] at hm
          simp only [hname, hnew, decide_true, if_true, Bool.toNat_false]
          omega
        · have hother : _ ∉ m.names := fun h => heq (ConfigMember.eq_of_mem_names h hname)
          simpa [heq, hother] using hm

/-- The names in a document that is read are known, and no two name the same member. -/
theorem names_of_ofJson {s : String} {ms : List (String × Json.Value)}
    (hs : Json.IsDocument s (.object ms)) (h : ofJson s = .ok c) :
    (∀ n ∈ ms.map Prod.fst, ∃ m : ConfigMember, n ∈ m.names) ∧
      ∀ m : ConfigMember, (ms.map Prod.fst).countP (· ∈ m.names) ≤ 1 := by
  have passed : Json.Passes member {} (ms.map Prod.fst) :=
    Json.passes_of_readAll passesValue_member hs h
  obtain ⟨hknown, honce⟩ := names_of_passes passed
  exact ⟨hknown, fun m => Nat.le_trans (Nat.le_add_right ..) (honce m)⟩

end ClientConfig

end SqlppBench
