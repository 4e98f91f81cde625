import SqlppBench.Proofs.Config.Objects
import SqlppBench.Schema
import SqlppBench.Summary

/-! # JSON forms

Configurations, summaries and schemas are read back from whatever is written for their JSON forms
(`json_forms_are_read_back`).
-/

namespace SqlppBench

open Json (IsTextFor ReadsAs ReadsBehind ReadsMembers)

/-! ## Summaries -/

/-- All counters of an operation are numbers that the reader accepts. -/
structure OperationCounts.InRange (c : OperationCounts) : Prop where
  ok : c.ok < Nat.pow 2 64
  batched : c.batched < Nat.pow 2 64
  error : c.error < Nat.pow 2 64

namespace OperationTable

/-- The entries of some operations, put into a table. -/
theorem counts?_foldl_set (t u : OperationTable) (os : List Operation) (o : Operation) :
    ((os.filterMap fun o => (t.counts? o).map fun c => (o, c)).foldl
      (fun u e => u.set e.1 e.2) u).counts? o =
      if o ∈ os then (t.counts? o).or (u.counts? o) else u.counts? o := by
  induction os generalizing u with
  | nil => rfl
  | cons first os ih =>
      cases hfirst : t.counts? first with
      | none =>
          rw [List.filterMap_cons_none (by rw [hfirst]; rfl), ih]
          by_cases heq : o = first
          · subst heq
            simp [hfirst]
          · simp [heq]
      | some c =>
          rw [List.filterMap_cons_some (by rw [hfirst]; rfl), List.foldl_cons, ih]
          by_cases heq : o = first
          · subst heq
            simp [hfirst, set]
          · simp [heq, set]

/-- A table is made of the entries that it lists. -/
theorem ofList_toList (t : OperationTable) : ofList t.toList = t := by
  have same (o : Operation) : (ofList t.toList).counts? o = t.counts? o := by
    have hcounts := counts?_foldl_set t empty Operation.all o
    rw [if_pos (Operation.mem_all o)] at hcounts
    simpa [empty, ofList, toList] using hcounts
  obtain ⟨counts⟩ := t
  exact congrArg OperationTable.mk (funext same)

end OperationTable

namespace RunSummary

/-- All numbers of a summary are numbers that its readers accept. -/
structure InRange (s : RunSummary) : Prop where
  clients : s.clients < Nat.pow 2 32
  elapsedMs : s.elapsedMs < Nat.pow 2 64
  counts : ∀ o c, s.operations.counts? o = some c → c.InRange

theorem readsAs_counts {c : OperationCounts} (range : c.InRange) :
    ReadsAs (Json.record countsReader) (countsJson c) c := by
  have number {n : Nat} (h : n < Nat.pow 2 64) : ReadsAs counter (natJson n) n :=
    Json.readsAs_natural h "u64"
  have ok := (number range.ok).field "ok" fun n => CountsDraft.mk n none none
  have batched := (number range.batched).field "batched" fun n => CountsDraft.mk c.ok n none
  have error := (number range.error).field "error" fun n => CountsDraft.mk c.ok c.batched n
  exact ReadsAs.record (.cons ok (.cons batched (.cons error .nil))) rfl

/-- The reader of the member of a table. -/
def tableMember (name : String) (t : OperationTable) (c : Json.Cursor) :
    Json.Result OperationTable :=
  match Members.get? name Operation.named with
  | none => c.fail (.mismatch (.unknownVariant name (Operation.named.map Prod.fst)))
  | some o =>
    match Json.colon c with
    | .error e => .error e
    | .ok c =>
      match Json.record countsReader c with
      | .error e => .error e
      | .ok (counts, c) => .ok (t.set o counts, c)

/-- The name of an operation is a string. -/
theorem reader_of_quote (s : List Char) (p : Json.Position) :
    Operation.reader ⟨'"' :: s, p⟩ =
      (Json.string ((⟨'"' :: s, p⟩ : Json.Cursor).skip 1)).bind fun (name, c) =>
        match Members.get? name Operation.named with
        | some o => .ok (o, c)
        | none => c.fail (.mismatch (.unknownVariant name (Operation.named.map Prod.fst))) := by
  simp only [Operation.reader, Json.variant, Json.variantName, Json.text,
    Json.skipSpaces_cons (c := '"') (by decide)]
  rcases Json.string ((⟨'"' :: s, p⟩ : Json.Cursor).skip 1) with e | ⟨name, c⟩
  · rfl
  · dsimp only [bind, Except.bind]
    cases Members.get? name Operation.named <;> rfl

/-- Entries are members whose names are those of operations. -/
theorem entries_eq_members (first : Bool) (t : OperationTable) (c : Json.Cursor) (steps : Nat) :
    tableReader.entries first t c steps = Json.members tableMember first t c steps := by
  induction steps generalizing first t c with
  | zero => rfl
  | succ steps ih =>
      rw [tableReader.entries, Json.members]
      rcases hnext : Json.nextMember first c with e | _ | ⟨rest, p⟩
      · rfl
      · rfl
      obtain ⟨-, u, -, rfl, -⟩ := Json.exists_of_nextMember hnext
      dsimp only
      rw [reader_of_quote]
      rcases Json.string ((⟨'"' :: u, p⟩ : Json.Cursor).skip 1) with e | ⟨name, c₁⟩
      · rfl
      dsimp only [Except.bind, tableMember]
      rcases Members.get? name Operation.named with _ | o
      · rfl
      dsimp only
      rcases Json.colon c₁ with e | c₂
      · rfl
      dsimp only
      rcases Json.record countsReader c₂ with e | ⟨counts, c₃⟩
      · rfl
      exact ih false (t.set o counts) c₃

theorem get?_named (o : Operation) : Members.get? o.name Operation.named = some o := by
  cases o <;> decide

/-- The counts of an operation are read into the table. -/
theorem readsBehind_tableMember (o : Operation) {c : OperationCounts} (range : c.InRange)
    (t : OperationTable) :
    ReadsBehind IsTextFor (tableMember o.name t) (countsJson c) (t.set o c) := by
  intro ws ws' u hws hws' hu p rest hrest
  obtain ⟨p₁, hcolon⟩ := Json.colon_append hws (ws' ++ u ++ rest) p
  obtain ⟨p₂, hread⟩ := readsAs_counts range hws' hu p₁ rest hrest
  refine ⟨p₂, ?_⟩
  rw [List.append_assoc, List.cons_append]
  simp only [tableMember, get?_named, hcolon, hread]

/-- A table is read from its entries. -/
theorem readsAs_table {entries : List (Operation × OperationCounts)}
    (range : ∀ o c, (o, c) ∈ entries → c.InRange) :
    ReadsAs tableReader (.object (entries.map fun (o, c) => (o.name, countsJson c)))
      (OperationTable.ofList entries) := by
  have members (t : OperationTable) : ReadsMembers IsTextFor tableMember t
      (entries.map fun (o, c) => (o.name, countsJson c))
      (entries.foldl (fun t (o, c) => t.set o c) t) := by
    induction entries generalizing t with
    | nil => exact .nil
    | cons entry entries ih =>
        obtain ⟨o, c⟩ := entry
        exact .cons (readsBehind_tableMember o (range o c List.mem_cons_self) t)
          (ih (fun o c hmem => range o c (List.mem_cons_of_mem _ hmem)) _)
  refine ReadsAs.of_members (members .empty) fun c s c' hrest hread => ?_
  rw [tableReader]
  simp only [hrest, entries_eq_members]
  exact hread

theorem inRange_of_mem_toList {s : RunSummary} (range : s.InRange) {o : Operation}
    {c : OperationCounts} (h : (o, c) ∈ s.operations.toList) : c.InRange := by
  obtain ⟨o', -, hentry⟩ := List.mem_filterMap.1 h
  obtain ⟨c', hcounts, heq⟩ := Option.map_eq_some_iff.1 hentry
  cases heq
  exact range.counts _ _ hcounts

/-- A summary is read from the value that is written for it. -/
theorem readsAs_toJson {s : RunSummary} (range : s.InRange) :
    ReadsAs (Json.record reader) s.toJson s := by
  have clients := (Json.readsAs_natural range.clients "u32").field "clients"
    fun n => Draft.mk n none none
  have elapsed := (Json.readsAs_natural range.elapsedMs "u64").field "elapsed_ms"
    fun n => Draft.mk s.clients n none
  have operations :=
    (readsAs_table fun _ _ hmem => inRange_of_mem_toList range hmem).field "operations"
    fun t => Draft.mk s.clients s.elapsedMs t
  rw [OperationTable.ofList_toList] at operations
  exact ReadsAs.record (.cons clients (.cons elapsed (.cons operations .nil))) rfl

/-- What is written for a summary nests three times. -/
theorem nests_toJson {s : RunSummary} (range : s.InRange) : Json.Nests 3 s.toJson := by
  have number {n : Nat} (h : n < Json.wholeBound) : Json.IsExact (natJson n) := .natural h
  have counts {c : OperationCounts} (h : c.InRange) : Json.Nests 1 (countsJson c) := by
    refine .inr (.inr ⟨_, rfl, ?_⟩)
    simpa [Json.Nests] using ⟨number h.ok, number h.batched, number h.error⟩
  have table : Json.Nests 2
      (.object (s.operations.toList.map fun (o, c) => (o.name, countsJson c))) := by
    refine .inr (.inr ⟨_, rfl, fun m hm => ?_⟩)
    obtain ⟨⟨o, c⟩, hmem, rfl⟩ := List.mem_map.1 hm
    exact counts (inRange_of_mem_toList range hmem)
  have clients := number (Nat.lt_of_lt_of_le range.clients (by decide))
  refine .inr (.inr ⟨_, rfl, fun m hm => ?_⟩)
  simp only [List.mem_cons, List.not_mem_nil, or_false] at hm
  rcases hm with rfl | rfl | rfl
  · exact .inl clients
  · exact .inl (number range.elapsedMs)
  · exact table

end RunSummary

/-! ## Schemas -/

/-- A schema is read from the value that is written for it. -/
theorem TableSchema.readsAs_toJson (schema : TableSchema) :
    ReadsAs (Json.record reader) schema.toJson schema := by
  have key := (Json.readsAs_anyText schema.primaryKey).field "primary_key" fun s => Draft.mk s none
  have names : ReadsAs (Json.list Json.anyText) (.array (schema.fields.map .string))
      schema.fields :=
    ReadsAs.list (List.forall₂_map_left_iff.2
      (List.forall₂_same.2 fun s _ => Json.readsAs_anyText s))
  have fields := names.field "fields" fun ss => Draft.mk schema.primaryKey ss
  exact ReadsAs.record (.cons key (.cons fields .nil)) rfl

/-- What is written for a schema nests twice. -/
theorem TableSchema.nests_toJson (schema : TableSchema) : Json.Nests 2 schema.toJson := by
  have names : Json.Nests 1 (.array (schema.fields.map .string)) := by
    refine .inr (.inl ⟨_, rfl, fun v hv => ?_⟩)
    obtain ⟨s, -, rfl⟩ := List.mem_map.1 hv
    exact .string s
  refine .inr (.inr ⟨_, rfl, fun m hm => ?_⟩)
  simp only [List.mem_cons, List.not_mem_nil, or_false] at hm
  rcases hm with rfl | rfl
  · exact .inl (.string _)
  · exact names

/-! ## All forms -/

/-- A value is read back as this, in both layouts and in any other text that is written for it. -/
structure IsReadBack {α : Type} (ofJson : String → Except Json.Error α) (v : Json.Value) (a : α) :
    Prop where
  compact : ofJson v.compact = .ok a
  pretty : ofJson v.pretty = .ok a
  written : ∀ s, Json.IsDocument s v → ofJson s = .ok a

theorem isReadBack_of_readsAs {α : Type} {reader : Json.Cursor → Json.Result α} {v : Json.Value}
    {a : α} {depth : Nat} (h : ReadsAs reader v a) (nests : Json.Nests depth v) :
    IsReadBack (Json.readAll reader) v a where
  compact := h.readAll (Json.isDocument_compact nests)
  pretty := h.readAll (Json.isDocument_pretty nests)
  written _ hs := h.readAll hs

/-- Configurations, summaries and schemas are read back from their JSON forms, if their numbers are
in range. A configuration is also read from its members in any order, under any of their names and
without those that are as usual. No member of another name is accepted, and no two that name the
same. -/
theorem json_forms_are_read_back :
    (∀ c : ClientConfig, c.InRange →
      IsReadBack ClientConfig.ofJson c.toJson c ∧
      ∀ (called : ConfigMember → String) (told : ConfigMember → Json.Value)
        (given : List ConfigMember),
        (∀ m : ConfigMember, called m ∈ m.names ∧ m.IsValue c (told m)) → given.Nodup →
        (∀ m : ConfigMember, m ∉ given → m.IsUsual c) → ∀ s,
          Json.IsDocument s (.object (given.map fun m => (called m, told m))) →
          ClientConfig.ofJson s = .ok c) ∧
    (∀ s ms, Json.IsDocument s (.object ms) →
      ((∃ n ∈ ms.map Prod.fst, ∀ m : ConfigMember, n ∉ m.names) ∨
        ∃ m : ConfigMember, 1 < (ms.map Prod.fst).countP (· ∈ m.names)) →
      ∃ e, ClientConfig.ofJson s = .error e) ∧
    (∀ s : RunSummary, s.InRange → IsReadBack RunSummary.ofJson s.toJson s) ∧
    ∀ schema : TableSchema, IsReadBack TableSchema.ofJson schema.toJson schema := by
  refine ⟨fun c range => ⟨?_, ?_⟩, fun s ms hs hnames => ?_, fun s range => ?_, fun schema => ?_⟩
  · exact isReadBack_of_readsAs (ClientConfig.readsAs_toJson range)
      (ClientConfig.nests_toJson range)
  · intro called told given hmembers once usual s hs
    have read := ClientConfig.readsAs_object range (fun m => (hmembers m).1)
      (fun m => (hmembers m).2) once usual
    exact read.readAll hs
  · cases hread : ClientConfig.ofJson s with
    | error e => exact ⟨e, rfl⟩
    | ok c =>
        obtain ⟨hknown, honce⟩ := ClientConfig.names_of_ofJson hs hread
        rcases hnames with ⟨n, hn, hunknown⟩ | ⟨m, htwice⟩
        · obtain ⟨m, hm⟩ := hknown n hn
          exact absurd hm (hunknown m)
        · exact absurd (honce m) (Nat.not_le.2 htwice)
  · exact isReadBack_of_readsAs (RunSummary.readsAs_toJson range) (RunSummary.nests_toJson range)
  · exact isReadBack_of_readsAs schema.readsAs_toJson schema.nests_toJson

/-- Members under other names and in another order, a member under two names, and forms in both
layouts. -/
theorem members_under_other_names :
    let c : ClientConfig :=
      { scope := "a\"b", batchInserts := 18446744073709551615, feed := some ⟨"feed", 10001⟩ }
    let others : Json.Value := .object
      [("feed", .object [("port", .number (.whole 10001)), ("host", .string "feed")]),
        ("dataverse", .string "a\"b"), ("batch_inserts", .number (.whole 18446744073709551615))]
    let summary : RunSummary :=
      { clients := 2, operations := OperationTable.empty.set .scan ⟨3, 0, 1⟩ }
    let schema : TableSchema := ⟨"id", ["name", "\n"]⟩
    ClientConfig.ofJson c.toJson.compact = .ok c ∧ ClientConfig.ofJson others.pretty = .ok c ∧
    (∃ e, ClientConfig.ofJson "\x7b\"scope\":\"a\",\"dataverse\":\"a\"\x7d" = .error e) ∧
    RunSummary.ofJson summary.toJson.compact = .ok summary ∧
    TableSchema.ofJson schema.toJson.pretty = .ok schema := by
  intro c others summary schema
  obtain ⟨configs, twice, summaries, schemas⟩ := json_forms_are_read_back
  have range : c.InRange := by
    refine ⟨by decide, by decide, ?_⟩
    rintro f ⟨⟩
    decide
  have counts (o : Operation) (d : OperationCounts) (h : summary.operations.counts? o = some d) :
      d.InRange := by
    have hscan : d = ⟨3, 0, 1⟩ := by
      cases o <;> simp [summary, OperationTable.set, OperationTable.empty] at h
      exact h.symm
    rw [hscan]
    exact ⟨by decide, by decide, by decide⟩
  obtain ⟨back, members⟩ := configs c range
  refine ⟨back.compact, ?_, ?_, (summaries summary ⟨by decide, by decide, counts⟩).compact,
    (schemas schema).pretty⟩
  · let told (m : ConfigMember) : Json.Value :=
      if m = .feed then .object [("port", .number (.whole 10001)), ("host", .string "feed")]
      else m.toJson c
    let called (m : ConfigMember) : String := if m = .scope then "dataverse" else m.name
    have hmembers (m : ConfigMember) : called m ∈ m.names ∧ m.IsValue c (told m) := by
      cases m with
      | feed => exact ⟨by decide, [.port, .host], by decide, rfl⟩
      | url | scope | relation | batchInserts | batchUpdates | upsert | printStatements =>
          exact ⟨by decide, rfl⟩
    have feed : Json.Nests 1 (told .feed) := by
      refine .inr (.inr ⟨_, rfl, ?_⟩)
      simpa using ⟨Json.IsExact.natural (n := 10001) (by decide), Json.IsExact.string "feed"⟩
    have nests : Json.Nests 2 others := by
      refine .inr (.inr ⟨_, rfl, ?_⟩)
      simpa using ⟨feed, .inl (.string _), .inl (.natural range.inserts)⟩
    refine members called told [.feed, .scope, .batchInserts] hmembers (by decide)
      (fun m hm => ?_) _ (Json.isDocument_pretty nests)
    cases m with
    | url | relation | batchUpdates | upsert | printStatements => rfl
    | scope | batchInserts | feed => exact absurd (by decide) hm
  · have nests : Json.Nests 1 (.object [("scope", .string "a"), ("dataverse", .string "a")]) := by
      refine .inr (.inr ⟨_, rfl, fun m hm => ?_⟩)
      simp only [List.mem_cons, List.not_mem_nil, or_false] at hm
      rcases hm with rfl | rfl <;> exact .string "a"
    exact twice _ _ (Json.isDocument_compact nests) (.inr ⟨.scope, by decide⟩)

end SqlppBench
