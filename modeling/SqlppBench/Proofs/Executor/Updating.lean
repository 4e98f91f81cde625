import SqlppBench.Proofs.Executor.Delivery
import SqlppBench.Proofs.Executor.Gathering
import SqlppBench.Proofs.Executor.Readiness
import SqlppBench.Proofs.Sqlpp.Store

/-! # What batched updates leave in a store

Updates with a flush behind them are sent in the batches of `batchesOf` (`sentSince_updating`). With
one update in a statement each of them is a partial update of its record. With more of them in a
statement this holds only as long as the last update of each record in a batch gives all the fields
that the updates before it give; otherwise an earlier update is undone.
-/

namespace SqlppBench.Executor

open Sqlpp

variable {e : Executor} {w : World}

/-- Updates with a flush behind them. -/
def updating (writes : List (String × FieldValues)) : List Action :=
  writes.map (fun write => .update write.1 write.2) ++ [.flush]

/-- The statement for a batch of updates. -/
def replacement (e : Executor) (batch : List (String × FieldValues)) : String :=
  e.target.upsertProjections (e.target.projections e.schema.fields batch)

/-- The store that updates with a flush behind them leave, if the service runs all that is sent. -/
def leftBy {V : Type} (binary : Bytes → V) (e : Executor) (w : World)
    (writes : List (String × FieldValues)) (store : Store V) : Option (Store V) :=
  store.runAll? binary e.target
    (sentSince w ((Dialogue.session perform e (updating writes)).run w).2)

theorem Continues.replacement {e' : Executor} (h : Continues e e') :
    e'.replacement = e.replacement := by
  funext batch
  rw [Executor.replacement, Executor.replacement, h.target, h.schema]

/-- Updates are sent in batches, all but those that still wait. -/
theorem leaves_updates (settled : e.Settled) (w : World)
    {waiting : List (String × FieldValues)}
    (hwaiting : e.updates = e.target.projections e.schema.fields waiting)
    (writes : List (String × FieldValues)) :
    let run := (Dialogue.session perform e
      (writes.map fun write => .update write.1 write.2)).run w
    let gathered := gather e.config.batchUpdates waiting writes
    Leaves e w (gathered.1.map e.replacement) e.inserts
      (e.target.projections e.schema.fields gathered.2) run.1.2 run.2 := by
  induction writes generalizing e w waiting with
  | nil =>
      rw [List.map_nil, Dialogue.run_session_nil, gather]
      dsimp only
      rw [← hwaiting]
      exact .refl settled.idle w
  | cons write writes ih =>
      have joined : e.updates ++ [e.projectionOf write.1 write.2] =
          e.target.projections e.schema.fields (waiting ++ [write]) := by
        rw [hwaiting]
        simp [Target.projections, Executor.projectionOf]
      have hlength : (e.updates ++ [e.projectionOf write.1 write.2]).length =
          (waiting ++ [write]).length := by
        rw [joined, Target.projections, List.length_map]
      rw [List.map_cons, Dialogue.run_session_cons]
      simp only [perform, run_replying]
      by_cases room : (e.updates ++ [e.projectionOf write.1 write.2]).length <
          max 1 e.config.batchUpdates
      · rw [run_update_of_room room, gather_of_room (hlength ▸ room)]
        have gathered : Executor.Settled
            { e with updates := e.updates ++ [e.projectionOf write.1 write.2] } :=
          ⟨settled.idle, settled.fits.inserts, room⟩
        exact (ih gathered w joined).of_buffers
      · rw [run_update_of_full settled.fits (Nat.le_of_not_lt room),
          gather_of_full (hlength ▸ Nat.le_of_not_lt room)]
        have left := leaves_flushUpdates
          (e := { e with updates := e.updates ++ [e.projectionOf write.1 write.2] }) settled.idle w
        rw [if_neg (by simp)] at left
        have left := left.of_buffers
        dsimp only at left ⊢
        generalize Dialogue.run _ w = flushed at left ⊢
        have nothing : flushed.1.2.updates =
            flushed.1.2.target.projections flushed.1.2.schema.fields [] := left.updates
        have sent := ih ⟨left.idle, left.fits settled.fits.inserts (length_nil_lt _)⟩
          flushed.2 nothing
        dsimp only at sent
        rw [left.inserts, left.config, left.continues.target, left.schema,
          left.continues.replacement] at sent
        exact (congrArg
          (fun updates => Leaves e w (e.target.upsertProjections updates :: _) _ _ _ _)
          joined).mp (left.trans sent)

/-- Updates with a flush behind them are sent in batches, and nothing else is sent. -/
theorem sentSince_updating {config : ClientConfig} (fresh : Fresh config e) (w : World)
    (writes : List (String × FieldValues)) :
    sentSince w ((Dialogue.session perform e (updating writes)).run w).2 =
      (batchesOf config.batchUpdates writes).map e.replacement := by
  obtain rfl := fresh.configured
  have none : e.updates = e.target.projections e.schema.fields [] := fresh.updates
  have left := leaves_updates fresh.settled w none writes
  rw [updating, Dialogue.run_session_append]
  dsimp only at left ⊢
  generalize Dialogue.run _ w = sent at left ⊢
  rw [Dialogue.run_session_singleton]
  simp only [perform, run_replying, run_flush]
  rw [run_flushInserts_of_nil (left.inserts.trans fresh.inserts)]
  have last := left.trans (leaves_flushUpdates left.idle sent.2)
  rw [last.sentSince, batchesOf, List.map_append, left.updates, left.continues.target]
  refine congrArg (_ ++ ·) ?_
  cases (gather e.config.batchUpdates [] writes).2 <;> rfl

/-- The key is no field of the schema. -/
theorem Fresh.primaryKey_not_mem {config : ClientConfig} (fresh : Fresh config e) :
    e.target.primaryKey ∉ e.schema.fields := by
  obtain ⟨key, fields, hschema⟩ := fresh.schema
  rw [target, hschema]
  exact TableSchema.primaryKey_not_mem_fields_ofCatalog key fields

variable {V : Type} {binary : Bytes → V} {config : ClientConfig}
  {writes : List (String × FieldValues)}

/-- Updates that are not undone within their batches are partial updates. -/
theorem leftBy_of_lastGivesAll (fresh : Fresh config e) (proper : e.target.IsProper)
    (words : ∀ field ∈ e.schema.fields, IsWord field)
    (given : ∀ batch ∈ batchesOf config.batchUpdates writes, LastGivesAll e.schema.fields batch)
    (w : World) (store : Store V) :
    leftBy binary e w writes store =
      some (store.patchAll binary e.target e.schema.fields writes) := by
  rw [leftBy, sentSince_updating fresh]
  refine (Store.runAll?_of_lastGivesAll proper words fresh.primaryKey_not_mem
    (fun batch => ne_nil_of_mem_batchesOf) given store).trans ?_
  rw [flatten_batchesOf]

/-- With one update in a statement, updates are partial updates. -/
theorem leftBy_of_single (fresh : Fresh config e) (single : config.batchUpdates = 1)
    (proper : e.target.IsProper) (words : ∀ field ∈ e.schema.fields, IsWord field)
    (writes : List (String × FieldValues)) (w : World) (store : Store V) :
    leftBy binary e w writes store =
      some (store.patchAll binary e.target e.schema.fields writes) := by
  refine leftBy_of_lastGivesAll fresh proper words (fun batch hbatch => ?_) w store
  have hle := length_le_of_mem_batchesOf hbatch
  have hpos := List.length_pos_iff.2 (ne_nil_of_mem_batchesOf hbatch)
  rw [single] at hle
  obtain ⟨write, rfl⟩ := List.length_eq_one_iff.1 (Nat.le_antisymm hle hpos)
  exact lastGivesAll_singleton _ write

/-- Updates for which there is room in one batch are one upsert. -/
theorem leftBy_of_le (fresh : Fresh config e) (proper : e.target.IsProper)
    (words : ∀ field ∈ e.schema.fields, IsWord field)
    (room : writes.length ≤ config.batchUpdates) (w : World) (store : Store V) :
    leftBy binary e w writes store =
      some (store.upsert binary (writes.map (e.target.projectionOf e.schema.fields))) := by
  rw [leftBy, sentSince_updating fresh]
  by_cases hne : writes = []
  · rw [hne]
    rfl
  · rw [batchesOf_of_le hne (by omega), List.map_singleton, Store.runAll?, List.foldlM_cons,
      replacement, Store.run?_upsertProjections proper words _ hne]
    rfl

/-- Batches do not change the effect of updates as long as the last update of each record in a batch
gives all the fields that the updates before it in the batch give. With one update in a statement,
the updates with a flush behind them leave every store as partial updates do, one after the other:
fields that an update does not give keep what they had after the updates before it. With more of
them in a statement they leave every store as they do then, if all batches are such; and if there is
one batch, then only if it is. -/
theorem batched_updates_leave_the_same_store [Url.Idna] {w₀ w₀' w' : World} {e₁ : Executor}
    (connected : (connect config).run w₀ = (.ok e, w))
    (connected₁ : (connect { config with batchUpdates := 1 }).run w₀' = (.ok e₁, w'))
    (same : e₁.schema = e.schema) (proper : e.target.IsProper)
    (words : ∀ field ∈ e.schema.fields, IsWord field) (binary : Bytes → V)
    (writes : List (String × FieldValues)) :
    (∀ store, leftBy binary e₁ w' writes store =
        some (store.patchAll binary e.target e.schema.fields writes)) ∧
      ((∀ batch ∈ batchesOf config.batchUpdates writes, LastGivesAll e.schema.fields batch) →
        ∀ store, leftBy binary e w writes store = leftBy binary e₁ w' writes store) ∧
      (writes.length ≤ config.batchUpdates →
        ((∀ store, leftBy binary e w writes store = leftBy binary e₁ w' writes store) ↔
          LastGivesAll e.schema.fields writes)) := by
  have fresh := fresh_of_connect connected
  have fresh₁ := fresh_of_connect connected₁
  have htarget : e₁.target = e.target := by
    rw [target, target, fresh.configured, fresh₁.configured, same]
  have single (store : Store V) : leftBy binary e₁ w' writes store =
      some (store.patchAll binary e.target e.schema.fields writes) := by
    rw [← htarget, ← same]
    refine leftBy_of_single fresh₁ rfl ?_ ?_ writes w' store
    · rwa [htarget]
    · rwa [same]
  refine ⟨single, fun given store => ?_, fun room => ?_⟩
  · rw [single, leftBy_of_lastGivesAll fresh proper words given]
  · simp only [single]
    rw [← Store.upsert_eq_patchAll_iff binary fresh.primaryKey_not_mem]
    refine forall_congr' fun store => ?_
    rw [leftBy_of_le fresh proper words room, Option.some_inj]

/-- Two updates of one record share a statement, and neither is undone. -/
theorem repeated_update_leaves_the_same_store :
    ∃ e w e₁ w', (connect { url := "http://[::1]", batchUpdates := 2 }).run
        (.scripted (catalogAnswers ++ [])) = (.ok e, w) ∧
      (connect { url := "http://[::1]", batchUpdates := 1 }).run
        (.scripted (catalogAnswers ++ [])) = (.ok e₁, w') ∧
      let writes :=
        [("k", FieldValues.empty.insert "f" [1]), ("k", FieldValues.empty.insert "f" [2])]
      ∀ store : Store Bytes, leftBy id e w writes store = leftBy id e₁ w' writes store := by
  obtain ⟨e, w, connected, schema, -⟩ := @connect_of_catalogAnswers _
    { url := "http://[::1]", batchUpdates := 2 } rfl (by decide +kernel) rfl []
  obtain ⟨e₁, w', connected₁, schema₁, -⟩ := @connect_of_catalogAnswers _
    { url := "http://[::1]", batchUpdates := 1 } rfl (by decide +kernel) rfl []
  have htarget : e.target = ⟨"ycsb", "usertable", "id"⟩ := by
    rw [target, (fresh_of_connect connected).configured, schema]
  refine ⟨e, w, e₁, w', connected, connected₁, ?_⟩
  refine ((batched_updates_leave_the_same_store connected connected₁ (schema₁.trans schema.symm)
    ?_ ?_ id _).2.2 (by decide)).2 ?_
  · rw [htarget]
    exact ⟨by decide, by decide, by decide +kernel⟩
  · rw [schema]
    decide +kernel
  · rw [schema]
    decide +kernel

/-- What a catalog says about a relation with the fields `a` and `b`. -/
def twoFields : Http.Answer :=
  .response 200 ⟨Utf8.encode ("\"results\": [ [\x7b\"FieldName\":\"a\"\x7d," ++
    "\x7b\"FieldName\":\"b\"\x7d]\n]\n"), none⟩

theorem fieldsOf_twoFields (name : Catalog.RelationName) :
    (Connector.recordsOf twoFields).bind (Catalog.fieldsOfRecords name) =
      .ok [⟨"a", ""⟩, ⟨"b", ""⟩] := by
  have hrecords : Connector.recordsOf twoFields =
      .ok ["[\x7b\"FieldName\":\"a\"\x7d,\x7b\"FieldName\":\"b\"\x7d]"] :=
    Json.eq_ok_of_toOption (by decide +kernel)
  have hitems : Catalog.itemsOf (Json.record FieldInfo.reader) "field list"
      ["[\x7b\"FieldName\":\"a\"\x7d,\x7b\"FieldName\":\"b\"\x7d]"] =
        .ok [⟨"a", ""⟩, ⟨"b", ""⟩] :=
    Json.eq_ok_of_toOption (by decide +kernel)
  rw [hrecords, Except.bind, Catalog.fieldsOfRecords, hitems]

theorem connect_of_twoFields [Url.Idna] {config : ClientConfig} (hfeed : config.feed = none)
    (hurl : (Endpoint.parse config.url).isOk = true)
    (named : (relationName config).check = .ok ()) :
    ∃ e w, (connect config).run (.scripted [catalogAnswers[0], twoFields]) = (.ok e, w) ∧
      e.schema = ⟨"id", ["a", "b"]⟩ := by
  obtain ⟨endpoint, hurl⟩ := exists_eq_ok hurl
  obtain ⟨e, w, hrun, hschema, -⟩ := @connect_of_catalog _ config endpoint
    (.scripted [catalogAnswers[0], twoFields]) _ _ hfeed hurl named
    (keyOf_catalogAnswers (relationName config)) (fieldsOf_twoFields (relationName config))
  exact ⟨e, w, hrun, hschema⟩

/-- Two updates of one record that give different fields: in one statement, the second undoes the
first, whose field has its old value again. -/
theorem second_update_undoes_the_first :
    ∃ e w e₁ w', (connect { url := "http://[::1]", batchUpdates := 2 }).run
        (.scripted [catalogAnswers[0], twoFields]) = (.ok e, w) ∧
      (connect { url := "http://[::1]", batchUpdates := 1 }).run
        (.scripted [catalogAnswers[0], twoFields]) = (.ok e₁, w') ∧
      let writes :=
        [("k", FieldValues.empty.insert "a" [1]), ("k", FieldValues.empty.insert "b" [2])]
      let store : Store Bytes := fun _ => some fun _ => some [0]
      let values (left : Store Bytes) := (left "k").map fun record => (record "a", record "b")
      (leftBy id e w writes store).map values = some (some (some [0], some [2])) ∧
        (leftBy id e₁ w' writes store).map values = some (some (some [1], some [2])) := by
  obtain ⟨e, w, connected, schema⟩ := @connect_of_twoFields _
    { url := "http://[::1]", batchUpdates := 2 } rfl (by decide +kernel) rfl
  obtain ⟨e₁, w', connected₁, schema₁⟩ := @connect_of_twoFields _
    { url := "http://[::1]", batchUpdates := 1 } rfl (by decide +kernel) rfl
  have fresh := fresh_of_connect connected
  have fresh₁ := fresh_of_connect connected₁
  have htarget : e.target = ⟨"ycsb", "usertable", "id"⟩ := by
    rw [target, fresh.configured, schema]
  have htarget₁ : e₁.target = ⟨"ycsb", "usertable", "id"⟩ := by
    rw [target, fresh₁.configured, schema₁]
  have proper : Target.IsProper ⟨"ycsb", "usertable", "id"⟩ :=
    ⟨by decide, by decide, by decide +kernel⟩
  have words : ∀ field ∈ ["a", "b"], IsWord field := by decide +kernel
  refine ⟨e, w, e₁, w', connected, connected₁, ?_, ?_⟩
  · rw [leftBy_of_le fresh (htarget ▸ proper) (by rwa [schema]) (by decide), htarget, schema]
    rfl
  · rw [leftBy_of_single fresh₁ rfl (htarget₁ ▸ proper) (by rwa [schema₁]), htarget₁, schema₁]
    rfl

end SqlppBench.Executor
