import SqlppBench.Proofs.Executor.Readiness
import SqlppBench.Proofs.Schema

/-! # Sessions with equal schemas

What the calls of a session send depends on the configuration, on the schema and on the calls
before them, and neither on what the service answers nor on what becomes of the feed
(`statements_course`). A schema is a normal form of what the catalog tells, so it does not depend on
how the catalog tells it either (`schema_is_a_normal_form`).
-/

namespace SqlppBench.Executor

open TableSchema (describedNames ofCatalog)

variable {e e' e'' : Executor} {w w' : World}

/-! ## Executors that are alike -/

/-- Executors of sessions that are at the same point: they differ at most in their connectors and in
the connections of their feeds. -/
structure Alike (e e' : Executor) : Prop where
  config : e.config = e'.config
  schema : e.schema = e'.schema
  inserts : e.inserts = e'.inserts
  updates : e.updates = e'.updates
  feed : e.feed.isSome = e'.feed.isSome

theorem Alike.refl (e : Executor) : Alike e e :=
  ⟨rfl, rfl, rfl, rfl, rfl⟩

/-- The executor that a call leaves behind, up to its connector and to the connection of its feed.
-/
def afterwards (e : Executor) : Action → Executor
  | .read .. | .scan .. | .delete _ => e
  | .insert key values =>
    let gathered := e.inserts ++ [e.literalOf key values]
    if e.feed.isSome then e
    else { e with
      inserts := if gathered.length < max 1 e.config.batchInserts then gathered else [] }
  | .update key values =>
    let gathered := e.updates ++ [e.projectionOf key values]
    { e with updates := if gathered.length < max 1 e.config.batchUpdates then gathered else [] }
  | .flush => { e with inserts := [], updates := [] }

theorem Leaves.alike {sent inserts updates : List String}
    (h : Leaves e w sent inserts updates e' w') :
    Alike e' { e with inserts := inserts, updates := updates } :=
  ⟨h.config, h.schema, h.inserts, h.updates, congrArg Option.isSome h.feed⟩

theorem alike_insert (h : e.Settled) (key : String) (values : FieldValues) (w : World) :
    Alike ((e.insert key values).run w).1.2 (e.afterwards (.insert key values)) := by
  let gathered : Executor := { e with inserts := e.inserts ++ [e.literalOf key values] }
  cases hfeed : e.feed with
  | some writer =>
      have feeds : e.feed.isSome = true := by rw [hfeed, Option.isSome_some]
      rw [insert_of_feed hfeed, feedInsert, run_logging, Dialogue.run_bind, afterwards,
        if_pos feeds]
      exact ⟨rfl, rfl, rfl, rfl, feeds.symm⟩
  | none =>
      have noFeed : ¬ e.feed.isSome = true := by simp [hfeed]
      by_cases room : gathered.inserts.length < max 1 e.config.batchInserts
      · rw [run_insert_of_room hfeed room, afterwards, if_neg noFeed, if_pos room]
        exact .refl gathered
      · have left := leaves_flushInserts (e := gathered) h.idle w
        rw [run_insert_of_full hfeed h.fits (Nat.le_of_not_lt room), afterwards, if_neg noFeed,
          if_neg room]
        exact left.alike

theorem alike_update (h : e.Settled) (key : String) (values : FieldValues) (w : World) :
    Alike ((e.update key values).run w).1.2 (e.afterwards (.update key values)) := by
  let gathered : Executor := { e with updates := e.updates ++ [e.projectionOf key values] }
  by_cases room : gathered.updates.length < max 1 e.config.batchUpdates
  · rw [run_update_of_room room, afterwards, if_pos room]
    exact .refl gathered
  · have left := leaves_flushUpdates (e := gathered) h.idle w
    rw [run_update_of_full h.fits (Nat.le_of_not_lt room), afterwards, if_neg room]
    exact left.alike

/-- What a call leaves behind depends neither on the service nor on the feed. -/
theorem alike_perform (h : e.Settled) (a : Action) (w : World) :
    Alike ((e.perform a).run w).1.2 (e.afterwards a) := by
  by_cases looksUp : a.isLookup = true
  · have same : e.afterwards a = e := by cases a <;> first | rfl | cases looksUp
    rw [same]
    rcases e.lookup_cases looksUp with
      ⟨fault, -, -, hrun⟩ | ⟨operation, statement, names, ofRecords, -, -, -, hrun⟩
    · rw [hrun]
      exact .refl e
    · rw [hrun]
      exact (leaves_fetch h.idle operation statement names w).alike
  cases a with
  | read key fields => exact absurd rfl looksUp
  | scan start count fields => exact absurd rfl looksUp
  | insert key values =>
      rw [perform, run_replying]
      exact alike_insert h key values w
  | update key values =>
      rw [perform, run_replying]
      exact alike_update h key values w
  | delete key =>
      rw [perform, run_replying]
      exact (leaves_execute h.idle .delete _ w).alike
  | flush =>
      rw [perform, run_replying]
      obtain ⟨sent, left⟩ := leaves_flush h.idle w
      exact left.alike

/-! ## What is to be sent -/

namespace Alike

/-- But for the connection of the feed, executors that are alike could be of one session. -/
theorem continues (h : Alike e e') : Continues e { e' with feed := e.feed } :=
  ⟨h.config.symm, h.schema.symm, rfl⟩

theorem target (h : Alike e e') : e.target = e'.target :=
  h.continues.target.symm

theorem literalOf (h : Alike e e') : e.literalOf = e'.literalOf :=
  h.continues.literalOf.symm

theorem projectionOf (h : Alike e e') : e.projectionOf = e'.projectionOf :=
  h.continues.projectionOf.symm

theorem insertion (h : Alike e e') : e.insertion = e'.insertion :=
  h.continues.insertion.symm

theorem requested (h : Alike e e') : e.requested = e'.requested := by
  funext fields
  unfold Executor.requested
  rw [h.config, h.schema]

/-- Executors that are alike send the same statements. -/
theorem statementsOf (h : Alike e e') (a : Action) : e.statementsOf a = e'.statementsOf a := by
  cases a <;>
    simp only [Executor.statementsOf, h.target, h.requested, h.literalOf, h.projectionOf,
      h.insertion, h.config, h.inserts, h.updates, h.feed]

/-- Executors that are alike remain so. -/
theorem afterwards (h : Alike e e') (a : Action) : Alike (e.afterwards a) (e'.afterwards a) := by
  cases a with
  | read key fields => exact h
  | scan start count fields => exact h
  | delete key => exact h
  | insert key values =>
      rw [Executor.afterwards, Executor.afterwards, h.feed, h.inserts, h.literalOf, h.config]
      split
      · exact h
      · exact ⟨rfl, h.schema, rfl, h.updates, h.feed⟩
  | update key values =>
      rw [Executor.afterwards, Executor.afterwards, h.updates, h.projectionOf, h.config]
      exact ⟨rfl, h.schema, h.inserts, rfl, h.feed⟩
  | flush => exact ⟨h.config, h.schema, rfl, rfl, h.feed⟩

end Alike

/-- The statements that some calls are to send, those of each call by themselves. -/
def planned (e : Executor) : List Action → List (List String)
  | [] => []
  | a :: rest => e.statementsOf a :: (e.afterwards a).planned rest

theorem Alike.planned (h : Alike e e') (calls : List Action) :
    e.planned calls = e'.planned calls := by
  induction calls generalizing e e' with
  | nil => rfl
  | cons a rest ih => rw [Executor.planned, Executor.planned, h.statementsOf, ih (h.afterwards a)]

/-- The call that is made, if it is not the feed that does something. -/
def Event.call? : Event → Option Action
  | .call a => some a
  | .feed _ => none

/-- Whatever the service answers and whatever the feed does, each call sends what it is to send. -/
theorem statements_course (h : e.Settled) (w : World) (events : List Event) :
    (course e w events).turns.map Turn.statements =
      e.planned (events.filterMap Event.call?) := by
  induction events generalizing e w with
  | nil => rfl
  | cons first rest ih =>
      cases first with
      | feed event => exact ih h _
      | call a =>
          obtain ⟨ready, settled⟩ := keepsReady_turn h w a
          have others := (ih settled (e.worldAfter w a)).trans
            ((alike_perform h a w).planned (rest.filterMap Event.call?))
          rw [course, List.map_cons, ready.sends, others]
          rfl

/-! ## Equal schemas -/

/-- Executors that are connected with one configuration are alike if their schemas are equal. -/
theorem Fresh.alike {config : ClientConfig} (h : Fresh config e) (h' : Fresh config e')
    (schema : e.schema = e'.schema) : Alike e e' :=
  ⟨h.configured.trans h'.configured.symm, schema, h.inserts.trans h'.inserts.symm,
    h.updates.trans h'.updates.symm, h.feed.trans h'.feed.symm⟩

/-- Executors that write the same texts for the same arguments, whatever waits in their buffers. -/
structure WritesAs (e e' : Executor) : Prop where
  read : ∀ key fields, e.statementsOf (.read key fields) = e'.statementsOf (.read key fields)
  scan : ∀ start count fields,
    e.statementsOf (.scan start count fields) = e'.statementsOf (.scan start count fields)
  /-- The constructor of a record, be it for a statement or for the feed. -/
  record : ∀ key values, e.literalOf key values = e'.literalOf key values
  insert : ∀ records : List (String × FieldValues),
    e.insertion (records.map fun r => e.literalOf r.1 r.2) =
      e'.insertion (records.map fun r => e'.literalOf r.1 r.2)
  update : ∀ records : List (String × FieldValues),
    e.target.upsertProjections (records.map fun r => e.projectionOf r.1 r.2) =
      e'.target.upsertProjections (records.map fun r => e'.projectionOf r.1 r.2)

/-- Nothing but the configuration and the schema counts for the texts. -/
theorem writesAs (config : e.config = e'.config) (schema : e.schema = e'.schema) :
    e.WritesAs e' := by
  have alike : Alike e
      { e' with inserts := e.inserts, updates := e.updates, feed := e.feed } :=
    ⟨config, schema, rfl, rfl, rfl⟩
  have target : e.target = e'.target := alike.target
  have literalOf : e.literalOf = e'.literalOf := alike.literalOf
  have projectionOf : e.projectionOf = e'.projectionOf := alike.projectionOf
  have insertion : e.insertion = e'.insertion := alike.insertion
  exact {
    read := fun key fields => alike.statementsOf (.read key fields)
    scan := fun start count fields => alike.statementsOf (.scan start count fields)
    record := fun key values => by rw [literalOf]
    insert := fun records => by rw [insertion, literalOf]
    update := fun records => by rw [target, projectionOf] }

/-- A schema is a normal form of the fields that the catalog describes. Two descriptions give equal
schemas exactly if they describe the same names apart from the key, in whatever order, however often
and with whatever types. So executors with one configuration whose catalogs describe the same names
write the same texts, and if both have connected and the same calls are made of them, each call
sends the same statements, whatever their services answer and whatever becomes of their feeds. -/
theorem schema_is_a_normal_form [Url.Idna] :
    (∀ key fields, (ofCatalog key fields).IsNormalForm key fields) ∧
    (∀ key fields others, ofCatalog key fields = ofCatalog key others ↔
      describedNames key fields = describedNames key others) ∧
    ∀ key fields others, describedNames key fields = describedNames key others →
      ∀ e e' : Executor, e.schema = ofCatalog key fields → e'.schema = ofCatalog key others →
        (e.config = e'.config → e.WritesAs e') ∧
        ∀ config w₀ w₁ w₀' w₁', (connect config).run w₀ = (.ok e, w₁) →
          (connect config).run w₀' = (.ok e', w₁') → ∀ events events',
            events.filterMap Event.call? = events'.filterMap Event.call? →
            (course e w₁ events).turns.map Turn.statements =
              (course e' w₁' events').turns.map Turn.statements := by
  refine ⟨fun key fields => TableSchema.isNormalForm_ofCatalog,
    fun key fields others => TableSchema.ofCatalog_eq_iff,
    fun key fields others same e e' he he' => ?_⟩
  have schema : e.schema = e'.schema := by rw [he, he', TableSchema.ofCatalog_eq_iff.2 same]
  refine ⟨fun config => writesAs config schema, ?_⟩
  intro config w₀ w₁ w₀' w₁' connected connected' events events' calls
  have fresh := fresh_of_connect connected
  have fresh' := fresh_of_connect connected'
  rw [statements_course fresh.settled, statements_course fresh'.settled, calls]
  exact (fresh.alike fresh' schema).planned _

/-- A description of the field `f`, twice and with the key between. -/
def repeatedField : String :=
  "[\x7b\"FieldName\":\"f\",\"FieldType\":\"binary\"\x7d,\x7b\"FieldName\":\"id\"\x7d," ++
    "\x7b\"FieldName\":\"f\"\x7d]"

/-- A catalog that describes the fields so. -/
def repeatedFieldAnswer : Http.Answer :=
  .response 200 ⟨Utf8.encode ("\"results\": [ " ++ repeatedField ++ "\n]\n"), none⟩

theorem fieldsOf_repeatedFieldAnswer (name : Catalog.RelationName) :
    (Connector.recordsOf repeatedFieldAnswer).bind (Catalog.fieldsOfRecords name) =
      .ok [⟨"f", "binary"⟩, ⟨"id", ""⟩, ⟨"f", ""⟩] := by
  have hrecords : Connector.recordsOf repeatedFieldAnswer = .ok [repeatedField] :=
    Json.eq_ok_of_toOption (by decide +kernel)
  have hitems : Catalog.itemsOf (Json.record FieldInfo.reader) "field list" [repeatedField] =
      .ok [⟨"f", "binary"⟩, ⟨"id", ""⟩, ⟨"f", ""⟩] := Json.eq_ok_of_toOption (by decide +kernel)
  rw [hrecords, Except.bind, Catalog.fieldsOfRecords, hitems]

/-- The field `f`, described twice and beside the key, makes the schema that it makes alone. -/
theorem repeated_descriptions_change_no_statement :
    let calls : List Event := [.call (.read "a" none), .call (.update "a" (.ofList [("f", [0])]))]
    ∃ e w e' w',
      (connect { url := "http://[::1]" }).run (.scripted catalogAnswers) = (.ok e, w) ∧
      (connect { url := "http://[::1]" }).run
          (.scripted [catalogAnswers[0], repeatedFieldAnswer]) = (.ok e', w') ∧
      e.WritesAs e' ∧
      (course e w calls).turns.map Turn.statements =
        (course e' w' (.feed .reset :: calls)).turns.map Turn.statements := by
  intro calls
  have parses : (Endpoint.parse "http://[::1]").isOk = true := by decide +kernel
  obtain ⟨endpoint, hurl⟩ := exists_eq_ok parses
  have named : (relationName { url := "http://[::1]" }).check = .ok () := rfl
  obtain ⟨e, w, connected, hschema, -⟩ := @connect_of_catalog _ { url := "http://[::1]" } endpoint
    (.scripted catalogAnswers) _ _ rfl hurl named (keyOf_catalogAnswers _)
    (fieldsOf_catalogAnswers _)
  obtain ⟨e', w', connected', hschema', -⟩ := @connect_of_catalog _ { url := "http://[::1]" }
    endpoint (.scripted [catalogAnswers[0], repeatedFieldAnswer]) _ _ rfl hurl named
    (keyOf_catalogAnswers _) (fieldsOf_repeatedFieldAnswer _)
  have same : describedNames "id" [⟨"f", ""⟩] =
      describedNames "id" [⟨"f", "binary"⟩, ⟨"id", ""⟩, ⟨"f", ""⟩] := by
    ext name
    simp only [describedNames, Set.mem_ofPred_eq, List.mem_cons, List.not_mem_nil]
    grind
  have config : e.config = e'.config :=
    (fresh_of_connect connected).configured.trans (fresh_of_connect connected').configured.symm
  obtain ⟨texts, sent⟩ := schema_is_a_normal_form.2.2 "id" _ _ same e e' hschema hschema'
  exact ⟨e, w, e', w', connected, connected', texts config,
    sent _ _ _ _ _ connected connected' calls (.feed .reset :: calls) rfl⟩

end SqlppBench.Executor
