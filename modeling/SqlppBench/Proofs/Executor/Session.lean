import SqlppBench.Executor
import SqlppBench.Proofs.Connector.Exchange
import SqlppBench.Proofs.Json.Shapes
import SqlppBench.Proofs.Transcript

/-! # Sessions with an executor

The calls of an executor, and what its statements leave behind: which of them were sent, in which
order, and what waits in the two buffers afterwards (`Leaves`). A statement leaves no results open,
whatever its answer is, so the next one is not refused.
-/

namespace SqlppBench.Executor

/-- A call of an executor. -/
inductive Action where
  | read (key : String) (fields : Option (List String))
  | scan (start : String) (count : Nat) (fields : Option (List String))
  | insert (key : String) (values : FieldValues)
  | update (key : String) (values : FieldValues)
  | delete (key : String)
  | flush

/-- What a call gives. -/
inductive Reply where
  | record (values : FieldValues)
  | records (records : List FieldValues)
  | written (outcome : Outcome)
  | done

/-- Gives the result of an operation as a reply. -/
def replying {α : Type} (reply : α → Reply) (d : Dialogue (Except Error α × Executor)) :
    Dialogue (Except Error Reply × Executor) :=
  d.bind fun (result, e) => .done (result.map reply, e)

/-- Performs a call. -/
def perform (e : Executor) : Action → Dialogue (Except Error Reply × Executor)
  | .read key fields => replying .record (e.read key fields)
  | .scan start count fields => replying .records (e.scan start count fields)
  | .insert key values => replying .written (e.insert key values)
  | .update key values => replying .written (e.update key values)
  | .delete key => replying (fun _ => .done) (e.delete key)
  | .flush => replying (fun _ => .done) e.flush

@[simp] theorem run_replying {α : Type} (reply : α → Reply)
    (d : Dialogue (Except Error α × Executor)) (w : World) :
    (replying reply d).run w = (((d.run w).1.1.map reply, (d.run w).1.2), (d.run w).2) := by
  simp [replying, Dialogue.run_bind]

/-! ## Connecting -/

/-- An executor as it is when it has just connected. -/
structure Fresh (config : ClientConfig) (e : Executor) : Prop where
  configured : e.config = config
  schema : ∃ key fields, e.schema = .ofCatalog key fields
  idle : e.connector.results = none
  inserts : e.inserts = []
  updates : e.updates = []
  feed : e.feed.isSome = config.feed.isSome

/-- No feed is opened unless there is one in the configuration. -/
theorem Fresh.noFeed {config : ClientConfig} {e : Executor} (h : Fresh config e)
    (hfeed : config.feed = none) : e.feed = none := by
  have hsome := h.feed
  rw [hfeed] at hsome
  simpa using hsome

/-- A connector for a URL has nothing open. -/
theorem results_ofUrl [Url.Idna] {url : String} {c : Connector} (h : Connector.ofUrl url = .ok c) :
    c.results = none := by
  unfold Connector.ofUrl at h
  cases hparse : Endpoint.parse url with
  | error e => simp [hparse, Except.map] at h
  | ok endpoint =>
      simp only [hparse, Except.map, Except.ok.injEq] at h
      rw [← h]
      rfl

/-- An idle connector that is told something by the catalog has posted one request for it, and is
idle again. -/
theorem plays_discover {α : Type} {c c' : Connector} {name : Catalog.RelationName}
    {statement : String} {ofRecords : List String → Except Error α} {t : List Said} {a : α}
    (idle : c.results = none)
    (h : (c.discover name statement ofRecords).Plays t (.ok a, c')) :
    ∃ answer, t = [⟨.request (c.requestOf statement), answer⟩] ∧ c'.results = none := by
  cases hname : name.check with
  | error fault =>
      rw [Connector.discover_of_unnamed idle hname, Dialogue.plays_done_iff] at h
      simp [Connector.note_error] at h
  | ok u =>
      rw [Connector.discover_of_idle idle hname] at h
      obtain ⟨answer, rest, rfl, hrest⟩ := Dialogue.plays_perform_iff.1 h
      obtain ⟨rfl, hresult⟩ := Dialogue.plays_done_iff.1 hrest
      obtain rfl : c' = _ := (Prod.ext_iff.1 hresult).2
      exact ⟨answer, rfl, (Connector.results_note _ _).trans
        ((Connector.results_afterAnswer c answer).trans idle)⟩

/-- How connecting gives an executor, if it gives one: the catalog is asked twice, and then the feed
is opened, if there is one. -/
theorem fresh_of_plays [Url.Idna] {config : ClientConfig} {e : Executor} {t : List Said}
    (h : (connect config).Plays t (.ok e)) :
    Fresh config e ∧ ∃ (key fields : Http.Request) (a a' : Http.Answer) (opening : List Said),
      t = ⟨.request key, a⟩ :: ⟨.request fields, a'⟩ :: opening ∧
        ((config.feed = none ∧ opening = []) ∨
          ∃ f id, config.feed = some f ∧ opening = [⟨.connect f.host f.port, .ok id⟩] ∧
            e.feed = some ⟨f, some id⟩) := by
  unfold connect at h
  split at h
  · simp at h
  rename_i c hc
  obtain ⟨first, ⟨key, c₁⟩, t₁, rfl, hkey, h₁⟩ := Dialogue.plays_bind_iff.1 h
  cases key with
  | error fault => simp at h₁
  | ok key =>
      obtain ⟨a, rfl, idle₁⟩ := plays_discover (results_ofUrl hc) hkey
      obtain ⟨second, ⟨fields, c₂⟩, t₂, rfl, hfields, h₂⟩ := Dialogue.plays_bind_iff.1 h₁
      cases fields with
      | error fault => simp at h₂
      | ok fields =>
          obtain ⟨a', rfl, idle₂⟩ := plays_discover idle₁ hfields
          dsimp only at h₂
          split at h₂
          · rename_i hfeed
            obtain ⟨rfl, hresult⟩ := Dialogue.plays_done_iff.1 h₂
            obtain rfl := Except.ok.inj hresult
            exact ⟨⟨rfl, ⟨key, fields, rfl⟩, idle₂, rfl, rfl, by simp [hfeed]⟩,
              _, _, a, a', [], rfl, .inl ⟨hfeed, rfl⟩⟩
          · rename_i f hfeed
            rw [FeedWriter.connect, Dialogue.perform_bind] at h₂
            obtain ⟨reply, t₃, rfl, h₃⟩ := Dialogue.plays_perform_iff.1 h₂
            cases reply with
            | error reason => simp at h₃
            | ok id =>
                obtain ⟨rfl, hresult⟩ := Dialogue.plays_done_iff.1 h₃
                obtain rfl := Except.ok.inj hresult
                exact ⟨⟨rfl, ⟨key, fields, rfl⟩, idle₂, rfl, rfl, by simp [hfeed]⟩,
                  _, _, a, a', _, rfl, .inr ⟨f, id, hfeed, rfl, rfl⟩⟩

/-- Connecting gives a fresh executor, if it gives one. -/
theorem fresh_of_connect [Url.Idna] {config : ClientConfig} {w w' : World} {e : Executor}
    (h : (connect config).run w = (.ok e, w')) : Fresh config e := by
  have plays := (connect config).plays_said w
  rw [h] at plays
  exact (fresh_of_plays plays).1

/-- Opens the feed of a session that the catalog has told about its relation, if there is one. -/
def openFeed (e : Executor) : Dialogue (Except Error Executor) :=
  match e.config.feed with
  | none => .done (.ok e)
  | some f =>
    (FeedWriter.connect f).bind fun
      | .error fault => .done (.error fault)
      | .ok w => .done (.ok { e with feed := some w })

/-- Connecting takes two requests, to which the catalog must give a key and fields, and then the
feed is opened. -/
theorem run_connect_of_catalog [Url.Idna] {config : ClientConfig} {endpoint : Endpoint} {w : World}
    {key : String} {fields : List FieldInfo}
    (hurl : Endpoint.parse config.url = .ok endpoint)
    (named : (relationName config).check = .ok ())
    (hkey : (Connector.recordsOf
        (w.answer ⟨endpoint, (relationName config).primaryKeyStatement⟩)).bind
      (Catalog.keyOfRecords (relationName config)) = .ok key)
    (hfields : (Connector.recordsOf
        ((w.posted ⟨endpoint, (relationName config).primaryKeyStatement⟩).answer
          ⟨endpoint, (relationName config).fieldsStatement⟩)).bind
      (Catalog.fieldsOfRecords (relationName config)) = .ok fields) :
    ∃ c, (connect config).run w =
      (openFeed { config, connector := c, schema := .ofCatalog key fields }).run
        ((w.posted ⟨endpoint, (relationName config).primaryKeyStatement⟩).posted
          ⟨endpoint, (relationName config).fieldsStatement⟩) := by
  have hidle : (Connector.ofEndpoint endpoint).results = none := rfl
  have hconnector : Connector.ofUrl config.url = .ok (.ofEndpoint endpoint) := by
    rw [Connector.ofUrl, hurl]
    rfl
  unfold connect
  rw [hconnector]
  simp only [discover, Dialogue.run_bind, Connector.primaryKey,
    Connector.run_discover_of_idle hidle named]
  simp only [Connector.requestOf, Connector.ofEndpoint]
  rw [hkey]
  simp only [Connector.note_ok, Dialogue.run_bind, Connector.fields]
  -- the first query left the connector idle, so the second is sent, too
  rw [Connector.run_discover_of_idle (by simp) named]
  simp only [Connector.requestOf, Connector.endpoint_afterAnswer]
  rw [hfields]
  exact ⟨_, rfl⟩

/-- Without a feed, connecting takes two requests: the catalog must give a key and fields. -/
theorem connect_of_catalog [Url.Idna] {config : ClientConfig} {endpoint : Endpoint} {w : World}
    {key : String} {fields : List FieldInfo} (hfeed : config.feed = none)
    (hurl : Endpoint.parse config.url = .ok endpoint)
    (named : (relationName config).check = .ok ())
    (hkey : (Connector.recordsOf
        (w.answer ⟨endpoint, (relationName config).primaryKeyStatement⟩)).bind
      (Catalog.keyOfRecords (relationName config)) = .ok key)
    (hfields : (Connector.recordsOf
        ((w.posted ⟨endpoint, (relationName config).primaryKeyStatement⟩).answer
          ⟨endpoint, (relationName config).fieldsStatement⟩)).bind
      (Catalog.fieldsOfRecords (relationName config)) = .ok fields) :
    ∃ e w', (connect config).run w = (.ok e, w') ∧ e.schema = .ofCatalog key fields ∧
      w' = (w.posted ⟨endpoint, (relationName config).primaryKeyStatement⟩).posted
        ⟨endpoint, (relationName config).fieldsStatement⟩ := by
  obtain ⟨c, hrun⟩ := run_connect_of_catalog hurl named hkey hfields
  rw [hrun]
  simp [openFeed, hfeed]

/-- What a catalog says about a relation with the key `id` and the field `f`. -/
def catalogAnswers : List Http.Answer :=
  [.response 200 ⟨Utf8.encode "\"results\": [ [[\"id\"]]\n]\n", none⟩,
    .response 200 ⟨Utf8.encode "\"results\": [ [\x7b\"FieldName\":\"f\"\x7d]\n]\n", none⟩]

/-- The first answer tells the key. -/
theorem keyOf_catalogAnswers (name : Catalog.RelationName) :
    (Connector.recordsOf catalogAnswers[0]).bind (Catalog.keyOfRecords name) = .ok "id" := by
  have hrecords : Connector.recordsOf catalogAnswers[0] = .ok ["[[\"id\"]]"] :=
    Json.eq_ok_of_toOption (by decide +kernel)
  have hitems : Catalog.itemsOf (Json.list Json.anyText) "primary key" ["[[\"id\"]]"] =
      .ok [["id"]] := Json.eq_ok_of_toOption (by decide +kernel)
  rw [hrecords, Except.bind, Catalog.keyOfRecords, hitems]
  rfl

/-- The second answer tells the field. -/
theorem fieldsOf_catalogAnswers (name : Catalog.RelationName) :
    (Connector.recordsOf catalogAnswers[1]).bind (Catalog.fieldsOfRecords name) =
      .ok [⟨"f", ""⟩] := by
  have hrecords : Connector.recordsOf catalogAnswers[1] =
      .ok ["[\x7b\"FieldName\":\"f\"\x7d]"] := Json.eq_ok_of_toOption (by decide +kernel)
  have hitems : Catalog.itemsOf (Json.record FieldInfo.reader) "field list"
      ["[\x7b\"FieldName\":\"f\"\x7d]"] = .ok [⟨"f", ""⟩] :=
    Json.eq_ok_of_toOption (by decide +kernel)
  rw [hrecords, Except.bind, Catalog.fieldsOfRecords, hitems]

/-- A result that is no failure has a value. -/
theorem exists_eq_ok {α : Type} {result : Except Error α} (h : result.isOk = true) :
    ∃ a, result = .ok a := by
  cases result with
  | error fault => cases h
  | ok a => exact ⟨a, rfl⟩

/-- A service that gives these answers to the two questions about a relation lets a client connect,
whatever else it is asked. -/
theorem connect_of_answering [Url.Idna] {config : ClientConfig} (hfeed : config.feed = none)
    (hurl : (Endpoint.parse config.url).isOk = true)
    (named : (relationName config).check = .ok ()) {f : String → Http.Answer}
    (hkey : f (relationName config).primaryKeyStatement = catalogAnswers[0])
    (hfields : f (relationName config).fieldsStatement = catalogAnswers[1]) :
    ∃ e w, (connect config).run (.answering f) = (.ok e, w) ∧ e.schema = ⟨"id", ["f"]⟩ := by
  obtain ⟨endpoint, hurl⟩ := exists_eq_ok hurl
  obtain ⟨e, w, hrun, hschema, -⟩ := @connect_of_catalog _ config endpoint (.answering f) "id"
    [⟨"f", ""⟩] hfeed hurl named
    ((congrArg (fun a => (Connector.recordsOf a).bind _) hkey).trans (keyOf_catalogAnswers _))
    ((congrArg (fun a => (Connector.recordsOf a).bind _) hfields).trans
      (fieldsOf_catalogAnswers _))
  exact ⟨e, w, hrun, hschema⟩

/-- A service that begins with these answers lets a client connect, and then gives the others. -/
theorem connect_of_catalogAnswers [Url.Idna] {config : ClientConfig} (hfeed : config.feed = none)
    (hurl : (Endpoint.parse config.url).isOk = true)
    (named : (relationName config).check = .ok ()) (others : List Http.Answer) :
    ∃ e w, (connect config).run (.scripted (catalogAnswers ++ others)) = (.ok e, w) ∧
      e.schema = ⟨"id", ["f"]⟩ ∧ ∀ r, w.answer r = others.getD 0 (.dropped World.reset) := by
  obtain ⟨endpoint, hurl⟩ := exists_eq_ok hurl
  obtain ⟨e, w, hrun, hschema, rfl⟩ := @connect_of_catalog _ config endpoint
    (.scripted (catalogAnswers ++ others)) _ _ hfeed hurl named
    (keyOf_catalogAnswers (relationName config)) (fieldsOf_catalogAnswers (relationName config))
  exact ⟨e, _, hrun, hschema, fun _ => by cases others <;> rfl⟩

/-! ## What a call leaves behind -/

/-- An executor and a world after statements were sent: the session goes on with the same
configuration, schema and feed, and the buffers hold what is said. -/
structure Leaves (e : Executor) (w : World) (sent inserts updates : List String)
    (e' : Executor) (w' : World) : Prop where
  config : e'.config = e.config
  schema : e'.schema = e.schema
  feed : e'.feed = e.feed
  idle : e'.connector.results = none
  endpoint : e'.connector.endpoint = e.connector.endpoint
  inserts : e'.inserts = inserts
  updates : e'.updates = updates
  statements : w'.statements = w.statements ++ sent

variable {e e' e'' : Executor} {w w' w'' : World} {sent sent' inserts updates : List String}

/-- An executor of the same session. -/
structure Continues (e e' : Executor) : Prop where
  config : e'.config = e.config
  schema : e'.schema = e.schema
  feed : e'.feed = e.feed

theorem Continues.trans (first : Continues e e') (second : Continues e' e'') :
    Continues e e'' :=
  ⟨second.config.trans first.config, second.schema.trans first.schema,
    second.feed.trans first.feed⟩

theorem Continues.target (h : Continues e e') : e'.target = e.target := by
  rw [Executor.target, Executor.target, h.config, h.schema]

theorem Leaves.continues (h : Leaves e w sent inserts updates e' w') : Continues e e' :=
  ⟨h.config, h.schema, h.feed⟩

/-- What is left alone leaves no trace. -/
theorem Leaves.refl (h : e.connector.results = none) (w : World) :
    Leaves e w [] e.inserts e.updates e w where
  config := rfl
  schema := rfl
  feed := rfl
  idle := h
  endpoint := rfl
  inserts := rfl
  updates := rfl
  statements := by simp

/-- Statements that are sent one after the other. -/
theorem Leaves.trans {inserts' updates' : List String}
    (first : Leaves e w sent inserts updates e' w')
    (second : Leaves e' w' sent' inserts' updates' e'' w'') :
    Leaves e w (sent ++ sent') inserts' updates' e'' w'' where
  config := second.config.trans first.config
  schema := second.schema.trans first.schema
  feed := second.feed.trans first.feed
  idle := second.idle
  endpoint := second.endpoint.trans first.endpoint
  inserts := second.inserts
  updates := second.updates
  statements := by rw [second.statements, first.statements, List.append_assoc]

/-- Logging is no exchange. -/
theorem run_logging {α : Type} (e : Executor) (operation : Operation) (text : String)
    (d : Dialogue α) (w : World) :
    (e.logging operation text d).run w =
      d.run (w.loggedIf e.config.printStatements operation text) := by
  unfold logging World.loggedIf
  split <;> rfl

/-- The executor once an answer was read to its end with the given result. -/
def answered {α : Type} (e : Executor) (a : Http.Answer) (result : Except Error α) : Executor :=
  { e with connector := (Connector.note result (e.connector.afterAnswer a)).2 }

/-- A statement without records is one request, and the answer to it decides the result. -/
theorem execute_of_idle (h : e.connector.results = none) (operation : Operation)
    (statement : String) :
    e.execute operation statement =
      e.logging operation statement
        (.perform (.request (e.connector.requestOf statement)) fun a =>
          .done (Connector.effectOf a, e.answered a (Connector.effectOf a))) := by
  rw [execute, Connector.executeForEffect_of_idle h]
  simp only [Dialogue.perform_bind, Dialogue.done_bind, Connector.note_fst, answered]

/-- A statement without records is sent, whatever its answer. -/
theorem run_execute (h : e.connector.results = none) (operation : Operation) (statement : String)
    (w : World) :
    (e.execute operation statement).run w =
      let a := w.answer (e.connector.requestOf statement)
      ((Connector.effectOf a, e.answered a (Connector.effectOf a)),
        (w.loggedIf e.config.printStatements operation statement).posted
          (e.connector.requestOf statement)) := by
  simp only [execute_of_idle h, run_logging, Dialogue.run_perform, World.handle_request,
    World.answer_loggedIf, Dialogue.run_done]

/-- A statement with records is one request, the answer to which is read to the end before any
record is decoded. -/
theorem fetch_of_idle (h : e.connector.results = none) (operation : Operation)
    (statement : String) (fields : List String) :
    e.fetch operation statement fields =
      e.logging operation statement
        (.perform (.request (e.connector.requestOf statement)) fun a =>
          .done ((Connector.recordsOf a).bind (decodeAll fields),
            e.answered a (Connector.recordsOf a))) := by
  rw [fetch, Connector.executeForResults_of_idle h, Dialogue.perform_bind]
  refine congrArg (e.logging operation statement) (congrArg _ (funext fun a => ?_))
  change Http.Answer at a
  cases hbody : Connector.bodyOf a with
  | error fault =>
      simp [Connector.recordsOf, hbody, Except.bind, answered, Connector.note_error]
  | ok body =>
      have hdrain := Connector.drainAll_of_open (c := { e.connector.afterAnswer a with
        results := some (.ofLines body.lines), error := "" }) rfl
      simp only [Dialogue.done_bind, Connector.note_ok, hdrain, Connector.recordsOf, hbody,
        Connector.recordsOfBody, answered, Connector.note_fst]
      rw [Connector.note_congr]
      simp [Connector.close, ← h]

/-- A statement with records is sent, and its answer is read to the end before any record is
decoded. -/
theorem run_fetch (h : e.connector.results = none) (operation : Operation) (statement : String)
    (fields : List String) (w : World) :
    (e.fetch operation statement fields).run w =
      let a := w.answer (e.connector.requestOf statement)
      (((Connector.recordsOf a).bind (decodeAll fields), e.answered a (Connector.recordsOf a)),
        (w.loggedIf e.config.printStatements operation statement).posted
          (e.connector.requestOf statement)) := by
  simp only [fetch_of_idle h, run_logging, Dialogue.run_perform, World.handle_request,
    World.answer_loggedIf, Dialogue.run_done]

/-- What is left when a statement was sent and answered. -/
theorem leaves_answered {α : Type} (h : e.connector.results = none) (operation : Operation)
    (statement : String) (w : World) (a : Http.Answer) (result : Except Error α) :
    Leaves e w [statement] e.inserts e.updates (e.answered a result)
      ((w.loggedIf e.config.printStatements operation statement).posted
        (e.connector.requestOf statement)) where
  config := rfl
  schema := rfl
  feed := rfl
  idle := by simp [answered, h]
  endpoint := by simp [answered]
  inserts := rfl
  updates := rfl
  statements := by simp [Connector.requestOf]

theorem leaves_execute (h : e.connector.results = none) (operation : Operation)
    (statement : String) (w : World) :
    let run := (e.execute operation statement).run w
    Leaves e w [statement] e.inserts e.updates run.1.2 run.2 := by
  rw [run_execute h]
  exact leaves_answered h operation statement w _ _

theorem leaves_fetch (h : e.connector.results = none) (operation : Operation)
    (statement : String) (fields : List String) (w : World) :
    let run := (e.fetch operation statement fields).run w
    Leaves e w [statement] e.inserts e.updates run.1.2 run.2 := by
  rw [run_fetch h]
  exact leaves_answered h operation statement w _ _

/-! ## Reading -/

/-- The first record, if there is one. -/
def firstRecord (key : String) : Except Error (List FieldValues) → Except Error FieldValues
  | .error fault => .error fault
  | .ok [] => .error (.notFound key)
  | .ok (values :: _) => .ok values

/-- Nothing is sent for a field that the schema does not have. -/
theorem run_read_of_unknown {fields : Option (List String)} {fault : Error}
    (unknown : e.requested fields = .error fault) (key : String) (w : World) :
    (e.read key fields).run w = ((.error fault, e), w) := by
  simp [read, unknown]

/-- A lookup gives the first record. -/
theorem run_read {fields : Option (List String)} {names : List String}
    (known : e.requested fields = .ok names) (key : String) (w : World) :
    (e.read key fields).run w =
      let run := (e.fetch .read (e.target.read key names) names).run w
      ((firstRecord key run.1.1, run.1.2), run.2) := by
  simp only [read, known, Dialogue.run_bind, Dialogue.run_done]
  rcases hrecords : ((e.fetch .read (e.target.read key names) names).run w).1.1 with
    fault | (_ | ⟨values, records⟩) <;> rfl

/-- Nothing is sent for a field that the schema does not have. -/
theorem run_scan_of_unknown {fields : Option (List String)} {fault : Error}
    (unknown : e.requested fields = .error fault) (start : String) (count : Nat) (w : World) :
    (e.scan start count fields).run w = ((.error fault, e), w) := by
  simp [scan, unknown]

/-- A scan gives the first records. -/
theorem run_scan {fields : Option (List String)} {names : List String}
    (known : e.requested fields = .ok names) (start : String) (count : Nat) (w : World) :
    (e.scan start count fields).run w =
      let run := (e.fetch .scan (e.target.scan start count names) names).run w
      ((run.1.1.map fun records => records.take count, run.1.2), run.2) := by
  simp only [scan, known, Dialogue.run_bind, Dialogue.run_done]

/-! ## Writing -/

/-- The record constructor of an insert. -/
def literalOf (e : Executor) (key : String) (values : FieldValues) : String :=
  e.target.recordLiteral key e.schema.fields values

/-- The projection of an update. -/
def projectionOf (e : Executor) (key : String) (values : FieldValues) : String :=
  e.target.updateProjection key e.schema.fields values

/-- The statement for some inserts. -/
def insertion (e : Executor) (literals : List String) : String :=
  e.target.insert e.config.insertKeyword literals

theorem Continues.literalOf (h : Continues e e') : e'.literalOf = e.literalOf := by
  funext key values
  rw [Executor.literalOf, Executor.literalOf, h.target, h.schema]

theorem Continues.projectionOf (h : Continues e e') : e'.projectionOf = e.projectionOf := by
  funext key values
  rw [Executor.projectionOf, Executor.projectionOf, h.target, h.schema]

theorem Continues.insertion (h : Continues e e') : e'.insertion = e.insertion := by
  funext literals
  rw [Executor.insertion, Executor.insertion, h.target, h.config]

/-- No more writes wait than there is room for. -/
structure Fits (e : Executor) : Prop where
  inserts : e.inserts.length < max 1 e.config.batchInserts
  updates : e.updates.length < max 1 e.config.batchUpdates

/-- There is room for something. -/
theorem length_nil_lt {α : Type} (threshold : Nat) : ([] : List α).length < max 1 threshold := by
  rw [List.length_nil]
  omega

/-- Nothing is to be done when no insert waits. -/
theorem flushInserts_of_nil (h : e.inserts = []) : e.flushInserts = .done (.ok (), e) := by
  simp [flushInserts, h]

/-- Nothing is sent when no insert waits. -/
theorem run_flushInserts_of_nil (h : e.inserts = []) (w : World) :
    e.flushInserts.run w = ((.ok (), e), w) := by
  rw [flushInserts_of_nil h]
  rfl

/-- One statement is sent for all inserts that wait, and none of them waits any longer. -/
theorem flushInserts_of_ne_nil (h : e.inserts ≠ []) :
    e.flushInserts =
      ({ e with inserts := [] } : Executor).execute .insert (e.insertion e.inserts) := by
  simp [flushInserts, h, insertion]

/-- Nothing is to be done when no update waits. -/
theorem flushUpdates_of_nil (h : e.updates = []) : e.flushUpdates = .done (.ok (), e) := by
  simp [flushUpdates, h]

/-- Nothing is sent when no update waits. -/
theorem run_flushUpdates_of_nil (h : e.updates = []) (w : World) :
    e.flushUpdates.run w = ((.ok (), e), w) := by
  rw [flushUpdates_of_nil h]
  rfl

/-- One statement is sent for all updates that wait, and none of them waits any longer. -/
theorem flushUpdates_of_ne_nil (h : e.updates ≠ []) :
    e.flushUpdates =
      ({ e with updates := [] } : Executor).execute .update
        (e.target.upsertProjections e.updates) := by
  simp [flushUpdates, h]

/-- What was in the buffers before does not matter. -/
theorem Leaves.of_buffers {inserts' updates' : List String}
    (h : Leaves { e with inserts := inserts', updates := updates' } w sent inserts updates e' w') :
    Leaves e w sent inserts updates e' w' :=
  ⟨h.config, h.schema, h.feed, h.idle, h.endpoint, h.inserts, h.updates, h.statements⟩

/-- After a flush of the inserts none of them waits; those that waited are in one statement. -/
theorem leaves_flushInserts (h : e.connector.results = none) (w : World) :
    let run := e.flushInserts.run w
    Leaves e w (if e.inserts = [] then [] else [e.insertion e.inserts]) [] e.updates
      run.1.2 run.2 := by
  by_cases hnil : e.inserts = []
  · simpa [run_flushInserts_of_nil hnil, hnil] using Leaves.refl h w
  · rw [flushInserts_of_ne_nil hnil, if_neg hnil]
    exact (leaves_execute (e := { e with inserts := [] }) h _ _ w).of_buffers

/-- After a flush of the updates none of them waits; those that waited are in one statement. -/
theorem leaves_flushUpdates (h : e.connector.results = none) (w : World) :
    let run := e.flushUpdates.run w
    Leaves e w (if e.updates = [] then [] else [e.target.upsertProjections e.updates]) e.inserts []
      run.1.2 run.2 := by
  by_cases hnil : e.updates = []
  · simpa [run_flushUpdates_of_nil hnil, hnil] using Leaves.refl h w
  · rw [flushUpdates_of_ne_nil hnil, if_neg hnil]
    exact (leaves_execute (e := { e with updates := [] }) h _ _ w).of_buffers

/-- A flush goes on to the updates whatever became of the inserts. -/
theorem run_flush (e : Executor) (w : World) :
    e.flush.run w =
      let inserts := e.flushInserts.run w
      let updates := inserts.1.2.flushUpdates.run inserts.2
      ((both inserts.1.1 updates.1.1, updates.1.2), updates.2) := by
  simp only [flush, Dialogue.run_bind, Dialogue.run_done]

/-- Without a feed a shutdown is a flush. -/
theorem run_shutdown_of_no_feed (hidle : e.connector.results = none) (hfeed : e.feed = none)
    (w : World) :
    e.shutdown.run w = ((e.flush.run w).1.1, (e.flush.run w).2) := by
  have inserts := leaves_flushInserts hidle w
  have updates := leaves_flushUpdates inserts.idle (e.flushInserts.run w).2
  have hsame : (e.flush.run w).1.2.feed = none := by
    rw [run_flush]
    exact updates.feed.trans (inserts.feed.trans hfeed)
  simp [shutdown, Dialogue.run_bind, hsame]

/-- There is room for a write only where more than one goes into a statement. -/
theorem one_lt_of_room {waiting : List String} {write : String} {threshold : Nat}
    (room : (waiting ++ [write]).length < max 1 threshold) : 1 < threshold := by
  rw [List.length_append, List.length_singleton] at room
  omega

/-- Where every write is sent at once, none waits. -/
theorem eq_nil_of_fits {waiting : List String} {threshold : Nat}
    (fits : waiting.length < max 1 threshold) (single : ¬ threshold > 1) : waiting = [] := by
  rw [← List.length_eq_zero_iff]
  omega

/-- What is told about a write, once its statement was sent. -/
def telling (d : Dialogue (Except Error Unit × Executor)) :
    Dialogue (Except Error Outcome × Executor) :=
  d.bind fun (result, e) => .done (committed result, e)

@[simp] theorem run_telling (d : Dialogue (Except Error Unit × Executor)) (w : World) :
    (telling d).run w = ((committed (d.run w).1.1, (d.run w).1.2), (d.run w).2) := by
  simp only [telling, Dialogue.run_bind, Dialogue.run_done]

/-- With a feed, a record is written to it. -/
theorem insert_of_feed {writer : FeedWriter} (hfeed : e.feed = some writer) (key : String)
    (values : FieldValues) :
    e.insert key values = e.feedInsert writer (e.literalOf key values) := by
  rw [insert, hfeed]
  rfl

/-- An insert waits while fewer wait than go into one statement. -/
theorem insert_of_room (hfeed : e.feed = none) {key : String} {values : FieldValues}
    (room : (e.inserts ++ [e.literalOf key values]).length < max 1 e.config.batchInserts) :
    e.insert key values =
      .done (.ok .batched, { e with inserts := e.inserts ++ [e.literalOf key values] }) := by
  have hlarge := one_lt_of_room room
  have hroom : ¬ (e.inserts ++ [e.literalOf key values]).length ≥ e.config.batchInserts := by
    omega
  have hbatches : e.config.batchesInserts = true := by
    simpa [ClientConfig.batchesInserts] using hlarge
  rw [literalOf] at hroom ⊢
  simp only [insert, hfeed, hbatches, Bool.not_true, Bool.false_eq_true, if_false]
  rw [if_neg hroom]

theorem run_insert_of_room (hfeed : e.feed = none) {key : String} {values : FieldValues}
    (room : (e.inserts ++ [e.literalOf key values]).length < max 1 e.config.batchInserts)
    (w : World) :
    (e.insert key values).run w =
      ((.ok .batched, { e with inserts := e.inserts ++ [e.literalOf key values] }), w) := by
  rw [insert_of_room hfeed room]
  rfl

/-- An insert that makes enough of them for a statement is sent together with those that wait. -/
theorem insert_of_full (hfeed : e.feed = none) (fits : e.Fits) {key : String}
    {values : FieldValues}
    (full : max 1 e.config.batchInserts ≤ (e.inserts ++ [e.literalOf key values]).length) :
    e.insert key values =
      telling
        ({ e with inserts := e.inserts ++ [e.literalOf key values] } : Executor).flushInserts := by
  by_cases hbatches : e.config.batchesInserts = true
  · have hfull : (e.inserts ++ [e.literalOf key values]).length ≥ e.config.batchInserts := by
      omega
    rw [literalOf] at hfull ⊢
    simp only [insert, hfeed, hbatches, Bool.not_true, Bool.false_eq_true, if_false]
    rw [if_pos hfull]
    rfl
  · -- without batches nothing ever waits, so the insert is alone in its statement
    have hempty : e.inserts = [] := by
      simp only [ClientConfig.batchesInserts, decide_eq_true_eq] at hbatches
      exact eq_nil_of_fits fits.inserts hbatches
    have hsame : ({ e with inserts := [] } : Executor) = e := by rw [← hempty]
    simp only [hempty, List.nil_append, flushInserts, List.isEmpty_cons, Bool.false_eq_true,
      if_false]
    rw [hsame]
    simp [insert, hfeed, hbatches, literalOf, target, telling]

theorem run_insert_of_full (hfeed : e.feed = none) (fits : e.Fits) {key : String}
    {values : FieldValues}
    (full : max 1 e.config.batchInserts ≤ (e.inserts ++ [e.literalOf key values]).length)
    (w : World) :
    (e.insert key values).run w =
      let gathered : Executor := { e with inserts := e.inserts ++ [e.literalOf key values] }
      let run := gathered.flushInserts.run w
      ((committed run.1.1, run.1.2), run.2) := by
  rw [insert_of_full hfeed fits full, run_telling]

/-- An update waits while fewer wait than go into one statement. -/
theorem update_of_room {key : String} {values : FieldValues}
    (room : (e.updates ++ [e.projectionOf key values]).length < max 1 e.config.batchUpdates) :
    e.update key values =
      .done (.ok .batched, { e with updates := e.updates ++ [e.projectionOf key values] }) := by
  have hlarge := one_lt_of_room room
  have hroom : ¬ (e.updates ++ [e.projectionOf key values]).length ≥ e.config.batchUpdates := by
    omega
  have hbatches : e.config.batchesUpdates = true := by
    simpa [ClientConfig.batchesUpdates] using hlarge
  rw [projectionOf] at hroom ⊢
  simp only [update, hbatches, Bool.not_true, Bool.false_eq_true, if_false]
  rw [if_neg hroom]

theorem run_update_of_room {key : String} {values : FieldValues}
    (room : (e.updates ++ [e.projectionOf key values]).length < max 1 e.config.batchUpdates)
    (w : World) :
    (e.update key values).run w =
      ((.ok .batched, { e with updates := e.updates ++ [e.projectionOf key values] }), w) := by
  rw [update_of_room room]
  rfl

/-- An update that makes enough of them for a statement is sent together with those that wait. -/
theorem update_of_full (fits : e.Fits) {key : String} {values : FieldValues}
    (full : max 1 e.config.batchUpdates ≤ (e.updates ++ [e.projectionOf key values]).length) :
    e.update key values =
      telling
        ({ e with updates := e.updates ++ [e.projectionOf key values] } :
          Executor).flushUpdates := by
  by_cases hbatches : e.config.batchesUpdates = true
  · have hfull : (e.updates ++ [e.projectionOf key values]).length ≥ e.config.batchUpdates := by
      omega
    rw [projectionOf] at hfull ⊢
    simp only [update, hbatches, Bool.not_true, Bool.false_eq_true, if_false]
    rw [if_pos hfull]
    rfl
  · have hempty : e.updates = [] := by
      simp only [ClientConfig.batchesUpdates, decide_eq_true_eq] at hbatches
      exact eq_nil_of_fits fits.updates hbatches
    have hsame : ({ e with updates := [] } : Executor) = e := by rw [← hempty]
    simp only [hempty, List.nil_append, flushUpdates, List.isEmpty_cons, Bool.false_eq_true,
      if_false]
    rw [hsame]
    simp [update, hbatches, projectionOf, target, telling]

theorem run_update_of_full (fits : e.Fits) {key : String} {values : FieldValues}
    (full : max 1 e.config.batchUpdates ≤ (e.updates ++ [e.projectionOf key values]).length)
    (w : World) :
    (e.update key values).run w =
      let gathered : Executor := { e with updates := e.updates ++ [e.projectionOf key values] }
      let run := gathered.flushUpdates.run w
      ((committed run.1.1, run.1.2), run.2) := by
  rw [update_of_full fits full, run_telling]

/-! ## Sessions -/

/-- An executor that has connected and made some calls since. -/
def Reached [Url.Idna] (config : ClientConfig) (e : Executor) (w : World) : Prop :=
  ∃ w₀ e₀ w₁ calls replies, (connect config).run w₀ = (.ok e₀, w₁) ∧
    (Dialogue.session perform e₀ calls).run w₁ = ((replies, e), w)

end SqlppBench.Executor
