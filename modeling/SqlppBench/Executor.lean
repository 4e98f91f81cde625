import SqlppBench.Config.Basic
import SqlppBench.Connector.Basic
import SqlppBench.FeedWriter
import SqlppBench.Record
import SqlppBench.Sqlpp.Statement
import SqlppBench.Status

/-! # Executors

An executor is a client's session with one relation. It turns operations into statements, gathers
writes until a statement for all of them is due, and decodes the records that come back.

A buffer is emptied before its statement is sent, so a write is never sent twice, and a write that
is in no buffer any more has been sent.
-/

namespace SqlppBench

/-- How a write ended that did not fail. -/
inductive Outcome where
  /-- The service has it. -/
  | committed
  /-- It waits in a buffer. -/
  | batched
deriving DecidableEq, Repr

/-- The name of an outcome. -/
def Outcome.name : Outcome → String
  | .committed => "Committed"
  | .batched => "Batched"

/-- The status that tells how a write ended. -/
def Status.ofWrite : Except Error Outcome → Status
  | .ok .committed => .ok
  | .ok .batched => .batchedOk
  | .error _ => .error

/-- A session with one relation. -/
structure Executor where
  config : ClientConfig
  connector : Connector
  schema : TableSchema
  /-- The record constructors of the inserts that wait, in the order of the calls. -/
  inserts : List String := []
  /-- The projections of the updates that wait, in the order of the calls. -/
  updates : List String := []
  feed : Option FeedWriter := none

namespace Executor

/-- What the statements are written for. -/
def target (e : Executor) : Sqlpp.Target :=
  ⟨e.config.scope, e.config.relation, e.schema.primaryKey⟩

/-- The relation of the session. -/
def relationName (config : ClientConfig) : Catalog.RelationName :=
  ⟨config.scope, config.relation⟩

/-! ## Connecting -/

/-- Asks the catalog for the schema and opens the feed, each only after what comes before it has
succeeded. -/
def discover (config : ClientConfig) (c : Connector) : Dialogue (Except Error Executor) :=
  let name := relationName config
  (c.primaryKey name).bind fun (key, c) =>
    match key with
    | .error e => .done (.error e)
    | .ok key =>
      (c.fields name).bind fun (fields, c) =>
        match fields with
        | .error e => .done (.error e)
        | .ok fields =>
          let session : Executor :=
            { config, connector := c, schema := .ofCatalog key fields }
          match config.feed with
          | none => .done (.ok session)
          | some f =>
            (FeedWriter.connect f).bind fun
              | .error e => .done (.error e)
              | .ok w => .done (.ok { session with feed := some w })

/-- Opens a session with the configured relation. -/
def connect [Url.Idna] (config : ClientConfig) : Dialogue (Except Error Executor) :=
  match Connector.ofUrl config.url with
  | .error e => .done (.error e)
  | .ok c => discover config c

/-! ## Statements -/

/-- Logs a text, where that is asked for, and goes on. -/
def logging {α : Type} (e : Executor) (operation : Operation) (text : String) (d : Dialogue α) :
    Dialogue α :=
  if e.config.printStatements then .perform (.log operation text) fun _ => d else d

/-- Runs a statement that gives no records. -/
def execute (e : Executor) (operation : Operation) (statement : String) :
    Dialogue (Except Error Unit × Executor) :=
  e.logging operation statement <|
    (e.connector.executeForEffect statement).bind fun (result, c) =>
      .done (result, { e with connector := c })

/-- All the records on some lines; the first that cannot be decoded is the fault. -/
def decodeAll (fields : List String) : List String → Except Error (List FieldValues)
  | [] => .ok []
  | line :: lines =>
    match Record.decode line fields with
    | .error fault => .error fault.toError
    | .ok values => (decodeAll fields lines).map (values :: ·)

/-- Runs a statement and decodes the records that it gives, all of which are read first. -/
def fetch (e : Executor) (operation : Operation) (statement : String) (fields : List String) :
    Dialogue (Except Error (List FieldValues) × Executor) :=
  e.logging operation statement <|
    (e.connector.executeForResults statement).bind fun (opened, c) =>
      match opened with
      | .error fault => .done (.error fault, { e with connector := c })
      | .ok () =>
        let (lines, c) := c.drainAll
        .done (lines.bind (decodeAll fields), { e with connector := c })

/-- The requested fields, all of which must be fields of the schema; without a request, these. -/
def requested (e : Executor) : Option (List String) → Except Error (List String)
  | none => .ok e.schema.fields
  | some fields =>
    match fields.find? fun field => !e.schema.hasField field with
    | some unknown =>
      .error (.decode ("Unknown field '" ++ unknown ++ "' in " ++ e.config.relation))
    | none => .ok fields

/-! ## Reading -/

/-- Looks up one record. -/
def read (e : Executor) (key : String) (fields : Option (List String)) :
    Dialogue (Except Error FieldValues × Executor) :=
  match e.requested fields with
  | .error fault => .done (.error fault, e)
  | .ok fields =>
    (e.fetch .read (e.target.read key fields) fields).bind fun (records, e) =>
      .done <| match records with
        | .error fault => (.error fault, e)
        | .ok [] => (.error (.notFound key), e)
        | .ok (values :: _) => (.ok values, e)

/-- Looks up at most `count` records in the order of their keys, from `start` on. -/
def scan (e : Executor) (start : String) (count : Nat) (fields : Option (List String)) :
    Dialogue (Except Error (List FieldValues) × Executor) :=
  match e.requested fields with
  | .error fault => .done (.error fault, e)
  | .ok fields =>
    (e.fetch .scan (e.target.scan start count fields) fields).bind fun (records, e) =>
      .done (records.map fun rs => rs.take count, e)

/-! ## Writing -/

/-- Removes one record. -/
def delete (e : Executor) (key : String) : Dialogue (Except Error Unit × Executor) :=
  e.execute .delete (e.target.delete key)

/-- Sends one statement for all inserts that wait. -/
def flushInserts (e : Executor) : Dialogue (Except Error Unit × Executor) :=
  if e.inserts.isEmpty then .done (.ok (), e)
  else
    { e with inserts := [] }.execute .insert (e.target.insert e.config.insertKeyword e.inserts)

/-- Sends one statement for all updates that wait. -/
def flushUpdates (e : Executor) : Dialogue (Except Error Unit × Executor) :=
  if e.updates.isEmpty then .done (.ok (), e)
  else { e with updates := [] }.execute .update (e.target.upsertProjections e.updates)

/-- The result of a write that was sent. -/
def committed : Except Error Unit → Except Error Outcome
  | .ok () => .ok .committed
  | .error fault => .error fault

/-- Writes a record to the feed. -/
def feedInsert (e : Executor) (w : FeedWriter) (literal : String) :
    Dialogue (Except Error Outcome × Executor) :=
  e.logging .insert literal <|
    (w.writeOrReconnect literal).bind fun (result, w) =>
      .done (committed result, { e with feed := some w })

/-- Adds one record: to the feed, if there is one, or else by a statement, at once or when enough
inserts have gathered. -/
def insert (e : Executor) (key : String) (values : FieldValues) :
    Dialogue (Except Error Outcome × Executor) :=
  let literal := e.target.recordLiteral key e.schema.fields values
  match e.feed with
  | some w => e.feedInsert w literal
  | none =>
    if !e.config.batchesInserts then
      (e.execute .insert (e.target.insert e.config.insertKeyword [literal])).bind
        fun (result, e) => .done (committed result, e)
    else
      let e := { e with inserts := e.inserts ++ [literal] }
      if e.inserts.length ≥ e.config.batchInserts then
        e.flushInserts.bind fun (result, e) => .done (committed result, e)
      else .done (.ok .batched, e)

/-- Replaces some fields of one record, at once or when enough updates have gathered. The others
keep their values. -/
def update (e : Executor) (key : String) (values : FieldValues) :
    Dialogue (Except Error Outcome × Executor) :=
  let projection := e.target.updateProjection key e.schema.fields values
  if !e.config.batchesUpdates then
    (e.execute .update (e.target.upsertProjections [projection])).bind
      fun (result, e) => .done (committed result, e)
  else
    let e := { e with updates := e.updates ++ [projection] }
    if e.updates.length ≥ e.config.batchUpdates then
      e.flushUpdates.bind fun (result, e) => .done (committed result, e)
    else .done (.ok .batched, e)

/-! ## Ending -/

/-- The first failure of two results. -/
def both (a b : Except Error Unit) : Except Error Unit :=
  match a with
  | .ok () => b
  | .error fault => .error fault

/-- Sends all writes that wait. Neither buffer is left alone because of the other. -/
def flush (e : Executor) : Dialogue (Except Error Unit × Executor) :=
  e.flushInserts.bind fun (inserts, e) =>
    e.flushUpdates.bind fun (updates, e) => .done (both inserts updates, e)

/-- Sends all writes that wait and closes the feed. The session is over. -/
def shutdown (e : Executor) : Dialogue (Except Error Unit) :=
  e.flush.bind fun (flushed, e) =>
    match e.feed with
    | none => .done flushed
    | some w => w.close.bind fun closed => .done (both flushed closed)

end Executor

end SqlppBench
