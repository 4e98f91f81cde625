import SqlppBench.Connector.Catalog
import SqlppBench.Connector.ResultCursor
import SqlppBench.Connector.ServiceMessage
import SqlppBench.Dialogue

/-! # Connectors

A connector runs statements on one endpoint, one at a time: while the results of a statement are
open, no other statement is sent. The cause of the last failure is kept until a call succeeds.
-/

namespace SqlppBench

/-- A connector and the results that are open on it. -/
structure Connector where
  endpoint : Endpoint
  /-- The results of the open statement. -/
  results : Option ResultCursor := none
  /-- The cause of the last failure; empty after a success. -/
  error : String := ""
  /-- Whether any response has arrived yet. -/
  answered : Bool := false

namespace Connector

/-- A connector for an endpoint, with nothing open. -/
def ofEndpoint (endpoint : Endpoint) : Connector := { endpoint }

/-- A connector for a URL. -/
def ofUrl [Url.Idna] (url : String) : Except Error Connector :=
  (Endpoint.parse url).map ofEndpoint

/-- A connector for the service on a host. -/
def ofHostPort [Url.Idna] (host : String) (port : Nat) : Except Error Connector :=
  (Endpoint.ofHostPort host port).map ofEndpoint

/-- The kind of service that this kind of connector is for. -/
def typeName : String := "query-service"

/-- Whether the last call failed. -/
def hasError (c : Connector) : Bool :=
  !c.error.isEmpty

/-- Whether the results of a statement are open. -/
def isOpen (c : Connector) : Bool :=
  c.results.isSome

/-- Where the cursor over the open results stands. -/
def cursorState (c : Connector) : Option CursorState :=
  c.results.map ResultCursor.state

/-- Drops the open results. -/
def close (c : Connector) : Connector :=
  { c with results := none }

/-- Keeps the cause of a failure, or forgets the last one. -/
def note {α : Type} (result : Except Error α) (c : Connector) : Except Error α × Connector :=
  match result with
  | .ok a => (.ok a, { c with error := "" })
  | .error e => (.error e, { c with error := e.cause })

/-- A failure to read a body. -/
def unreadable (reason : String) : Error :=
  .transport ("Failed to read response body: " ++ reason)

/-! ## Statements -/

/-- The body of a successful answer. -/
def bodyOf : Http.Answer → Except Error Http.Body
  | .dropped reason => .error (.transport reason)
  | .response status body =>
    if status = 200 then .ok body else .error (.protocol (ServiceMessage.ofAnswer status body))

/-- The connector after an answer. -/
def afterAnswer (c : Connector) : Http.Answer → Connector
  | .dropped _ => c
  | .response .. => { c with answered := true }

/-- Posts a statement, unless results are open, and goes on with the body of the answer that is left
behind the redirects. -/
def send {α : Type} (c : Connector) (statement : String)
    (use : Http.Body → Connector → Except Error α × Connector) :
    Dialogue (Except Error α × Connector) :=
  if c.isOpen then .done (.error .statementInFlight, c)
  else
    .perform (.request ⟨c.endpoint, statement⟩) fun answer =>
      let c := c.afterAnswer answer
      match bodyOf answer with
      | .error e => .done (.error e, c)
      | .ok body => .done (use body c)

/-- Runs a statement and reads the body of the answer to its end. -/
def executeForEffect (c : Connector) (statement : String) :
    Dialogue (Except Error Unit × Connector) :=
  let use (body : Http.Body) (c : Connector) :=
    match body.failure with
    | some reason => (.error (unreadable reason), c)
    | none => (.ok (), c)
  (c.send statement use).bind fun (result, c) => .done (note result c)

/-- Runs a statement and leaves its results open. -/
def openResults (c : Connector) (statement : String) : Dialogue (Except Error Unit × Connector) :=
  c.send statement fun body c => (.ok (), { c with results := some (.ofLines body.lines) })

/-- Runs a statement and leaves its results open. -/
def executeForResults (c : Connector) (statement : String) :
    Dialogue (Except Error Unit × Connector) :=
  (c.openResults statement).bind fun (result, c) => .done (note result c)

/-! ## Results -/

/-- The next record of the open results, which are closed unless there is one. Without open results
there is none either, but the cause tells why. -/
def nextResult (c : Connector) : Except Error (Option String) × Connector :=
  match c.results with
  | none => (.ok none, { c with error := Error.noStatement.cause })
  | some cursor =>
    match cursor.next with
    | (.ok (some record), cursor) =>
      (.ok (some record), { c with results := some cursor, error := "" })
    | (.ok none, _) => note (.ok none) c.close
    | (.error fault, _) => note (.error (unreadable fault.message)) c.close

/-- The number of lines that were not read yet. -/
def remaining (c : Connector) : Nat :=
  (c.results.map fun cursor => cursor.lines.length).getD 0

theorem remaining_lt_of_nextResult {c c' : Connector} {record : String}
    (h : c.nextResult = (.ok (some record), c')) : c'.remaining < c.remaining := by
  unfold nextResult at h
  split at h
  · simp at h
  · rename_i cursor hc
    split at h
    · rename_i record' cursor' hn
      have hlt := ResultCursor.length_lines_lt_of_next hn
      simp only [Prod.mk.injEq] at h
      rw [← h.2]
      simpa [remaining, hc] using hlt
    · simp [note] at h
    · simp [note] at h

/-- All records that are left. -/
def drainAll (c : Connector) : Except Error (List String) × Connector :=
  match _h : c.nextResult with
  | (.error e, c) => (.error e, c)
  | (.ok none, c) => (.ok [], c)
  | (.ok (some record), c') =>
    match c'.drainAll with
    | (.ok records, c) => (.ok (record :: records), c)
    | (.error e, c) => (.error e, c)
termination_by c.remaining
decreasing_by exact remaining_lt_of_nextResult _h

/-! ## The catalog -/

/-- Asks the catalog and makes something of the records. Whatever happens, nothing stays open. -/
def discover {α : Type} (c : Connector) (name : Catalog.RelationName) (statement : String)
    (ofRecords : List String → Except Error α) : Dialogue (Except Error α × Connector) :=
  if c.isOpen then .done (note (.error .statementInFlight) c)
  else
    match name.check with
    | .error e => .done (note (.error e) c.close)
    | .ok () =>
      (c.openResults statement).bind fun (opened, c) =>
        match opened with
        | .error e => .done (note (.error e) c.close)
        | .ok () =>
          match c.drainAll with
          | (.error e, c) => .done (note (.error e) c.close)
          | (.ok records, c) => .done (note (ofRecords records) c.close)

/-- The primary key of a relation. -/
def primaryKey (c : Connector) (name : Catalog.RelationName) :
    Dialogue (Except Error String × Connector) :=
  c.discover name name.primaryKeyStatement (Catalog.keyOfRecords name)

/-- The fields of a relation, in the order of the catalog. -/
def fields (c : Connector) (name : Catalog.RelationName) :
    Dialogue (Except Error (List FieldInfo) × Connector) :=
  c.discover name name.fieldsStatement (Catalog.fieldsOfRecords name)

end Connector

end SqlppBench
