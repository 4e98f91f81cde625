import SqlppBench.Executor
import SqlppBench.Summary

/-! # Loading a relation

A load inserts a range of generated records through several clients at once, each with a session of
its own. The clients take the records in turn, so that no two of them insert the same one.
-/

namespace SqlppBench

/-- What to load. -/
structure Load where
  /-- The number of records. -/
  records : Nat := 1000
  /-- The number of clients. -/
  clients : Nat := 1
  /-- The number of bytes in each field. -/
  fieldLength : Nat := 100
  /-- How the keys begin. -/
  keyPrefix : String := "user"
deriving DecidableEq, Repr

/-- The generated contents of a field, given the key of the record and the name of the field. -/
abbrev Payload := String → String → Bytes

namespace Load

/-- The key of a record. -/
def key (l : Load) (n : Nat) : String :=
  l.keyPrefix ++ Text.decimal n

/-- How many records a client inserts. -/
def share (l : Load) (client : Nat) : Nat :=
  (l.records - client + l.clients - 1) / l.clients

/-- The numbers of the records that a client inserts: its own number, and from there every number
at a distance of the number of clients. -/
def clientNumbers (l : Load) (client : Nat) : List Nat :=
  (List.range (l.share client)).map fun i => client + i * l.clients

/-- The keys of the records that a client inserts. -/
def clientKeys (l : Load) (client : Nat) : List String :=
  (l.clientNumbers client).map l.key

/-- The contents of a record. -/
def values (payload : Payload) (fields : List String) (key : String) : FieldValues :=
  .ofList (fields.map fun field => (field, payload key field))

/-- Inserts records one by one, and counts how each insert ended. -/
def insertAll (payload : Payload) (e : Executor) (summary : RunSummary) :
    List String → Dialogue (Executor × RunSummary)
  | [] => .done (e, summary)
  | key :: keys =>
    (e.insert key (values payload e.schema.fields key)).bind fun (result, e) =>
      insertAll payload e (summary.record .insert (.ofWrite result)) keys

/-- The session of one client. A failure at its end counts as a failed insert. -/
def session [Url.Idna] (l : Load) (config : ClientConfig) (payload : Payload) (client : Nat) :
    Dialogue (Except Error RunSummary) :=
  (Executor.connect config).bind fun
    | .error fault => .done (.error fault)
    | .ok e =>
      (insertAll payload e .forClient (l.clientKeys client)).bind fun (e, summary) =>
        e.shutdown.bind fun
          | .ok () => .done (.ok summary)
          | .error _ => .done (.ok (summary.record .insert .error))

/-- The sessions of all clients. -/
def sessions [Url.Idna] (l : Load) (config : ClientConfig) (payload : Payload) :
    List (Dialogue (Except Error RunSummary)) :=
  (List.range l.clients).map (l.session config payload)

/-- All clients together, or the failure of the first that could not connect. -/
def mergeAll : List (Except Error RunSummary) → RunSummary → Except Error RunSummary
  | [], summary => .ok summary
  | .error fault :: _, _ => .error fault
  | .ok client :: rest, summary => mergeAll rest (summary.merge client)

/-- The report on a load that took so many milliseconds. -/
def report (elapsedMs : Nat) (clients : List (Except Error RunSummary)) : Except Error RunSummary :=
  (mergeAll clients {}).map fun summary => { summary with elapsedMs }

/-- A load needs at least one client. -/
def check (l : Load) : Except Error Unit :=
  if l.clients = 0 then .error (.validation "clients must be at least 1") else .ok ()

/-- Loads the records. The clients make their calls in the given turns. -/
def run [Url.Idna] (l : Load) (config : ClientConfig) (payload : Payload) (elapsedMs : Nat)
    (turns : List Nat) : Dialogue (Except Error RunSummary) :=
  match l.check with
  | .error fault => .done (.error fault)
  | .ok () =>
    (Dialogue.interleave turns (l.sessions config payload)).bind fun clients =>
      .done (report elapsedMs clients)

end Load

end SqlppBench
