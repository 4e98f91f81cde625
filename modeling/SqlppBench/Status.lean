import SqlppBench.Json.Decode

/-! # Statuses

What a workload driver is told about one operation.
-/

namespace SqlppBench

/-- How an operation ended. -/
inductive Status where
  /-- It was carried out. -/
  | ok
  /-- It waits in a buffer and is to be carried out with others. -/
  | batchedOk
  /-- It failed. -/
  | error
deriving DecidableEq, Repr

namespace Status

/-- All statuses. -/
def all : List Status := [.ok, .batchedOk, .error]

/-- The name by which documents call a status. -/
def name : Status → String
  | .ok => "ok"
  | .batchedOk => "batched_ok"
  | .error => "error"

/-- The text that is printed for a status. -/
def label : Status → String
  | .ok => "OK"
  | .batchedOk => "BATCHED_OK"
  | .error => "ERROR"

/-- Whether the operation did not fail. -/
def isOk : Status → Bool
  | .error => false
  | _ => true

/-- The names of all statuses, with what they name. -/
def named : List (String × Status) :=
  all.map fun s => (s.name, s)

/-- Reads a status from JSON text. -/
def reader : Json.Cursor → Json.Result Status :=
  Json.variant named

/-- The status that a JSON text names. -/
def ofJson (s : String) : Except Json.Error Status :=
  Json.readAll reader s

end Status

end SqlppBench
