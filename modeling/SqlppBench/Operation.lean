import SqlppBench.Json.Decode

/-! # Operations

The five kinds of key-value operation that a workload is made of.
-/

namespace SqlppBench

/-- A kind of operation. -/
inductive Operation where
  /-- The lookup of one record by its key. -/
  | read
  /-- The lookup of a range of records in the order of their keys. -/
  | scan
  /-- The removal of one record by its key. -/
  | delete
  /-- The addition of a whole record. -/
  | insert
  /-- The replacement of some fields of a stored record. -/
  | update
deriving DecidableEq, Repr

namespace Operation

/-- All kinds, in the order in which reports list them. -/
def all : List Operation := [.read, .scan, .delete, .insert, .update]

/-- The name by which documents call an operation. -/
def name : Operation → String
  | .read => "read"
  | .scan => "scan"
  | .delete => "delete"
  | .insert => "insert"
  | .update => "update"

/-- The label under which statements are logged. -/
def label : Operation → String
  | .read => "READ"
  | .scan => "SCAN"
  | .delete => "DELETE"
  | .insert => "INSERT"
  | .update => "UPDATE"

/-- Whether the service answers with records. -/
def yieldsRecords : Operation → Bool
  | .read | .scan => true
  | _ => false

/-- Whether the operation may wait for others to be sent with it. -/
def isBatchable : Operation → Bool
  | .insert | .update => true
  | _ => false

theorem mem_all (o : Operation) : o ∈ all := by
  cases o <;> decide

/-- The names of all operations, with what they name. -/
def named : List (String × Operation) :=
  all.map fun o => (o.name, o)

/-- The operation with a name, whatever the case of its letters. No character outside of ASCII has
one of the letters of a name as its lower case. -/
def parse? (s : String) : Option Operation :=
  Members.get? (String.ofList (s.toList.map Char.toLower)) named

/-- What is said about a text that names no operation. -/
def unknownMessage (s : String) : String :=
  "Unknown operation: " ++ s

/-- Every operation is found under its name and under its label. -/
theorem parse?_name (o : Operation) : parse? o.name = some o := by
  cases o <;> decide +kernel

theorem parse?_label (o : Operation) : parse? o.label = some o := by
  cases o <;> decide +kernel

/-- Reads an operation from JSON text. -/
def reader : Json.Cursor → Json.Result Operation :=
  Json.variant named

/-- The operation that a JSON text names. -/
def ofJson (s : String) : Except Json.Error Operation :=
  Json.readAll reader s

end Operation

end SqlppBench
