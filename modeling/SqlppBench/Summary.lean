import SqlppBench.Json.Print
import SqlppBench.Operation
import SqlppBench.Status

/-! # Run summaries

How often each operation ended in which way, for one client or for several. Merging adds the
counters up, so that a summary does not depend on how the work was shared out.
-/

namespace SqlppBench

/-- How often an operation ended in each way. -/
structure OperationCounts where
  ok : Nat := 0
  batched : Nat := 0
  error : Nat := 0
deriving DecidableEq, Repr

namespace OperationCounts

/-- Counts one status. -/
def record (c : OperationCounts) : Status → OperationCounts
  | .ok => { c with ok := c.ok + 1 }
  | .batchedOk => { c with batched := c.batched + 1 }
  | .error => { c with error := c.error + 1 }

/-- The number of statuses that were counted. -/
def total (c : OperationCounts) : Nat :=
  c.ok + c.batched + c.error

/-- The counts of two clients together. -/
def merge (c d : OperationCounts) : OperationCounts :=
  ⟨c.ok + d.ok, c.batched + d.batched, c.error + d.error⟩

end OperationCounts

/-- The counts of the operations that occurred. -/
structure OperationTable where
  counts? : Operation → Option OperationCounts

namespace OperationTable

/-- No operation at all. -/
def empty : OperationTable := ⟨fun _ => none⟩

/-- Replaces the counts of one operation. -/
def set (t : OperationTable) (o : Operation) (c : OperationCounts) : OperationTable :=
  ⟨fun other => if other = o then some c else t.counts? other⟩

/-- Counts the status of one operation. -/
def record (t : OperationTable) (o : Operation) (s : Status) : OperationTable :=
  t.set o (((t.counts? o).getD {}).record s)

/-- The operations of two clients together. -/
def merge (t u : OperationTable) : OperationTable :=
  ⟨fun o =>
    match t.counts? o, u.counts? o with
    | c, none => c
    | none, some d => some d
    | some c, some d => some (c.merge d)⟩

/-- The operations that occurred, in the order of all operations. -/
def toList (t : OperationTable) : List (Operation × OperationCounts) :=
  Operation.all.filterMap fun o => (t.counts? o).map fun c => (o, c)

/-- The table with the entries of a list; of two for one operation the later one counts. -/
def ofList (entries : List (Operation × OperationCounts)) : OperationTable :=
  entries.foldl (fun t (o, c) => t.set o c) empty

end OperationTable

/-- What one client or several clients did. -/
structure RunSummary where
  clients : Nat := 0
  elapsedMs : Nat := 0
  operations : OperationTable := .empty

namespace RunSummary

/-- The summary of a client that has not done anything yet. -/
def forClient : RunSummary := { clients := 1 }

/-- Counts the status of one operation. -/
def record (s : RunSummary) (o : Operation) (status : Status) : RunSummary :=
  { s with operations := s.operations.record o status }

/-- Two summaries together: clients run side by side, so the longer time counts. -/
def merge (s t : RunSummary) : RunSummary :=
  ⟨s.clients + t.clients, max s.elapsedMs t.elapsedMs, s.operations.merge t.operations⟩

/-- The number of failed operations of all kinds. -/
def errors (s : RunSummary) : Nat :=
  (s.operations.toList.map fun (_, c) => c.error).foldr (· + ·) 0

/-! ## JSON form -/

/-- A natural number as a JSON value. -/
def natJson (n : Nat) : Json.Value := .number (.whole n)

/-- The counts as a JSON value. -/
def countsJson (c : OperationCounts) : Json.Value :=
  .object [("ok", natJson c.ok), ("batched", natJson c.batched), ("error", natJson c.error)]

/-- The summary as a JSON value. -/
def toJson (s : RunSummary) : Json.Value :=
  .object [("clients", natJson s.clients), ("elapsed_ms", natJson s.elapsedMs),
    ("operations", .object (s.operations.toList.map fun (o, c) => (o.name, countsJson c)))]

/-- Reads a counter. -/
def counter : Json.Cursor → Json.Result Nat := Json.natural (Nat.pow 2 64) "u64"

/-- What is known of counts while they are read. -/
structure CountsDraft where
  ok : Option Nat := none
  batched : Option Nat := none
  error : Option Nat := none

/-- How counts are read. -/
def countsReader : Json.RecordReader CountsDraft OperationCounts where
  name := "OperationCounts"
  empty := {}
  member := fun name d c =>
    if name = "ok" then Json.field name d.ok counter (fun n => { d with ok := some n }) c
    else if name = "batched" then
      Json.field name d.batched counter (fun n => { d with batched := some n }) c
    else if name = "error" then
      Json.field name d.error counter (fun n => { d with error := some n }) c
    else Json.ignored d c
  listed := fun c => do
    let (ok, c) ← Json.nextField counter true c
    let (batched, c) ← Json.nextField counter false c
    let (error, c) ← Json.nextField counter false c
    return (⟨ok, batched, error⟩, c)
  finish := fun d => do
    return ⟨← Json.required "ok" d.ok, ← Json.required "batched" d.batched,
      ← Json.required "error" d.error⟩
  finishListed := fun d => do
    return ⟨← Json.listedField "OperationCounts" 3 0 d.ok,
      ← Json.listedField "OperationCounts" 3 1 d.batched,
      ← Json.listedField "OperationCounts" 3 2 d.error⟩

/-- Reads an object whose members are named after operations. -/
def tableReader (c : Json.Cursor) : Json.Result OperationTable :=
  let c := c.skipSpaces
  match c.rest with
  | '\x7b' :: _ => entries true .empty (c.skip 1) c.steps
  | _ => Json.unexpected "a map" c
where
  /-- Reads the members of such an object and its closing brace. -/
  entries (first : Bool) (t : OperationTable) (c : Json.Cursor) : Nat → Json.Result OperationTable
    | 0 => c.fail .endInObject
    | steps + 1 =>
      match Json.nextMember first c with
      | .error e => .error e
      | .ok none => .ok (t, c.skipSpaces.skip 1)
      | .ok (some c) =>
        match Operation.reader c with
        | .error e => .error e
        | .ok (o, c) =>
          match Json.colon c with
          | .error e => .error e
          | .ok c =>
            match Json.record countsReader c with
            | .error e => .error e
            | .ok (counts, c) => entries false (t.set o counts) c steps

/-- What is known of a summary while it is read. -/
structure Draft where
  clients : Option Nat := none
  elapsedMs : Option Nat := none
  operations : Option OperationTable := none

/-- How a summary is read; without operations, none occurred. -/
def reader : Json.RecordReader Draft RunSummary where
  name := "RunSummary"
  empty := {}
  member := fun name d c =>
    if name = "clients" then
      Json.field name d.clients clientCounter (fun n => { d with clients := some n }) c
    else if name = "elapsed_ms" then
      Json.field name d.elapsedMs counter (fun n => { d with elapsedMs := some n }) c
    else if name = "operations" then
      Json.field name d.operations tableReader (fun t => { d with operations := some t }) c
    else Json.ignored d c
  listed := fun c => do
    let (clients, c) ← Json.nextField clientCounter true c
    let (elapsedMs, c) ← Json.nextField counter false c
    let (operations, c) ← Json.nextField tableReader false c
    return (⟨clients, elapsedMs, operations⟩, c)
  finish := fun d => do
    return ⟨← Json.required "clients" d.clients, ← Json.required "elapsed_ms" d.elapsedMs,
      d.operations.getD .empty⟩
  finishListed := fun d => do
    return ⟨← Json.listedField "RunSummary" 3 0 d.clients,
      ← Json.listedField "RunSummary" 3 1 d.elapsedMs, d.operations.getD .empty⟩
where
  /-- Reads a number of clients. -/
  clientCounter : Json.Cursor → Json.Result Nat := Json.natural (Nat.pow 2 32) "u32"

/-- The summary that a JSON text describes. -/
def ofJson (s : String) : Except Json.Error RunSummary :=
  Json.readAll (Json.record reader) s

end RunSummary

end SqlppBench
