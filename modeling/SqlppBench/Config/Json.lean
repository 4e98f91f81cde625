import SqlppBench.Config.Member
import SqlppBench.Json.Decode
import SqlppBench.Json.Print

/-! # Configurations as JSON

A configuration and its feed as objects, or as lists of their members.
-/

namespace SqlppBench

namespace FeedConfig

/-- The feed as a JSON value. -/
def toJson (f : FeedConfig) : Json.Value :=
  .object [(FeedMember.host.name, .string f.host), (FeedMember.port.name, .number (.whole f.port))]

/-- Reads a port. -/
def portReader : Json.Cursor → Json.Result Nat := Json.natural portBound "u16"

/-- Reads the value of a member. -/
def member (name : String) (d : FeedDraft) (c : Json.Cursor) :
    Except Json.Error (FeedDraft × Json.Cursor) :=
  match FeedMember.ofName name with
  | .error m => Json.objectFault m c
  | .ok .host => Json.field "host" d.host Json.anyText (fun a => { d with host := some a }) c
  | .ok .port => Json.field "port" d.port portReader (fun a => { d with port := some a }) c

/-- How a feed is read. -/
def reader : Json.RecordReader FeedDraft FeedConfig where
  name := "FeedConfig"
  empty := {}
  member := member
  listed := fun c => do
    let (host, c) ← Json.nextField Json.anyText true c
    let (port, c) ← Json.nextField portReader false c
    return (⟨host, port⟩, c)
  finish := FeedDraft.finish
  finishListed := fun d => do
    return ⟨← Json.listedField "FeedConfig" 2 0 d.host, ← Json.listedField "FeedConfig" 2 1 d.port⟩

end FeedConfig

namespace ClientConfig

/-- The configuration as a JSON value. Without a feed there is no member for it. -/
def toJson (c : ClientConfig) : Json.Value :=
  let feed := match c.feed with
    | some f => [("feed", f.toJson)]
    | none => []
  .object <|
    [("url", .string c.url), ("scope", .string c.scope), ("relation", .string c.relation),
      ("batch_inserts", .number (.whole c.batchInserts)),
      ("batch_updates", .number (.whole c.batchUpdates)), ("upsert", .bool c.upsert)] ++
    feed ++ [("print_statements", .bool c.printStatements)]

/-- Reads a batch size. -/
def batchSize : Json.Cursor → Json.Result Nat := Json.natural batchBound "u64"

/-- Reads a feed or its absence. -/
def feedReader : Json.Cursor → Json.Result (Option FeedConfig) :=
  Json.optional (Json.record FeedConfig.reader)

/-- Reads the value of a member. -/
def member (name : String) (d : ConfigDraft) (c : Json.Cursor) :
    Except Json.Error (ConfigDraft × Json.Cursor) :=
  match ConfigMember.ofName name with
  | .error m => Json.objectFault m c
  | .ok m =>
    let name := m.name
    match m with
    | .url => Json.field name d.url Json.anyText (fun a => { d with url := some a }) c
    | .scope => Json.field name d.scope Json.anyText (fun a => { d with scope := some a }) c
    | .relation =>
      Json.field name d.relation Json.anyText (fun a => { d with relation := some a }) c
    | .batchInserts =>
      Json.field name d.batchInserts batchSize (fun a => { d with batchInserts := some a }) c
    | .batchUpdates =>
      Json.field name d.batchUpdates batchSize (fun a => { d with batchUpdates := some a }) c
    | .upsert => Json.field name d.upsert Json.flag (fun a => { d with upsert := some a }) c
    | .feed => Json.field name d.feed feedReader (fun a => { d with feed := some a }) c
    | .printStatements =>
      Json.field name d.printStatements Json.flag (fun a => { d with printStatements := some a }) c

/-- How a configuration is read. -/
def reader : Json.RecordReader ConfigDraft ClientConfig where
  name := "ClientConfig"
  empty := {}
  member := member
  listed := fun c => do
    let (url, c) ← Json.nextField Json.anyText true c
    let (scope, c) ← Json.nextField Json.anyText false c
    let (relation, c) ← Json.nextField Json.anyText false c
    let (batchInserts, c) ← Json.nextField batchSize false c
    let (batchUpdates, c) ← Json.nextField batchSize false c
    let (upsert, c) ← Json.nextField Json.flag false c
    let (feed, c) ← Json.nextField feedReader false c
    let (printStatements, c) ← Json.nextField Json.flag false c
    return (⟨url, scope, relation, batchInserts, batchUpdates, upsert, feed, printStatements⟩, c)
  finish := fun d => .ok d.finish
  finishListed := fun d => .ok d.finish

/-- The configuration that a JSON text describes. -/
def ofJson (s : String) : Except Json.Error ClientConfig :=
  Json.readAll (Json.record reader) s

end ClientConfig

end SqlppBench
