import SqlppBench.Config.Basic
import SqlppBench.Json.Value
import SqlppBench.Mismatch

/-! # Members of a configuration

A configuration is written as members under their names, in any notation. The names, what each may
be called besides, and what a missing member means are the same for all notations. -/

namespace SqlppBench

/-- A member of a configuration. -/
inductive ConfigMember where
  | url
  | scope
  | relation
  | batchInserts
  | batchUpdates
  | upsert
  | feed
  | printStatements
deriving DecidableEq, Repr

namespace ConfigMember

/-- All members, in the order in which they are written. -/
def all : List ConfigMember :=
  [.url, .scope, .relation, .batchInserts, .batchUpdates, .upsert, .feed, .printStatements]

/-- The name under which a member is written. -/
def name : ConfigMember → String
  | .url => "url"
  | .scope => "scope"
  | .relation => "relation"
  | .batchInserts => "batch_inserts"
  | .batchUpdates => "batch_updates"
  | .upsert => "upsert"
  | .feed => "feed"
  | .printStatements => "print_statements"

/-- All names that a member may have. -/
def names : ConfigMember → List String
  | .scope => ["dataverse", "scope"]
  | .relation => ["dataset", "relation", "table"]
  | m => [m.name]

/-- The names of all members, with what they name. -/
def named : List (String × ConfigMember) :=
  all.flatMap fun m => m.names.map fun n => (n, m)

theorem name_mem_names (m : ConfigMember) : m.name ∈ m.names := by
  cases m <;> decide

/-- The member of a name. -/
def ofName (n : String) : Except Mismatch ConfigMember :=
  match Members.get? n named with
  | some m => .ok m
  | none => .error (.unknownField n (named.map Prod.fst))

end ConfigMember

/-- What is known of a configuration while it is read. -/
structure ConfigDraft where
  url : Option String := none
  scope : Option String := none
  relation : Option String := none
  batchInserts : Option Nat := none
  batchUpdates : Option Nat := none
  upsert : Option Bool := none
  feed : Option (Option FeedConfig) := none
  printStatements : Option Bool := none

namespace ConfigDraft

/-- Whether a member has been read. -/
def has (d : ConfigDraft) : ConfigMember → Bool
  | .url => d.url.isSome
  | .scope => d.scope.isSome
  | .relation => d.relation.isSome
  | .batchInserts => d.batchInserts.isSome
  | .batchUpdates => d.batchUpdates.isSome
  | .upsert => d.upsert.isSome
  | .feed => d.feed.isSome
  | .printStatements => d.printStatements.isSome

/-- The configuration with the members that were read, and the usual values of the others. -/
def finish (d : ConfigDraft) : ClientConfig :=
  let usual : ClientConfig := {}
  { url := d.url.getD usual.url
    scope := d.scope.getD usual.scope
    relation := d.relation.getD usual.relation
    batchInserts := d.batchInserts.getD usual.batchInserts
    batchUpdates := d.batchUpdates.getD usual.batchUpdates
    upsert := d.upsert.getD usual.upsert
    feed := d.feed.getD usual.feed
    printStatements := d.printStatements.getD usual.printStatements }

end ConfigDraft

/-! ## Feeds -/

/-- A member of a feed. -/
inductive FeedMember where
  | host
  | port
deriving DecidableEq, Repr

namespace FeedMember

/-- The name of a member. -/
def name : FeedMember → String
  | .host => "host"
  | .port => "port"

/-- The names of both members, with what they name. -/
def named : List (String × FeedMember) :=
  [.host, .port].map fun m => (name m, m)

/-- The member of a name. -/
def ofName (n : String) : Except Mismatch FeedMember :=
  match Members.get? n named with
  | some m => .ok m
  | none => .error (.unknownField n (named.map Prod.fst))

end FeedMember

/-- What is known of a feed while it is read. -/
structure FeedDraft where
  host : Option String := none
  port : Option Nat := none

namespace FeedDraft

/-- The feed, which needs both members. -/
def finish (d : FeedDraft) : Except Mismatch FeedConfig :=
  match d.host, d.port with
  | none, _ => .error (.missingField FeedMember.host.name)
  | _, none => .error (.missingField FeedMember.port.name)
  | some host, some port => .ok ⟨host, port⟩

end FeedDraft

end SqlppBench
