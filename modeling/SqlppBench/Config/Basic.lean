import SqlppBench.Text.Numeral

/-! # Configurations

What a client has to know: the service, the relation, how writes are batched, and the feed that
takes the inserts, if there is one. -/

namespace SqlppBench

/-- Where a socket feed listens. -/
structure FeedConfig where
  host : String
  port : Nat
deriving DecidableEq, Repr

/-- The host and the port. -/
def FeedConfig.address (f : FeedConfig) : String :=
  f.host ++ ":" ++ Text.decimal f.port

/-- The configuration of a client. -/
structure ClientConfig where
  /-- The URL that statements are posted to. -/
  url : String := "http://localhost:19002/query/service"
  /-- The namespace of the relation. -/
  scope : String := "ycsb"
  /-- The relation that operations are about. -/
  relation : String := "usertable"
  /-- How many inserts go into one statement. -/
  batchInserts : Nat := 1
  /-- How many updates go into one statement. -/
  batchUpdates : Nat := 1
  /-- Whether an insert may replace a record. -/
  upsert : Bool := false
  /-- The feed that takes the inserts, instead of statements. -/
  feed : Option FeedConfig := none
  /-- Whether statements are logged. -/
  printStatements : Bool := false
deriving DecidableEq, Repr

namespace ClientConfig

/-- Whether inserts wait for others. -/
def batchesInserts (c : ClientConfig) : Bool :=
  c.batchInserts > 1

/-- Whether updates wait for others. -/
def batchesUpdates (c : ClientConfig) : Bool :=
  c.batchUpdates > 1

/-- The keyword of inserts. -/
def insertKeyword (c : ClientConfig) : String :=
  if c.upsert then "UPSERT" else "INSERT"

end ClientConfig

/-- The bound of batch sizes. -/
def batchBound : Nat := Nat.pow 2 64

/-- The bound of port numbers. -/
def portBound : Nat := Nat.pow 2 16

end SqlppBench
