import SqlppBench.Config.Basic
import SqlppBench.Endpoint

/-! # Allowed configurations

The checks that a configuration has to pass before anything is done with it. The names of the scope
and of the relation stand bare in statements, so they have to be plain identifiers.
-/

namespace SqlppBench

/-- A letter, or letters, digits and underscores between a letter and a letter or digit. All of
them are of ASCII. -/
def isValidName (name : String) : Bool :=
  match name.toList with
  | [] => false
  | c :: rest =>
    c.isAlpha && rest.all (fun c => c.isAlphanum || c == '_') &&
      (rest.getLast?.all fun c => c != '_')

/-- Why a configuration is not allowed. -/
inductive ConfigFault where
  | endpoint (e : Error)
  | emptyName (what : String)
  | badName (what name : String)
  | zeroBatch (what : String)
  | emptyFeedHost
  | badFeed (feed : FeedConfig)

namespace ConfigFault

/-- The fault as an error. -/
def toError : ConfigFault → Error
  | .endpoint e => e
  | .emptyName what => .validation (what ++ " cannot be empty")
  | .badName what name => .validation ("Invalid " ++ what ++ " \"" ++ name ++ "\"")
  | .zeroBatch what => .validation (what ++ " must be at least 1")
  | .emptyFeedHost => .validation "Feed host cannot be empty"
  | .badFeed feed =>
    .validation ("Invalid hostname \"" ++ feed.host ++ "\" or invalid port " ++
      Text.decimal feed.port)

end ConfigFault

/-- Checks the name of a scope or a relation. -/
def checkName (what name : String) : Except ConfigFault Unit :=
  if name.isEmpty then .error (.emptyName what)
  else if isValidName name then .ok ()
  else .error (.badName what name)

/-- Checks a batch size. -/
def checkBatch (what : String) (size : Nat) : Except ConfigFault Unit :=
  if size = 0 then .error (.zeroBatch what) else .ok ()

/-- The URL by which the host and the port of a feed are checked. -/
def FeedConfig.url (f : FeedConfig) : String :=
  "http://" ++ f.host ++ ":" ++ Text.decimal f.port ++ "/"

/-- Checks a feed: its host and its port must make up a URL. -/
def FeedConfig.check [Url.Idna] (f : FeedConfig) : Except ConfigFault Unit :=
  if f.host.isEmpty then .error .emptyFeedHost
  else
    match Endpoint.parse f.url with
    | .ok _ => .ok ()
    | .error _ => .error (.badFeed f)

namespace ClientConfig

/-- The first fault of a configuration. -/
def check [Url.Idna] (c : ClientConfig) : Except ConfigFault Unit := do
  let _ ← (Endpoint.parse c.url).mapError .endpoint
  checkName "scope" c.scope
  checkName "relation" c.relation
  checkBatch "batch_inserts" c.batchInserts
  checkBatch "batch_updates" c.batchUpdates
  match c.feed with
  | some feed => feed.check
  | none => .ok ()

/-- Whether a configuration is allowed, and if not, why. -/
def validate [Url.Idna] (c : ClientConfig) : Except Error Unit :=
  c.check.mapError ConfigFault.toError

end ClientConfig

end SqlppBench
