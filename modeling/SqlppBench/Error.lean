import SqlppBench.Json.Error

/-! # Errors

Every failure belongs to a category, which fixes how the message begins and how grave the failure
is; the rest of the message is the cause. Modules that detect failures have cause types of their
own, and turn them into errors of the right category.
-/

namespace SqlppBench

/-- A failure of the client. -/
inductive Error where
  /-- A configuration that cannot be read. -/
  | config (cause : String)
  /-- A configuration that is not allowed. -/
  | validation (cause : String)
  /-- A service URL that is not usable. -/
  | invalidEndpoint (cause : String)
  /-- A failure of the feed connection. -/
  | feed (cause : String)
  /-- A failure to send a request or to read its answer. -/
  | transport (cause : String)
  /-- An answer with a status other than success. -/
  | protocol (cause : String)
  /-- A record that cannot be decoded. -/
  | decode (cause : String)
  /-- No record has the key. -/
  | notFound (key : String)
  /-- A statement was started while the results of another one were open. -/
  | statementInFlight
  /-- Results were asked for without an open statement. -/
  | noStatement
  /-- A catalog answer that cannot be used. -/
  | metadata (cause : String)
  /-- A primary key of several components. -/
  | compositePrimaryKey (cause : String)
  /-- A failure of the operating system. -/
  | io (cause : String)
  /-- A JSON text that cannot be read. -/
  | json (e : Json.Error)
  /-- A failure that should not happen. -/
  | internal (cause : String)

/-- How grave a failure is. -/
inductive ErrorKind where
  /-- Nothing can be done before the configuration is mended. -/
  | configuration
  /-- The connection failed; the connector stays usable. -/
  | transport
  /-- The service refused the statement. -/
  | protocol
  /-- An answer made no sense. -/
  | decode
  /-- The caller broke the order of statements. -/
  | discipline
deriving DecidableEq, Repr

/-- The name of a kind. -/
def ErrorKind.name : ErrorKind → String
  | .configuration => "configuration"
  | .transport => "transport"
  | .protocol => "protocol"
  | .decode => "decode"
  | .discipline => "discipline"

namespace Error

/-- The kind of a failure. -/
def kind : Error → ErrorKind
  | .config _ | .validation _ | .invalidEndpoint _ | .feed _ => .configuration
  | .transport _ | .io _ => .transport
  | .protocol _ => .protocol
  | .statementInFlight | .noStatement => .discipline
  | .decode _ | .notFound _ | .metadata _ | .compositePrimaryKey _ | .json _ | .internal _ =>
    .decode

/-- Whether no operation may go on after the failure. -/
def isFatal (e : Error) : Bool :=
  e.kind = .configuration

/-- The cause without the words of its category; for the two breaches of order, these words. -/
def cause : Error → String
  | .config c | .validation c | .invalidEndpoint c | .feed c | .transport c | .protocol c
  | .decode c | .notFound c | .metadata c | .compositePrimaryKey c | .io c | .internal c => c
  | .json e => e.message
  | .statementInFlight => "Another statement is running."
  | .noStatement => "No statement executed."

/-- The words with which the messages of a category begin. -/
def heading : Error → String
  | .config _ => "Configuration error: "
  | .validation _ => "Validation error: "
  | .invalidEndpoint _ => "Invalid endpoint: "
  | .feed _ => "Feed error: "
  | .transport _ => "Transport error: "
  | .protocol _ => "Query service error: "
  | .decode _ => "Decode error: "
  | .notFound _ => "Record not found: "
  | .metadata _ => "Metadata error: "
  | .compositePrimaryKey _ => "Composite primary key unsupported: "
  | .io _ => "IO error: "
  | .json _ => "JSON error: "
  | .internal _ => "Internal error: "
  | .statementInFlight | .noStatement => ""

/-- The whole message. -/
def message (e : Error) : String :=
  e.heading ++ e.cause

/-- A failure is fatal exactly when it is of the configuration kind. -/
theorem isFatal_iff (e : Error) : e.isFatal = true ↔ e.kind = .configuration := by
  simp [isFatal]

end Error

end SqlppBench
