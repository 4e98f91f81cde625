import SqlppBench.Config.Basic
import SqlppBench.Dialogue
import SqlppBench.Error

/-! # Feed writers

A feed takes records one per line, over a connection that stays open. After a failed write the
connection is replaced; the record that failed is not written again.
-/

namespace SqlppBench

/-- A connection to a feed. There is none after an attempt to replace it has failed. -/
structure FeedWriter where
  config : FeedConfig
  connection : Option ConnectionId
deriving DecidableEq, Repr

namespace FeedWriter

/-- What is said when no connection can be opened. -/
def connectFailure (f : FeedConfig) (reason : String) : Error :=
  .feed ("Failed to connect to " ++ f.address ++ ": " ++ reason)

/-- What is said when a record cannot be written. -/
def writeFailure (f : FeedConfig) (reason : String) : Error :=
  .feed ("Failed to write to " ++ f.address ++ ": " ++ reason)

/-- Opens a connection. -/
def connect (f : FeedConfig) : Dialogue (Except Error FeedWriter) :=
  .perform (.connect f.host f.port) fun
    | .ok id => .done (.ok ⟨f, some id⟩)
    | .error reason => .done (.error (connectFailure f reason))

/-- Writes a record with a line feed behind it, at once. -/
def write (w : FeedWriter) (record : String) : Dialogue (Except Error Unit) :=
  match w.connection with
  | none => .done (.error (.feed "Feed connection is closed"))
  | some id =>
    .perform (.write id (record ++ "\n")) fun
      | .ok () => .done (.ok ())
      | .error reason => .done (.error (writeFailure w.config reason))

/-- Tries to put a new connection in the place of the old one. -/
def reconnect (w : FeedWriter) : Dialogue FeedWriter :=
  .perform (.connect w.config.host w.config.port) fun
    | .ok id => .done { w with connection := some id }
    | .error _ => .done { w with connection := none }

/-- Writes a record; after a failure, the next one may go over a new connection. -/
def writeOrReconnect (w : FeedWriter) (record : String) :
    Dialogue (Except Error Unit × FeedWriter) :=
  (w.write record).bind fun
    | .ok () => .done (.ok (), w)
    | .error e => w.reconnect.bind fun w => .done (.error e, w)

/-- Closes the connection, if there is one. -/
def close (w : FeedWriter) : Dialogue (Except Error Unit) :=
  match w.connection with
  | none => .done (.ok ())
  | some id =>
    .perform (.close id) fun
      | .ok () => .done (.ok ())
      | .error reason => .done (.error (.io reason))

end FeedWriter

end SqlppBench
