import SqlppBench.Command.Basic

/-! # Carrying out commands

Each command is a session of its own. A command that reads prints its records once the session is
closed without a failure. A command that writes prints the status of its write first, and then fails
if the write or the end of the session does, in this order.
-/

namespace SqlppBench

namespace Command

/-- Prints a line. -/
def print (line : String) : Dialogue Unit :=
  .ask (.print line)

/-- The field values that are given as texts. -/
def fieldValues (values : List (String × String)) : FieldValues :=
  .ofList (values.map fun (field, v) => (field, Utf8.encode v))

/-- A record for printing: the field values as texts. -/
def recordJson (values : FieldValues) : Json.Value :=
  .object (values.members.map fun (field, v) => (field, .string (Utf8.decodeLossy v)))

/-- Prints a schema. -/
def printSchema (json : Bool) (schema : TableSchema) : Dialogue Unit :=
  if json then print schema.toJson.pretty
  else
    (print ("primary key: " ++ schema.primaryKey)).bind fun _ =>
      print ("fields:      " ++ ", ".intercalate schema.fields)

/-- Runs a session that `connect`ed, or fails as it did. -/
def session [Url.Idna] {α : Type} (config : ClientConfig)
    (d : Executor → Dialogue (Except Error α)) : Dialogue (Except Error α) :=
  (Executor.connect config).bind fun
    | .error e => .done (.error e)
    | .ok executor => d executor

/-- Closes a session that has read something, and prints that. -/
def finishRead {α : Type} (show' : α → Json.Value) (read : Except Error α × Executor) :
    Dialogue (Except Error Unit) :=
  read.2.shutdown.bind fun
    | .error e => .done (.error e)
    | .ok () =>
      match read.1 with
      | .error e => .done (.error e)
      | .ok a => (print (show' a).pretty).bind fun _ => .done (.ok ())

/-- Prints the status of a write, and closes the session. -/
def finishWrite (write : Except Error Outcome × Executor) : Dialogue (Except Error Unit) :=
  (print (Status.ofWrite write.1).label).bind fun _ =>
    write.2.shutdown.bind fun closed =>
      .done (match write.1 with
        | .error e => .error e
        | .ok _ => closed)

/-- Carries out a load, with the given contents of the records, time and turns of the clients. -/
def runLoad [Url.Idna] (l : Load) (config : ClientConfig) (payload : Payload) (elapsedMs : Nat)
    (turns : List Nat) : Dialogue (Except Error Unit) :=
  (l.run config payload elapsedMs turns).bind fun
    | .error e => .done (.error e)
    | .ok summary => (print summary.toJson.pretty).bind fun _ => .done (.ok ())

/-- Carries out a command. -/
def run [Url.Idna] (c : Command) (config : ClientConfig) (payload : Payload) (elapsedMs : Nat)
    (turns : List Nat) : Dialogue (Except Error Unit) :=
  match c with
  | .schema json =>
    session config fun e => e.shutdown.bind fun
      | .error fault => .done (.error fault)
      | .ok () => (printSchema json e.schema).bind fun _ => .done (.ok ())
  | .read key fields => session config fun e => (e.read key fields).bind (finishRead recordJson)
  | .scan start count fields =>
    session config fun e =>
      (e.scan start count fields).bind (finishRead fun records => .array (records.map recordJson))
  | .insert key values =>
    session config fun e => (e.insert key (fieldValues values)).bind finishWrite
  | .update key values =>
    session config fun e => (e.update key (fieldValues values)).bind finishWrite
  | .delete key =>
    session config fun e => (e.delete key).bind fun (r, e) => finishWrite (Executor.committed r, e)
  | .load l => runLoad l config payload elapsedMs turns

end Command

end SqlppBench
