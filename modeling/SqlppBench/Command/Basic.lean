import SqlppBench.Command.Arguments
import SqlppBench.Config.File
import SqlppBench.Load

/-! # Commands

What the arguments of a command line ask for. A member of the configuration that is given as a
switch counts instead of what the configuration file says. The file is checked as it stands, and the
configuration is checked again with the switches. -/

namespace SqlppBench

/-- A command with its arguments. -/
inductive Command where
  | schema (json : Bool)
  | read (key : String) (fields : Option (List String))
  | scan (start : String) (count : Nat) (fields : Option (List String))
  | insert (key : String) (values : List (String × String))
  | update (key : String) (values : List (String × String))
  | delete (key : String)
  | load (l : Load)
deriving DecidableEq, Repr

/-- Members of a configuration that are given as switches. -/
structure Overrides where
  url : Option String := none
  scope : Option String := none
  relation : Option String := none
  batchInserts : Option Nat := none
  batchUpdates : Option Nat := none
  upsert : Bool := false
  printStatements : Bool := false
deriving DecidableEq, Repr

/-- The configuration with the members that are given. Switches without values can only be added. -/
def Overrides.apply (o : Overrides) (c : ClientConfig) : ClientConfig :=
  { c with
    url := o.url.getD c.url
    scope := o.scope.getD c.scope
    relation := o.relation.getD c.relation
    batchInserts := o.batchInserts.getD c.batchInserts
    batchUpdates := o.batchUpdates.getD c.batchUpdates
    upsert := c.upsert || o.upsert
    printStatements := c.printStatements || o.printStatements }

/-- What a command line asks for. -/
structure Invocation where
  /-- The path of the configuration file. -/
  path : String
  /-- Whether to report more than usual on the way. -/
  verbose : Bool
  /-- Whether to report in JSON. -/
  logJson : Bool
  overrides : Overrides
  command : Command
deriving DecidableEq, Repr

/-- The path of the configuration file, unless another one is given. -/
def usualPath : String := "asterbench.yaml"

namespace CommandLine

/-- The number that a switch is given, read by `number?`. -/
def numberOf? (l : CommandLine) (number? : String → Option Nat) (s : Switch) : Option Nat :=
  (l.value? s).bind number?

/-- The first word at a place. -/
def word (l : CommandLine) (p : Place) : Except UsageFault String :=
  match (l.behind.wordsAt p).head? with
  | some w => .ok w
  | none => .error .missingArgument

/-- The fields that are asked for, if they are named. -/
def fields? (l : CommandLine) : Option (List String) :=
  if l.has .fields then some (l.behind.valuesOf .fields) else none

/-- The fields and their values. -/
def assignments (l : CommandLine) : List (String × String) :=
  (l.behind.wordsAt .assignments).filterMap assignment?

/-- The load that is asked for. -/
def load (l : CommandLine) : Load :=
  let usual : Load := {}
  { records := (l.numberOf? count? .records).getD usual.records
    clients := (l.numberOf? smallCount? .clients).getD usual.clients
    fieldLength := (l.numberOf? count? .fieldLength).getD usual.fieldLength
    keyPrefix := (l.value? .keyPrefix).getD usual.keyPrefix }

/-- The command with its arguments. -/
def toCommand (l : CommandLine) : Except UsageFault Command := do
  match l.command with
  | .schema => return .schema (l.has .json)
  | .read => return .read (← l.word .key) l.fields?
  | .scan =>
    let start ← l.word .start
    let count ← l.word .count
    match count? count with
    | some n => return .scan start n l.fields?
    | none => throw (.badValue count)
  | .insert => return .insert (← l.word .key) l.assignments
  | .update => return .update (← l.word .key) l.assignments
  | .delete => return .delete (← l.word .key)
  | .load => return .load l.load

/-- The members of the configuration that are given. -/
def overrides (l : CommandLine) : Overrides where
  url := l.value? .url
  scope := l.value? .scope
  relation := l.value? .relation
  batchInserts := l.numberOf? count? .batchInserts
  batchUpdates := l.numberOf? count? .batchUpdates
  upsert := l.has .upsert
  printStatements := l.has .printStatements

/-- The path of the configuration file. The switch for the configuration counts before the one for
the file. -/
def path (l : CommandLine) : String :=
  ((l.value? .config) <|> (l.value? .file)).getD usualPath

end CommandLine

namespace Invocation

/-- What the arguments ask for. -/
def ofArguments (arguments : List String) : Except UsageFault Invocation := do
  let l ← CommandLine.read arguments
  return ⟨l.path, l.has .verbose, l.has .logJson, l.overrides, ← l.toCommand⟩

/-- What is printed where the version is asked for. -/
def versionText : String := "asterbench 0.3.0\n"

/-- What is said about the failure of a command. -/
def errorLine (e : Error) : String :=
  "Error: " ++ e.message

/-- The exit code of a command that failed. -/
def failureCode : Nat := 1

/-- The configuration for the command. -/
def config [Url.Idna] (i : Invocation) (s : Setting) : Except Error ClientConfig := do
  let c := i.overrides.apply (← ClientConfig.ofFileOrUsual s i.path)
  c.validate
  return c

end Invocation

end SqlppBench
