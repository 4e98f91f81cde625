import SqlppBench.Config.Yaml
import SqlppBench.Text.Blank
import SqlppBench.Yaml.Print

/-! # Configurations as properties

A flat mapping with dotted names. Numbers and truth values may be strings, with blanks around them;
what is neither a string nor another scalar counts as its own text.
-/

namespace SqlppBench

/-- A property of a client. -/
inductive Property where
  | url
  | dataverse
  | table
  | batchInserts
  | batchUpdates
  | upsertEnabled
  | feedEnabled
  | feedHost
  | feedPort
  | printStatements
deriving DecidableEq, Repr

namespace Property

/-- All properties. -/
def all : List Property :=
  [.url, .dataverse, .table, .batchInserts, .batchUpdates, .upsertEnabled, .feedEnabled, .feedHost,
    .feedPort, .printStatements]

/-- The name of a property. -/
def name : Property → String
  | .url => "db.url"
  | .dataverse => "db.dataverse"
  | .table => "table"
  | .batchInserts => "db.batchinserts"
  | .batchUpdates => "db.batchupdates"
  | .upsertEnabled => "db.upsertenabled"
  | .feedEnabled => "db.feedenabled"
  | .feedHost => "db.feedhost"
  | .feedPort => "db.feedport"
  | .printStatements => "printcmd"

theorem mem_all (p : Property) : p ∈ all := by
  cases p <;> decide

/-- The property of a name. -/
def ofName (n : String) : Except Mismatch Property :=
  match Members.get? n (all.map fun p => (p.name, p)) with
  | some p => .ok p
  | none => .error (.unknownField n (all.map name))

/-- Whether only a mapping of properties can have the name as a key. -/
def isMark (name : String) : Bool :=
  name.startsWith "db." || name == Property.printStatements.name

end Property

/-- Why properties do not make up a configuration. -/
inductive PropertyFault where
  | shape (m : Mismatch)
  | badValue (p : Property) (text : String)
  | noFeedPort

/-- The fault as an error. -/
def PropertyFault.toError : PropertyFault → Error
  | .shape m => Yaml.documentError (m.message Yaml.wording)
  | .badValue p text => .config ("Invalid value for " ++ p.name ++ ": '" ++ text ++ "'")
  | .noFeedPort => .config (Property.feedPort.name ++ " is required when " ++
      Property.feedEnabled.name ++ " is true")

/-- What properties are given. -/
abbrev Properties := List (Property × Yaml.Value)

namespace Properties

/-- Adds a property, which must not have been given before. -/
def add (name : String) (given : Properties) (v : Yaml.Value) : Except Mismatch Properties := do
  let p ← Property.ofName name
  if (given.lookup p).isSome then throw (.duplicateField p.name)
  return given ++ [(p, v)]

/-- The properties that a YAML value gives. -/
def ofYaml (v : Yaml.Value) : Except Mismatch Properties := do
  Yaml.gather add [] (← Yaml.entries "struct PropertiesConfig" v)

/-- The text of a value; null has none. -/
def valueText? : Yaml.Value → Option String
  | .null => none
  | .bool b => some (toString b)
  | .number n => some (Yaml.Value.numberText n)
  | .string s => some s
  | v => v.text?.map Text.trim

/-- The text of a property. -/
def text? (given : Properties) (p : Property) : Option String :=
  (given.lookup p).bind valueText?

/-- What the text of a property stands for, without the blanks around it. -/
def parse? {α : Type} (given : Properties) (p : Property) (read : List Char → Option α) :
    Except PropertyFault (Option α) :=
  match given.text? p with
  | none => .ok none
  | some text =>
    match read (Text.trimChars text.toList) with
    | some a => .ok (some a)
    | none => .error (.badValue p text)

/-- Reads a word for a truth value. -/
def readFlag (s : List Char) : Option Bool :=
  if s == "true".toList then some true else if s == "false".toList then some false else none

/-- A truth value, which is false unless it is given. -/
def flag (given : Properties) (p : Property) : Except PropertyFault Bool :=
  (given.parse? p readFlag).map fun b => b.getD false

/-- The feed, if there is one. -/
def feed (given : Properties) : Except PropertyFault (Option FeedConfig) := do
  if ← given.flag .feedEnabled then
    match ← given.parse? .feedPort (Text.unsigned? 10 portBound) with
    | some port => return some ⟨(given.text? .feedHost).getD "", port⟩
    | none => throw .noFeedPort
  else return none

/-- The configuration with these properties, and the usual values of the others. -/
def toConfig (given : Properties) : Except PropertyFault ClientConfig := do
  let usual : ClientConfig := {}
  let feed ← given.feed
  let inserts ← given.parse? .batchInserts (Text.unsigned? 10 batchBound)
  let updates ← given.parse? .batchUpdates (Text.unsigned? 10 batchBound)
  let upsert ← given.flag .upsertEnabled
  let printStatements ← given.flag .printStatements
  return {
    url := (given.text? .url).getD usual.url
    scope := (given.text? .dataverse).getD usual.scope
    relation := (given.text? .table).getD usual.relation
    batchInserts := inserts.getD usual.batchInserts
    batchUpdates := updates.getD usual.batchUpdates
    upsert, feed, printStatements }

end Properties

namespace ClientConfig

/-- The configuration that a YAML value describes by properties. -/
def ofProperties (v : Yaml.Value) : Except PropertyFault ClientConfig := do
  ((Properties.ofYaml v).mapError .shape).bind Properties.toConfig

/-- Whether a YAML value is meant as a mapping of properties. -/
def isPropertiesStyle (v : Yaml.Value) : Bool :=
  (v.asMapping?.getD []).any fun (key, _) => key.asString?.any Property.isMark

/-- The configuration that a YAML value describes; null describes the usual one. -/
def ofYaml (v : Yaml.Value) : Except Error ClientConfig :=
  if v.isNull then .ok {}
  else if isPropertiesStyle v then (ofProperties v).mapError PropertyFault.toError
  else (ofMembers v).mapError fun m => Yaml.documentError (m.message Yaml.wording)

/-- The configuration that a YAML text describes. A text of blanks describes the usual one, like any
text without a value. -/
def ofYamlText (s : String) : Except Error ClientConfig :=
  if (Text.trimChars s.toList).isEmpty then .ok {}
  else
    match Yaml.Value.ofText s with
    | .ok v => ofYaml v
    | .error f => .error (Yaml.documentError f.message)

end ClientConfig

end SqlppBench
