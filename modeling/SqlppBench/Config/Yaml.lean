import SqlppBench.Config.Member
import SqlppBench.Error
import SqlppBench.Yaml.Load

/-! # Configurations as YAML values

A mapping whose entries are the members of a configuration, by their names. Tags do not matter, and
null is a mapping without entries.
-/

namespace SqlppBench

namespace Yaml

/-- How a message calls what is found in a YAML value. Doubles have no exponent. -/
def wording : Wording :=
  ⟨"unit value", Number.realText ⟨-400, 400, false⟩ "NaN" "inf"⟩

/-- The error of a document that is no configuration. -/
def documentError (message : String) : Error :=
  .config ("YAML parse error: " ++ message)

/-- What a message calls a value. -/
def Value.found (v : Value) : Found :=
  match v.untagged with
  | .bool b => .bool b
  | .number n => .number n
  | .string s => .text s
  | .sequence _ => .list
  | .mapping _ => .object
  | .null | .tagged _ _ => .null

/-- The fault of a value of another kind than the expected one. -/
def unexpected {α : Type} (expected : String) (v : Value) : Except Mismatch α :=
  .error (.kind v.found expected)

/-- Reads a string. -/
def text (expected : String) (v : Value) : Except Mismatch String :=
  match v.asString? with
  | some s => .ok s
  | none => unexpected expected v

/-- Reads a string where any string will do. -/
def anyText : Value → Except Mismatch String := text "a string"

/-- Reads a truth value. -/
def flag (v : Value) : Except Mismatch Bool :=
  match v.untagged with
  | .bool b => .ok b
  | _ => unexpected "a boolean" v

/-- Reads a number that is whole, not negative and below `bound`. -/
def natural (bound : Nat) (expected : String) (v : Value) : Except Mismatch Nat :=
  match v.untagged with
  | .number (.whole n) =>
    if 0 ≤ n && n < bound then .ok n.toNat else .error (.range v.found expected)
  | _ => unexpected expected v

/-- The entries of a record. -/
def entries (expected : String) (v : Value) : Except Mismatch (List (Value × Value)) :=
  match v.untagged with
  | .mapping entries => .ok entries
  | .null => .ok []
  | _ => unexpected expected v

/-- Reads the value of a member that must not have been read before. -/
def field {α σ : Type} (name : String) (seen : Option α) (reader : Value → Except Mismatch α)
    (put : α → σ) (v : Value) : Except Mismatch σ :=
  if seen.isSome then .error (.duplicateField name) else (reader v).map put

/-- Reads the entries of a record, one by one. -/
def gather {σ : Type} (member : String → σ → Value → Except Mismatch σ) (empty : σ)
    (entries : List (Value × Value)) : Except Mismatch σ :=
  entries.foldlM (fun gathered (key, v) => do member (← text "field identifier" key) gathered v)
    empty

end Yaml

namespace FeedConfig

/-- Reads a member from a YAML value. -/
def yamlMember (name : String) (d : FeedDraft) (v : Yaml.Value) : Except Mismatch FeedDraft := do
  match ← FeedMember.ofName name with
  | .host => Yaml.field "host" d.host Yaml.anyText (fun a => { d with host := some a }) v
  | .port =>
    Yaml.field "port" d.port (Yaml.natural portBound "u16") (fun a => { d with port := some a }) v

/-- The feed that a YAML value describes. -/
def ofYaml (v : Yaml.Value) : Except Mismatch FeedConfig := do
  (← Yaml.gather yamlMember {} (← Yaml.entries "struct FeedConfig" v)).finish

end FeedConfig

namespace ClientConfig

/-- The feed that a YAML value describes, or its absence. A null value with a tag is no absence. -/
def yamlFeed : Yaml.Value → Except Mismatch (Option FeedConfig)
  | .null => .ok none
  | v => (FeedConfig.ofYaml v).map some

/-- Reads a member from a YAML value. -/
def yamlMember (name : String) (d : ConfigDraft) (v : Yaml.Value) :
    Except Mismatch ConfigDraft := do
  let m ← ConfigMember.ofName name
  let name := m.name
  let batchSize := Yaml.natural batchBound "u64"
  match m with
  | .url => Yaml.field name d.url Yaml.anyText (fun a => { d with url := some a }) v
  | .scope => Yaml.field name d.scope Yaml.anyText (fun a => { d with scope := some a }) v
  | .relation => Yaml.field name d.relation Yaml.anyText (fun a => { d with relation := some a }) v
  | .batchInserts =>
    Yaml.field name d.batchInserts batchSize (fun a => { d with batchInserts := some a }) v
  | .batchUpdates =>
    Yaml.field name d.batchUpdates batchSize (fun a => { d with batchUpdates := some a }) v
  | .upsert => Yaml.field name d.upsert Yaml.flag (fun a => { d with upsert := some a }) v
  | .feed => Yaml.field name d.feed yamlFeed (fun a => { d with feed := some a }) v
  | .printStatements =>
    Yaml.field name d.printStatements Yaml.flag (fun a => { d with printStatements := some a }) v

/-- The configuration that a YAML value describes by the names of its members. -/
def ofMembers (v : Yaml.Value) : Except Mismatch ClientConfig := do
  return (← Yaml.gather yamlMember {} (← Yaml.entries "struct ClientConfig" v)).finish

end ClientConfig

end SqlppBench
