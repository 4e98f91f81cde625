import SqlppBench.Text.Numeral

/-! # The words of a command line

Which commands there are, which switches each of them has, and which words it takes by their place.
-/

namespace SqlppBench

/-- A command. -/
inductive CommandName where
  | schema
  | read
  | scan
  | insert
  | update
  | delete
  | load
deriving DecidableEq, Repr

namespace CommandName

/-- All commands. -/
def all : List CommandName := [.schema, .read, .scan, .insert, .update, .delete, .load]

/-- The word for a command. -/
def name : CommandName → String
  | .schema => "schema"
  | .read => "read"
  | .scan => "scan"
  | .insert => "insert"
  | .update => "update"
  | .delete => "delete"
  | .load => "load"

/-- What a command does, in a few words. -/
def summary : CommandName → String
  | .schema => "Show the discovered primary key and fields"
  | .read => "Read one record"
  | .scan => "Read a range of records in key order"
  | .insert => "Insert one record"
  | .update => "Update fields of one record"
  | .delete => "Delete one record"
  | .load => "Load records with concurrent clients and print a run summary"

/-- The command of a word. -/
def parse? (word : String) : Option CommandName :=
  all.find? fun c => c.name == word

theorem parse?_name (c : CommandName) : parse? c.name = some c := by
  cases c <;> decide

end CommandName

/-- The word that asks for help on a command. -/
def helpWord : String := "help"

/-! ## Values -/

/-- A number of 64 bits. -/
def count? (s : String) : Option Nat :=
  Text.unsigned? 10 (Nat.pow 2 64) s.toList

/-- A number of 32 bits. A minus sign before zero does no harm. -/
def smallCount? (s : String) : Option Nat :=
  match Text.signed? 10 (Nat.pow 2 63) s.toList with
  | some (.ofNat n) => if n < Nat.pow 2 32 then some n else none
  | _ => none

/-- A field and its value around the first equals sign; the field has a name. -/
def assignment? (s : String) : Option (String × String) :=
  match Text.splitAtFirst? ['='] s.toList with
  | some (field, value) =>
    if field.isEmpty then none else some (String.ofList field, String.ofList value)
  | none => none

/-! ## Switches -/

/-- A switch of the command line. -/
inductive Switch where
  | file
  | config
  | verbose
  | logJson
  | url
  | scope
  | relation
  | batchInserts
  | batchUpdates
  | upsert
  | printStatements
  | json
  | fields
  | records
  | clients
  | fieldLength
  | keyPrefix
  | help
  | version
deriving DecidableEq, Repr

namespace Switch

/-- The long name of a switch. -/
def name : Switch → String
  | .file => "file"
  | .config => "config"
  | .verbose => "verbose"
  | .logJson => "log-json"
  | .url => "url"
  | .scope => "scope"
  | .relation => "relation"
  | .batchInserts => "batch-inserts"
  | .batchUpdates => "batch-updates"
  | .upsert => "upsert"
  | .printStatements => "print-statements"
  | .json => "json"
  | .fields => "fields"
  | .records => "records"
  | .clients => "clients"
  | .fieldLength => "field-length"
  | .keyPrefix => "key-prefix"
  | .help => "help"
  | .version => "version"

/-- The letter of a switch, if it has one. -/
def letter? : Switch → Option Char
  | .file => some 'f'
  | .config => some 'c'
  | .verbose => some 'v'
  | .help => some 'h'
  | .version => some 'V'
  | _ => none

/-- Whether a value belongs to the switch. -/
def takesValue : Switch → Bool
  | .verbose | .logJson | .upsert | .printStatements | .json | .help | .version => false
  | _ => true

/-- Whether the switch may be given more than once. -/
def isRepeatable (s : Switch) : Bool :=
  s == .fields

/-- Whether the text is a value of the switch. -/
def accepts (s : Switch) (value : String) : Bool :=
  match s with
  | .batchInserts | .batchUpdates | .records | .fieldLength => (count? value).isSome
  | .clients => (smallCount? value).isSome
  | _ => true

/-- The values that a text stands for: for lists, those between its commas. -/
def values (s : Switch) (text : String) : List String :=
  if s == .fields then (Text.piecesBy (· == ',') text.toList).map String.ofList else [text]

/-- The switches that may stand before and behind the command. -/
def general : List Switch :=
  [.file, .config, .verbose, .logJson, .url, .scope, .relation, .batchInserts, .batchUpdates,
    .upsert, .printStatements]

end Switch

/-! ## Places -/

/-- What a word means that stands at its place. -/
inductive Place where
  | key
  | start
  | count
  | assignments
deriving DecidableEq, Repr

namespace Place

/-- Whether all words from the place on belong to it. -/
def takesRest (p : Place) : Bool :=
  p == .assignments

/-- Whether the word may stand at the place. -/
def accepts (p : Place) (word : String) : Bool :=
  match p with
  | .count => (count? word).isSome
  | .assignments => (assignment? word).isSome
  | .key | .start => true

end Place

/-! ## What may be given where -/

namespace CommandName

/-- The switches of a command alone. -/
def switches : CommandName → List Switch
  | .schema => [.json]
  | .read | .scan => [.fields]
  | .insert | .update | .delete => []
  | .load => [.records, .clients, .fieldLength, .keyPrefix]

/-- The places of a command. -/
def places : CommandName → List Place
  | .schema | .load => []
  | .read | .delete => [.key]
  | .scan => [.start, .count]
  | .insert | .update => [.key, .assignments]

end CommandName

/-- A part of the command line: what stands before the command, or behind it. -/
inductive Level where
  | top
  | command (c : CommandName)
deriving DecidableEq, Repr

namespace Level

/-- The switches that may be given. -/
def switches : Level → List Switch
  | .top => Switch.general ++ [.help, .version]
  | .command c => c.switches ++ Switch.general ++ [.help]

/-- The places for words. -/
def places : Level → List Place
  | .top => []
  | .command c => c.places

/-- The switch of a long name. -/
def long? (l : Level) (name : String) : Option Switch :=
  l.switches.find? fun s => s.name == name

/-- The switch of a letter. -/
def short? (l : Level) (letter : Char) : Option Switch :=
  l.switches.find? fun s => s.letter? == some letter

end Level

end SqlppBench
