import SqlppBench.Error
import SqlppBench.Schema
import SqlppBench.Sqlpp.Literal

/-! # Catalog queries

The service describes its relations in a catalog, which is asked like any other relation. The
primary key comes as a list of paths, each a list of names; only a key of one path with one name is
usable. -/

namespace SqlppBench.Catalog

/-- A relation and the scope that holds it. -/
structure RelationName where
  scope : String
  relation : String
deriving DecidableEq, Repr

namespace RelationName

/-- The relation as messages name it. -/
def text (r : RelationName) : String :=
  r.scope ++ "." ++ r.relation

/-- A relation must have a name, and so must its scope. -/
def check (r : RelationName) : Except Error Unit :=
  if r.scope.isEmpty || r.relation.isEmpty then
    .error (.validation "Scope and relation names cannot be empty")
  else .ok ()

/-- The statement that asks for the primary key. -/
def primaryKeyStatement (r : RelationName) : String :=
  "SELECT VALUE InternalDetails.PrimaryKey FROM Metadata.\x60Dataset\x60 WHERE DataverseName=" ++
    Sqlpp.quoteLiteral r.scope ++ " AND DatasetName=" ++ Sqlpp.quoteLiteral r.relation ++ ";"

/-- The statement that asks for the fields. -/
def fieldsStatement (r : RelationName) : String :=
  "SELECT VALUE dt.Derived.Record.Fields FROM Metadata.\x60Dataset\x60 ds, " ++
    "Metadata.\x60Datatype\x60 dt WHERE ds.DataverseName=" ++ Sqlpp.quoteLiteral r.scope ++
    " AND ds.DatasetName=" ++ Sqlpp.quoteLiteral r.relation ++
    " AND dt.DataverseName=ds.DataverseName AND dt.DatatypeName=ds.DatatypeName;"

end RelationName

/-- A path to a component of a key. -/
abbrev KeyPath := List String

/-- The items that records hold, each record a list of them. -/
def itemsOf {α : Type} (reader : Json.Cursor → Json.Result α) (what : String) :
    List String → Except Error (List α)
  | [] => .ok []
  | record :: records =>
    match Json.readAll (Json.list reader) record with
    | .error e =>
      .error (.metadata ("Unexpected " ++ what ++ " '" ++ record ++ "': " ++ e.message))
    | .ok items => (itemsOf reader what records).map (items ++ ·)

/-- The text of some paths. -/
def pathsText (paths : List KeyPath) : String :=
  Text.bracketed (paths.map fun path => Text.bracketed (path.map Text.quoted))

/-- The one name that the paths of a key must be. -/
def keyOfPaths (r : RelationName) : List KeyPath → Except Error String
  | [] => .error (.metadata ("No primary key can be found for " ++ r.text))
  | [[name]] => .ok name
  | paths => .error (.compositePrimaryKey (r.text ++ " has primary key " ++ pathsText paths))

/-- The primary key, from the records of the catalog. -/
def keyOfRecords (r : RelationName) (records : List String) : Except Error String :=
  match itemsOf (Json.list Json.anyText) "primary key" records with
  | .error e => .error e
  | .ok paths => keyOfPaths r paths

/-- The fields, from the records of the catalog. -/
def fieldsOfRecords (r : RelationName) (records : List String) : Except Error (List FieldInfo) :=
  match itemsOf (Json.record FieldInfo.reader) "field list" records with
  | .error e => .error e
  | .ok [] => .error (.metadata ("No field can be found for " ++ r.text))
  | .ok fields => .ok fields

end SqlppBench.Catalog
