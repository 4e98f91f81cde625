import SqlppBench.Json.Decode
import SqlppBench.Json.Print

/-! # Schemas

A relation has one primary key and a set of other fields. The catalog lists the fields in an order
of its own, and may list the key among them or a field twice; a schema forgets all of that, so that
equal sets of names give equal schemas and equal statements.
-/

namespace SqlppBench

/-- A field as the catalog describes it. -/
structure FieldInfo where
  name : String
  type : String
deriving DecidableEq, Repr

/-- A relation's primary key and its other fields, in ascending order. -/
structure TableSchema where
  primaryKey : String
  fields : List String
deriving DecidableEq, Repr

/-! ## Sorted sets of names -/

/-- Adds a name to an ascending list of names, unless it is there. -/
def insertName (name : String) : List String → List String
  | [] => [name]
  | other :: rest =>
    if name < other then name :: other :: rest
    else if name = other then other :: rest
    else other :: insertName name rest

/-- The names of a list in ascending order, each once. -/
def sortNames (names : List String) : List String :=
  names.foldr insertName []

theorem mem_insertName {a name : String} {names : List String} :
    a ∈ insertName name names ↔ a = name ∨ a ∈ names := by
  induction names with
  | nil => simp [insertName]
  | cons other rest ih =>
    unfold insertName
    split
    · simp
    · split
      · rename_i h
        simp [h]
      · simp only [List.mem_cons, ih]
        exact or_left_comm

theorem mem_sortNames {a : String} {names : List String} : a ∈ sortNames names ↔ a ∈ names := by
  induction names with
  | nil => simp [sortNames]
  | cons name rest ih =>
    have : sortNames (name :: rest) = insertName name (sortNames rest) := rfl
    rw [this, mem_insertName, ih, List.mem_cons]

namespace TableSchema

/-- The schema of a relation with the given key and described fields. -/
def ofCatalog (primaryKey : String) (fields : List FieldInfo) : TableSchema :=
  ⟨primaryKey, sortNames ((fields.map FieldInfo.name).filter (· ≠ primaryKey))⟩

/-- Whether a name is that of a field other than the key. -/
def hasField (schema : TableSchema) (name : String) : Bool :=
  schema.fields.contains name

end TableSchema

/-! ## JSON forms -/

namespace FieldInfo

/-- The field description as a JSON value. -/
def toJson (f : FieldInfo) : Json.Value :=
  .object [("FieldName", .string f.name), ("FieldType", .string f.type)]

/-- What is known of a description while it is read. -/
structure Draft where
  name : Option String := none
  type : Option String := none

/-- How a description is read; its type may be missing, and other members have no meaning. -/
def reader : Json.RecordReader Draft FieldInfo where
  name := "FieldInfo"
  empty := {}
  member := fun name d c =>
    if name = "FieldName" then
      Json.field name d.name Json.anyText (fun a => { d with name := some a }) c
    else if name = "FieldType" then
      Json.field name d.type Json.anyText (fun a => { d with type := some a }) c
    else Json.ignored d c
  listed := fun c => do
    let (name, c) ← Json.nextField Json.anyText true c
    let (type, c) ← Json.nextField Json.anyText false c
    return (⟨name, type⟩, c)
  finish := fun d => do
    return ⟨← Json.required "FieldName" d.name, d.type.getD ""⟩
  finishListed := fun d => do
    return ⟨← Json.listedField "FieldInfo" 2 0 d.name, d.type.getD ""⟩

/-- The field descriptions that a JSON text lists. -/
def listOfJson (s : String) : Except Json.Error (List FieldInfo) :=
  Json.readAll (Json.list (Json.record reader)) s

end FieldInfo

namespace TableSchema

/-- The schema as a JSON value. -/
def toJson (schema : TableSchema) : Json.Value :=
  .object [("primary_key", .string schema.primaryKey),
    ("fields", .array (schema.fields.map .string))]

/-- What is known of a schema while it is read. -/
structure Draft where
  primaryKey : Option String := none
  fields : Option (List String) := none

/-- How a schema is read. -/
def reader : Json.RecordReader Draft TableSchema where
  name := "TableSchema"
  empty := {}
  member := fun name d c =>
    if name = "primary_key" then
      Json.field name d.primaryKey Json.anyText (fun a => { d with primaryKey := some a }) c
    else if name = "fields" then
      Json.field name d.fields (Json.list Json.anyText) (fun a => { d with fields := some a }) c
    else Json.ignored d c
  listed := fun c => do
    let (primaryKey, c) ← Json.nextField Json.anyText true c
    let (fields, c) ← Json.nextField (Json.list Json.anyText) false c
    return (⟨primaryKey, fields⟩, c)
  finish := fun d => do
    return ⟨← Json.required "primary_key" d.primaryKey, ← Json.required "fields" d.fields⟩
  finishListed := fun d => do
    return ⟨← Json.listedField "TableSchema" 2 0 d.primaryKey,
      ← Json.listedField "TableSchema" 2 1 d.fields⟩

/-- The schema that a JSON text describes. -/
def ofJson (s : String) : Except Json.Error TableSchema :=
  Json.readAll (Json.record reader) s

end TableSchema

end SqlppBench
