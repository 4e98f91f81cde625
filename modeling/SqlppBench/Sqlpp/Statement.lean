import SqlppBench.Record
import SqlppBench.Sqlpp.Literal

/-! # Statements

The text of every statement that is run against a relation. Names of fields and of the relation
stand bare in it; a key is always a string literal, a value always the constructor of a byte string.
-/

namespace SqlppBench.Sqlpp

/-- What statements are written for: a relation, the scope that holds it, and its primary key. -/
structure Target where
  scope : String
  relation : String
  primaryKey : String
deriving DecidableEq, Repr

namespace Target

/-- The clause that opens every statement. -/
def use (t : Target) : String :=
  "USE " ++ t.scope ++ ";"

/-- The columns of a lookup: the key, then the fields. -/
def columns (t : Target) (fields : List String) : String :=
  ",".intercalate (t.primaryKey :: fields)

/-- The lookup of some columns, up to the comparison of the key. -/
def selection (t : Target) (columns : String) : String :=
  "SELECT " ++ columns ++ " FROM " ++ t.relation ++ " WHERE " ++ t.primaryKey

/-- The lookup of one record. -/
def read (t : Target) (key : String) (fields : List String) : String :=
  t.use ++ t.selection (t.columns fields) ++ "=" ++ quoteLiteral key ++ ";"

/-- The lookup of at most `count` records in the order of their keys, from `start` on. -/
def scan (t : Target) (start : String) (count : Nat) (fields : List String) : String :=
  t.use ++ t.selection (t.columns fields) ++ ">=" ++ quoteLiteral start ++
    " ORDER BY " ++ t.primaryKey ++ " LIMIT " ++ Text.decimal count ++ ";"

/-- The removal of one record. -/
def delete (t : Target) (key : String) : String :=
  t.use ++ "DELETE FROM " ++ t.relation ++ " WHERE " ++ t.primaryKey ++ "=" ++
    quoteLiteral key ++ ";"

/-! ## Insertions -/

/-- The member of an object constructor that holds a byte string. -/
def member (field : String) (bytes : Bytes) : String :=
  jsonString field ++ ":" ++ hexConstructor bytes

/-- The object constructor of a record: the key, then the fields that have a value. -/
def recordLiteral (t : Target) (key : String) (fields : List String) (values : FieldValues) :
    String :=
  let members := fields.filterMap fun field => (values.get? field).map (member field)
  "\x7b" ++ ",".intercalate ((jsonString t.primaryKey ++ ":" ++ jsonString key) :: members) ++
    "\x7d"

/-- The insertion of records, given by their constructors, under the keyword `INSERT` or `UPSERT`.
-/
def insert (t : Target) (keyword : String) (literals : List String) : String :=
  t.use ++ keyword ++ " INTO " ++ t.relation ++ " ([" ++ ",".intercalate literals ++ "]);"

/-! ## Updates -/

/-- The column of an updated record: the new value, or the stored one where none is given. -/
def updatedColumn (values : FieldValues) (field : String) : String :=
  match values.get? field with
  | some bytes => hexConstructor bytes ++ " AS " ++ field
  | none => field

/-- The lookup of one record with some of its fields replaced. -/
def updateProjection (t : Target) (key : String) (fields : List String) (values : FieldValues) :
    String :=
  t.selection (t.columns (fields.map (updatedColumn values))) ++ "=" ++ quoteLiteral key

/-- The replacement of stored records by what lookups give. -/
def upsertProjections (t : Target) (projections : List String) : String :=
  t.use ++ "UPSERT INTO " ++ t.relation ++ " (" ++ " UNION ALL ".intercalate projections ++ ");"

end Target

end SqlppBench.Sqlpp
