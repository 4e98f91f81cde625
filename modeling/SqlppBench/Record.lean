import SqlppBench.Error
import SqlppBench.Json.Print
import SqlppBench.Json.Read

/-! # Records

A record is a set of named byte strings. The service sends it as a line that holds a JSON object
whose fields are hexadecimal digits; such a line is decoded here into the fields that were asked
for. -/

namespace SqlppBench

/-- Byte strings under the names of fields, each name once and in ascending order. -/
structure FieldValues where
  members : List (String × Bytes)
deriving DecidableEq, Repr

namespace FieldValues

/-- No field at all. -/
def empty : FieldValues := ⟨[]⟩

/-- Puts a value under a name, instead of an earlier one. -/
def insert (values : FieldValues) (name : String) (value : Bytes) : FieldValues :=
  ⟨Members.insert name value values.members⟩

/-- The value under a name. -/
def get? (values : FieldValues) (name : String) : Option Bytes :=
  Members.get? name values.members

/-- The fields of a list; of two with one name the later one counts. -/
def ofList (members : List (String × Bytes)) : FieldValues :=
  members.foldl (fun values (name, value) => values.insert name value) empty

@[simp] theorem get?_empty (name : String) : empty.get? name = none := rfl

theorem get?_insert (values : FieldValues) (name other : String) (value : Bytes) :
    (values.insert name value).get? other =
      if other = name then some value else values.get? other :=
  Members.get?_insert name other value values.members

end FieldValues

/-- Why a line does not hold the fields that were asked for. -/
inductive RecordFault where
  | notAnObject (line : String)
  | malformed (line : String) (e : Json.Error)
  | missing (field : String)
  | notAString (field : String) (value : Json.Value)
  | notHex (field : String) (fault : Hex.Fault)

namespace RecordFault

/-- What is said about the fault. -/
def message : RecordFault → String
  | .notAnObject line => "Record is not a JSON object: " ++ line
  | .malformed line e => "Malformed record " ++ line ++ ": " ++ e.message
  | .missing field => "Field '" ++ field ++ "' is missing from record"
  | .notAString field value => "Field '" ++ field ++ "' is not a hex string: " ++ value.compact
  | .notHex field fault => "Field '" ++ field ++ "' has invalid hex: " ++ fault.message

/-- The fault as an error. -/
def toError (f : RecordFault) : Error :=
  .decode f.message

end RecordFault

namespace Record

/-- The bytes of one field of an object. -/
def fieldBytes (object : List (String × Json.Value)) (field : String) : Except RecordFault Bytes :=
  match Members.get? field object with
  | none => .error (.missing field)
  | some (.string s) => (Hex.decode s).mapError (.notHex field)
  | some other => .error (.notAString field other)

/-- The requested fields of an object, in the order in which they are asked for. -/
def fieldsOf (object : List (String × Json.Value)) :
    FieldValues → List String → Except RecordFault FieldValues
  | values, [] => .ok values
  | values, field :: fields =>
    match fieldBytes object field with
    | .error f => .error f
    | .ok bytes => fieldsOf object (values.insert field bytes) fields

/-- The object that a line without blanks at its ends holds. -/
def object (line : String) : Except RecordFault (List (String × Json.Value)) :=
  if line.toList.head? == some '\x7b' && line.toList.getLast? == some '\x7d' then
    match Json.parse line with
    | .ok (.object members) => .ok members
    | .ok _ => .error (.notAnObject line)
    | .error e => .error (.malformed line e)
  else .error (.notAnObject line)

/-- The requested fields of the record on a line. -/
def decode (line : String) (fields : List String) : Except RecordFault FieldValues :=
  match object (Text.trim line) with
  | .error f => .error f
  | .ok members => fieldsOf members .empty fields

end Record

end SqlppBench
