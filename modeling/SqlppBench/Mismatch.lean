import SqlppBench.Number
import SqlppBench.Text.Quoted

/-! # Documents of the wrong shape

A well formed document may still not describe the record that is asked for. The ways in which it
fails are the same for every notation; the notations differ only in how they call what they found.
-/

namespace SqlppBench

/-- What a document holds at some place. -/
inductive Found where
  | null
  | bool (b : Bool)
  | number (n : Number)
  | text (s : String)
  | list
  | object

/-- A way in which a document does not have the shape asked for. -/
inductive Mismatch where
  /-- A value of another kind than the expected one. -/
  | kind (found : Found) (expected : String)
  /-- A value of the right kind outside the expected range. -/
  | range (found : Found) (expected : String)
  /-- A list that ends too early. -/
  | length (n : Nat) (expected : String)
  | unknownVariant (name : String) (known : List String)
  | unknownField (name : String) (known : List String)
  | missingField (name : String)
  | duplicateField (name : String)

/-- How a notation calls what it finds. -/
structure Wording where
  null : String
  real : Float → String

/-- What a message calls the thing that was found. -/
def Found.describe (w : Wording) : Found → String
  | .null => w.null
  | .bool b => "boolean `" ++ toString b ++ "`"
  | .number (.whole n) => "integer `" ++ toString n ++ "`"
  | .number (.real f) => "floating point `" ++ w.real f ++ "`"
  | .text s => "string " ++ Text.quoted s
  | .list => "sequence"
  | .object => "map"

/-- An enumeration of the names that would have been right. -/
def oneOf : List String → String
  | [a] => "`" ++ a ++ "`"
  | [a, b] => "`" ++ a ++ "` or `" ++ b ++ "`"
  | names => "one of " ++ ", ".intercalate (names.map fun a => "`" ++ a ++ "`")

/-- What a message says about the mismatch. -/
def Mismatch.message (w : Wording) : Mismatch → String
  | .kind found expected => "invalid type: " ++ found.describe w ++ ", expected " ++ expected
  | .range found expected => "invalid value: " ++ found.describe w ++ ", expected " ++ expected
  | .length n expected => "invalid length " ++ toString n ++ ", expected " ++ expected
  | .unknownVariant name known => "unknown variant `" ++ name ++ "`, expected " ++ oneOf known
  | .unknownField name known => "unknown field `" ++ name ++ "`, expected " ++ oneOf known
  | .missingField name => "missing field `" ++ name ++ "`"
  | .duplicateField name => "duplicate field `" ++ name ++ "`"

end SqlppBench
