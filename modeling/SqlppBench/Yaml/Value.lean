import SqlppBench.Number

/-! # YAML values

What a document says, whatever way it is written. Keys of mappings may be values of any kind; two
keys of a mapping must not be the same, so it is settled here what that means.
-/

namespace SqlppBench.Yaml

/-- A YAML value. -/
inductive Value where
  | null
  | bool (b : Bool)
  | number (n : Number)
  | string (s : String)
  | sequence (items : List Value)
  | mapping (entries : List (Value × Value))
  /-- A value with a tag of its own, which is not empty. -/
  | tagged (tag : String) (content : Value)

namespace Value

/-- The value behind its tags. -/
def untagged : Value → Value
  | .tagged _ content => content.untagged
  | v => v

/-- Whether the value is null, behind its tags. -/
def isNull (v : Value) : Bool :=
  match v.untagged with
  | .null => true
  | _ => false

/-- The string that the value is, behind its tags. -/
def asString? (v : Value) : Option String :=
  match v.untagged with
  | .string s => some s
  | _ => none

/-- The entries of the mapping that the value is, behind its tags. -/
def asMapping? (v : Value) : Option (List (Value × Value)) :=
  match v.untagged with
  | .mapping entries => some entries
  | _ => none

/-! ## Equality -/

/-- Whether two numbers are the same. A whole number is never a double, and no double but `NaN`
equals `NaN`. -/
def sameNumber : Number → Number → Bool
  | .whole m, .whole n => m == n
  | .real f, .real g => (f.isNaN && g.isNaN) || f == g
  | _, _ => false

mutual

/-- Whether two values are the same. The order of the entries of a mapping does not matter. -/
def same : Value → Value → Bool
  | .null, .null => true
  | .bool a, .bool b => a == b
  | .number m, .number n => sameNumber m n
  | .string s, .string t => s == t
  | .sequence xs, .sequence ys => sameItems xs ys
  | .mapping xs, .mapping ys => xs.length == ys.length && sameEntries xs ys
  | .tagged s x, .tagged t y => s == t && same x y
  | _, _ => false

/-- Whether two lists of items are the same, one by one. -/
def sameItems : List Value → List Value → Bool
  | [], [] => true
  | x :: xs, y :: ys => same x y && sameItems xs ys
  | _, _ => false

/-- Whether each entry is among others. -/
def sameEntries : List (Value × Value) → List (Value × Value) → Bool
  | [], _ => true
  | (key, value) :: xs, ys =>
    (ys.any fun (otherKey, otherValue) => same key otherKey && same value otherValue) &&
      sameEntries xs ys

end

/-- Whether a key is among the keys of entries. -/
def hasKey (entries : List (Value × Value)) (key : Value) : Bool :=
  entries.any fun (other, _) => same key other

end Value

end SqlppBench.Yaml
