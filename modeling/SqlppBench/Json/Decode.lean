import SqlppBench.Json.Read

/-! # Reading particular records

Readers for texts that must hold a value of a known shape. They read from left to right and stop at
the first thing that is wrong, be it the notation or the shape. A record may be written as an
object, with its fields in any order, or as a list of its fields in their own order. -/

namespace SqlppBench.Json

/-! ## Plain values -/

/-- The fault of a value of another kind than the expected one. Words, strings and numbers are read
to their end before the fault is reported; lists and objects are not entered. -/
def unexpected {α : Type} (expected : String) (c : Cursor) : Except Error α :=
  let c := c.skipSpaces
  let report (found : Found) (c : Cursor) : Except Error α :=
    c.fail (.mismatch (.kind found expected))
  match c.rest with
  | [] => c.failPeek .endInValue
  | 'n' :: _ => do report .null (← word "ull".toList (c.skip 1))
  | 't' :: _ => do report (.bool true) (← word "rue".toList (c.skip 1))
  | 'f' :: _ => do report (.bool false) (← word "alse".toList (c.skip 1))
  | '-' :: _ => do
    let (n, c) ← number false (c.skip 1)
    report (.number n) c
  | '"' :: _ => do
    let (s, c) ← string (c.skip 1)
    report (.text s) c
  | '[' :: _ => report .list c
  | '\x7b' :: _ => report .object c
  | d :: _ =>
    if d.isDigit then do
      let (n, c) ← number true c
      report (.number n) c
    else c.failPeek .expectedValue

/-- Reads a string. -/
def text (expected : String) (c : Cursor) : Result String :=
  let c := c.skipSpaces
  match c.rest with
  | '"' :: _ => string (c.skip 1)
  | _ => unexpected expected c

/-- Reads a string where any string will do. -/
def anyText : Cursor → Result String := text "a string"

/-- Reads a truth value. -/
def flag (c : Cursor) : Result Bool :=
  let c := c.skipSpaces
  match c.rest with
  | 't' :: _ => (word "rue".toList (c.skip 1)).map fun c => (true, c)
  | 'f' :: _ => (word "alse".toList (c.skip 1)).map fun c => (false, c)
  | _ => unexpected "a boolean" c

/-- Checks that a number is whole, not negative and below `bound`. -/
def natural? (bound : Nat) (expected : String) (n : Number) : Except Mismatch Nat :=
  match n with
  | .whole (.ofNat k) => if k < bound then .ok k else .error (.range (.number n) expected)
  | .whole _ => .error (.range (.number n) expected)
  | .real _ => .error (.kind (.number n) expected)

/-- Reads a number that is whole, not negative and below `bound`. -/
def natural (bound : Nat) (expected : String) (c : Cursor) : Except Error (Nat × Cursor) := do
  let c := c.skipSpaces
  let checked (read : Number × Cursor) : Except Error (Nat × Cursor) :=
    match natural? bound expected read.1 with
    | .ok k => .ok (k, read.2)
    | .error m => read.2.fail (.mismatch m)
  match c.rest with
  | '-' :: _ => checked (← number false (c.skip 1))
  | d :: _ => if d.isDigit then checked (← number true c) else unexpected expected c
  | [] => unexpected expected c

/-- Reads the null value as nothing and any other by `reader`. -/
def optional {α : Type} (reader : Cursor → Result α) (c : Cursor) : Result (Option α) :=
  match c.skipSpaces.rest with
  | 'n' :: _ => (word "ull".toList (c.skipSpaces.skip 1)).map fun c => (none, c)
  | _ => (reader c).map fun (a, c) => (some a, c)

/-- Reads a list. -/
def list {α : Type} (item : Cursor → Result α) (c : Cursor) : Result (List α) :=
  let c := c.skipSpaces
  match c.rest with
  | '[' :: _ => items item true (c.skip 1) c.steps
  | _ => unexpected "a sequence" c

/-! ## Enumerations -/

/-- Reads the name of a variant. -/
def variantName {α : Type} (known : List (String × α)) (c : Cursor) :
    Except Error (α × Cursor) := do
  let (name, c) ← text "variant identifier" c
  match Members.get? name known with
  | some a => .ok (a, c)
  | none => c.fail (.mismatch (.unknownVariant name (known.map Prod.fst)))

/-- Reads the null value. -/
def null (expected : String) (c : Cursor) : Except Error Cursor :=
  let c := c.skipSpaces
  match c.rest with
  | 'n' :: _ => word "ull".toList (c.skip 1)
  | _ => unexpected expected c

/-- Reads a variant: its name, or an object whose one member has the name and holds null. -/
def variant {α : Type} (known : List (String × α)) (c : Cursor) : Except Error (α × Cursor) :=
  let c := c.skipSpaces
  match c.rest with
  | [] => c.failPeek .endInValue
  | '"' :: _ => variantName known c
  | '\x7b' :: _ => do
    let (a, c) ← variantName known (c.skip 1)
    let c ← null "unit" (← colon c)
    let c := c.skipSpaces
    match c.rest with
    | [] => c.failPeek .endInObject
    | '\x7d' :: _ => .ok (a, c.skip 1)
    | _ => c.failPeek .expectedValue
  | _ => c.failPeek .expectedValue

/-! ## Records -/

/-- The fault of an object, found after the name of a member: its place is after a closing brace,
where one follows. -/
def objectFault {α : Type} (m : Mismatch) (c : Cursor) : Except Error α :=
  let c := c.skipSpaces
  (if c.rest.head? == some '\x7d' then c.skip 1 else c).fail (.mismatch m)

/-- Reads the value of a field that must not have been read before. -/
def field {α σ : Type} (name : String) (seen : Option α) (reader : Cursor → Result α)
    (put : α → σ) (c : Cursor) : Except Error (σ × Cursor) :=
  if seen.isSome then objectFault (.duplicateField name) c
  else do
    let (a, c) ← reader (← colon c)
    return (put a, c)

/-- Passes over the value of a field that has no meaning. -/
def ignored {σ : Type} (gathered : σ) (c : Cursor) : Except Error (σ × Cursor) := do
  return (gathered, ← skipValue (← colon c))

/-- A field that must be there. -/
def required {α : Type} (name : String) (a : Option α) : Except Mismatch α :=
  match a with
  | some a => .ok a
  | none => .error (.missingField name)

/-- The next item of a list whose items are the fields of a record, if there is one. -/
def nextField {α : Type} (reader : Cursor → Result α) (first : Bool) (c : Cursor) :
    Except Error (Option α × Cursor) := do
  match ← nextItem first c with
  | none => return (none, c)
  | some c =>
    let (a, c) ← reader c
    return (some a, c)

/-- How a record is read: from the members of an object, gathered one by one, or from the items of a
list. -/
structure RecordReader (σ α : Type) where
  /-- What a message calls the record. -/
  name : String
  /-- What is gathered before the first member. -/
  empty : σ
  /-- Reads a member. -/
  member : String → σ → Cursor → Result σ
  /-- Reads the items of a list. -/
  listed : Cursor → Except Error (σ × Cursor)
  /-- The record, from what was gathered. -/
  finish : σ → Except Mismatch α
  /-- The record, from the items of a list. -/
  finishListed : σ → Except Mismatch α

/-- Reads a record. -/
def record {σ α : Type} (r : RecordReader σ α) (c : Cursor) : Except Error (α × Cursor) := do
  let c := c.skipSpaces
  match c.rest with
  | '\x7b' :: _ =>
    let (gathered, c) ← members r.member true r.empty (c.skip 1) c.steps
    match r.finish gathered with
    | .ok a => return (a, c)
    | .error m => c.fail (.mismatch m)
  | '[' :: _ =>
    let (gathered, c) ← r.listed (c.skip 1)
    match r.finishListed gathered with
    | .ok a => return (a, ← closeList c)
    | .error m => c.skipSpaces.skip 1 |>.fail (.mismatch m)
  | _ => unexpected ("struct " ++ r.name) c

/-- The field at place `index` of a record of `size` fields that is written as a list. -/
def listedField {α : Type} (name : String) (size index : Nat) (a : Option α) : Except Mismatch α :=
  match a with
  | some a => .ok a
  | none =>
    .error (.length index ("struct " ++ name ++ " with " ++ toString size ++ " elements"))

end SqlppBench.Json
