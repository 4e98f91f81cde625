import SqlppBench.Json.Token
import SqlppBench.Json.Value

/-! # Reading JSON

Lists and objects are read by one reader each, which leaves what an item or a member is to its
caller: the reader of arbitrary values and the readers of particular records are built on the same
two. Values nest up to a fixed depth; a value that is only skipped may nest without limit.
-/

namespace SqlppBench.Json

/-! ## Lists and objects -/

/-- The steps that a text can keep a loop busy: every turn of a loop takes a character. -/
def Cursor.steps (c : Cursor) : Nat := c.rest.length + 1

/-- Whether another item follows, and where it begins; `first` when none was read yet. -/
def nextItem (first : Bool) (c : Cursor) : Except Error (Option Cursor) :=
  let c := c.skipSpaces
  match c.rest with
  | [] => c.failPeek .endInList
  | ']' :: _ => .ok none
  | ch :: _ =>
    if first then .ok (some c)
    else if ch != ',' then c.failPeek .expectedListEnd
    else
      let c := (c.skip 1).skipSpaces
      match c.rest with
      | [] => c.failPeek .endInValue
      | ']' :: _ => c.failPeek .trailingComma
      | _ => .ok (some c)

/-- Reads the closing bracket of a list. -/
def closeList (c : Cursor) : Except Error Cursor :=
  let c := c.skipSpaces
  match c.rest with
  | ']' :: _ => .ok (c.skip 1)
  | ',' :: _ =>
    let c := (c.skip 1).skipSpaces
    c.failPeek (if c.rest.head? == some ']' then .trailingComma else .trailingCharacters)
  | [] => c.failPeek .endInList
  | _ => c.failPeek .trailingCharacters

/-- Reads the items of a list and its closing bracket. -/
def items {α : Type} (item : Cursor → Result α) (first : Bool) (c : Cursor) : Nat → Result (List α)
  | 0 => c.fail .endInList
  | steps + 1 =>
    match nextItem first c with
    | .error e => .error e
    | .ok none => (closeList c).map fun c => ([], c)
    | .ok (some c) =>
      match item c with
      | .error e => .error e
      | .ok (a, c) =>
        match items item false c steps with
        | .error e => .error e
        | .ok (rest, c) => .ok (a :: rest, c)

/-- Whether another member follows, and where its name begins. -/
def nextMember (first : Bool) (c : Cursor) : Except Error (Option Cursor) :=
  let c := c.skipSpaces
  match c.rest with
  | [] => c.failPeek .endInObject
  | '\x7d' :: _ => .ok none
  | ch :: _ =>
    if first then (if ch == '"' then .ok (some c) else c.failPeek .keyNotAString)
    else if ch != ',' then c.failPeek .expectedObjectEnd
    else
      let c := (c.skip 1).skipSpaces
      match c.rest with
      | [] => c.failPeek .endInValue
      | '"' :: _ => .ok (some c)
      | '\x7d' :: _ => c.failPeek .trailingComma
      | _ => c.failPeek .keyNotAString

/-- Reads the colon between a name and its value. -/
def colon (c : Cursor) : Except Error Cursor :=
  let c := c.skipSpaces
  match c.rest with
  | ':' :: _ => .ok (c.skip 1)
  | [] => c.failPeek .endInObject
  | _ => c.failPeek .expectedColon

/-- Reads the members of an object and its closing brace. Each member is read by `member`, which is
given its name, what was gathered so far, and the text after the name. -/
def members {σ : Type} (member : String → σ → Cursor → Result σ) (first : Bool) (gathered : σ)
    (c : Cursor) : Nat → Result σ
  | 0 => c.fail .endInObject
  | steps + 1 =>
    match nextMember first c with
    | .error e => .error e
    | .ok none => .ok (gathered, c.skipSpaces.skip 1)
    | .ok (some c) =>
      match string (c.skip 1) with
      | .error e => .error e
      | .ok (name, c) =>
        match member name gathered c with
        | .error e => .error e
        | .ok (gathered, c) => members member false gathered c steps

/-! ## Values -/

/-- How deep values may nest. -/
def depthLimit : Nat := 127

/-- Reads a value of at most the given depth. -/
def value (depth : Nat) (c : Cursor) : Result Value :=
  let c := c.skipSpaces
  match c.rest with
  | [] => c.failPeek .endInValue
  | 'n' :: _ => (word "ull".toList (c.skip 1)).map fun c => (.null, c)
  | 't' :: _ => (word "rue".toList (c.skip 1)).map fun c => (.bool true, c)
  | 'f' :: _ => (word "alse".toList (c.skip 1)).map fun c => (.bool false, c)
  | '-' :: _ => (number false (c.skip 1)).map fun (n, c) => (.number n, c)
  | '"' :: _ => (string (c.skip 1)).map fun (s, c) => (.string s, c)
  | '[' :: _ =>
    match depth with
    | 0 => c.failPeek .tooDeep
    | depth + 1 =>
      (items (value depth) true (c.skip 1) c.steps).map fun (vs, c) => (.array vs, c)
  | '\x7b' :: _ =>
    match depth with
    | 0 => c.failPeek .tooDeep
    | depth + 1 =>
      let member (name : String) (gathered : List (String × Value)) (c : Cursor) :=
        match colon c with
        | .error e => .error e
        | .ok c => (value depth c).map fun (v, c) => (Members.insert name v gathered, c)
      (members member true [] (c.skip 1) c.steps).map fun (ms, c) => (.object ms, c)
  | d :: _ =>
    if d.isDigit then (number true c).map fun (n, c) => (.number n, c)
    else c.failPeek .expectedValue
termination_by structural depth

/-! ## Skipping -/

/-- The kind of bracket that a skipped value is inside of. -/
inductive Bracket where
  | list
  | object
deriving DecidableEq

/-- The fault of a text that ends inside of a bracket. -/
def Bracket.endProblem : Bracket → Problem
  | .list => .endInList
  | .object => .endInObject

/-- The fault of a text in which an item is followed by neither a comma nor the closing bracket. -/
def Bracket.separatorProblem : Bracket → Problem
  | .list => .expectedListEnd
  | .object => .expectedObjectEnd

/-- The closing bracket. -/
def Bracket.closing : Bracket → Char
  | .list => ']'
  | .object => '\x7d'

/-- Skips a member's name and the colon. -/
def skipName (c : Cursor) : Except Error Cursor :=
  let c := c.skipSpaces
  match c.rest with
  | [] => c.failPeek .endInObject
  | '"' :: _ =>
    match stringBody .skip (c.skip 1).rest (c.skip 1).position with
    | .error e => .error e
    | .ok (_, c) => colon c
  | _ => c.failPeek .keyNotAString

/-- Where the skipping of a value stands: before a value, or after one (or after an opening bracket,
when `opened`), inside of the given brackets. -/
inductive SkipState where
  | before (brackets : List Bracket)
  | after (opened : Bool) (brackets : List Bracket)

/-- One step of skipping: the text after the whole value, or the next state. -/
def skipStep (c : Cursor) : SkipState → Except Error (Cursor ⊕ (SkipState × Cursor))
  | .before brackets =>
    let c := c.skipSpaces
    let passed (c : Except Error Cursor) := c.map fun c => .inr (.after false brackets, c)
    match c.rest with
    | [] => c.failPeek .endInValue
    | 'n' :: _ => passed (word "ull".toList (c.skip 1))
    | 't' :: _ => passed (word "rue".toList (c.skip 1))
    | 'f' :: _ => passed (word "alse".toList (c.skip 1))
    | '-' :: _ => passed (skipNumber (c.skip 1))
    | '"' :: _ =>
      passed ((stringBody .skip (c.skip 1).rest (c.skip 1).position).map Prod.snd)
    | '[' :: _ => .ok (.inr (.after true (.list :: brackets), c.skip 1))
    | '\x7b' :: _ => .ok (.inr (.after true (.object :: brackets), c.skip 1))
    | d :: _ => if d.isDigit then passed (skipNumber c) else c.failPeek .expectedValue
  | .after _ [] => .ok (.inl c)
  | .after opened (bracket :: brackets) =>
    let c := c.skipSpaces
    let next (c : Cursor) : Except Error (Cursor ⊕ (SkipState × Cursor)) :=
      match bracket with
      | .list => .ok (.inr (.before (bracket :: brackets), c))
      | .object => (skipName c).map fun c => .inr (.before (bracket :: brackets), c)
    match c.rest with
    | [] => c.failPeek bracket.endProblem
    | ch :: _ =>
      if ch == bracket.closing then .ok (.inr (.after false brackets, c.skip 1))
      else if opened then next c
      else if ch == ',' then next (c.skip 1)
      else c.failPeek bracket.separatorProblem

/-- Skips on from a state. -/
def skipFrom (state : SkipState) (c : Cursor) : Nat → Except Error Cursor
  | 0 => c.fail .endInValue
  | steps + 1 =>
    match skipStep c state with
    | .error e => .error e
    | .ok (.inl c) => .ok c
    | .ok (.inr (state, c)) => skipFrom state c steps

/-- Skips a value. -/
def skipValue (c : Cursor) : Except Error Cursor :=
  skipFrom (.before []) c (2 * c.steps + 1)

/-! ## Whole texts -/

/-- Reads a text that holds one thing and blanks around it. -/
def readAll {α : Type} (reader : Cursor → Result α) (s : String) : Except Error α :=
  match reader (.ofString s) with
  | .error e => .error e
  | .ok (a, c) =>
    let c := c.skipSpaces
    if c.rest.isEmpty then .ok a else c.failPeek .trailingCharacters

/-- Reads a value that makes up the whole text. -/
def parse (s : String) : Except Error Value :=
  readAll (value depthLimit) s

end SqlppBench.Json
