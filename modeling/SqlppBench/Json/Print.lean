import SqlppBench.Json.Value
import SqlppBench.Text.Hex

/-! # JSON text

Values as text, on one line without blanks or over indented lines.
-/

namespace SqlppBench.Json

/-- Doubles between `10 ^ -5` and `10 ^ 16` are written in positional notation, the others with an
exponent that carries its sign. -/
def layout : Decimal.Layout := ⟨-5, 15, true⟩

/-- The text of a number. -/
def numberText (n : Number) : String :=
  n.text (Number.realText layout "null" "null")

/-! ## Strings -/

/-- The character of the short escape, for the characters that have one. -/
def shortEscape? (c : Char) : Option Char :=
  if c == '"' then some '"'
  else if c == '\\' then some '\\'
  else if c == '\x08' then some 'b'
  else if c == '\x0C' then some 'f'
  else if c == '\n' then some 'n'
  else if c == '\x0D' then some 'r'
  else if c == '\t' then some 't'
  else none

/-- One character within a string: quotes, backslashes and controls are escaped, all else stands
for itself. -/
def escapeChar (c : Char) : List Char :=
  match shortEscape? c with
  | some e => ['\\', e]
  | none => if c < ' ' then ['\\', 'u', '0', '0'] ++ Hex.pair .lower (UInt8.ofNat c.toNat) else [c]

/-- The characters of a string between its quotes. -/
def stringChars (s : List Char) : List Char :=
  '"' :: s.flatMap escapeChar ++ ['"']

/-- The text of a string. -/
def stringText (s : String) : String :=
  String.ofList (stringChars s.toList)

/-! ## Values -/

/-- Items between brackets on one line. -/
def joined (opening closing : String) (items : List String) : String :=
  opening ++ ",".intercalate items ++ closing

/-- Items between brackets, each on a line of its own that begins with `indent` blanks more than the
line of the brackets; nothing between the brackets when there is no item. -/
def stacked (opening closing : String) (indent : Nat) (items : List String) : String :=
  let blanks (n : Nat) := String.ofList (List.replicate (2 * n) ' ')
  if items.isEmpty then opening ++ closing
  else
    opening ++ "\n" ++ blanks (indent + 1) ++ (",\n" ++ blanks (indent + 1)).intercalate items ++
      "\n" ++ blanks indent ++ closing

mutual

/-- The text of a value on one line. -/
def Value.compact : Value → String
  | .null => "null"
  | .bool b => toString b
  | .number n => numberText n
  | .string s => stringText s
  | .array items => joined "[" "]" (compactItems items)
  | .object members => joined "\x7b" "\x7d" (compactMembers members)

/-- The texts of the items of an array. -/
def compactItems : List Value → List String
  | [] => []
  | v :: rest => v.compact :: compactItems rest

/-- The texts of the members of an object. -/
def compactMembers : List (String × Value) → List String
  | [] => []
  | (name, v) :: rest => (stringText name ++ ":" ++ v.compact) :: compactMembers rest

end

mutual

/-- The text of a value over indented lines, the first of them indented already. -/
def Value.prettyAt (indent : Nat) : Value → String
  | .null => "null"
  | .bool b => toString b
  | .number n => numberText n
  | .string s => stringText s
  | .array items => stacked "[" "]" indent (prettyItems (indent + 1) items)
  | .object members => stacked "\x7b" "\x7d" indent (prettyMembers (indent + 1) members)

/-- The texts of the items of an array. -/
def prettyItems (indent : Nat) : List Value → List String
  | [] => []
  | v :: rest => v.prettyAt indent :: prettyItems indent rest

/-- The texts of the members of an object. -/
def prettyMembers (indent : Nat) : List (String × Value) → List String
  | [] => []
  | (name, v) :: rest =>
    (stringText name ++ ": " ++ v.prettyAt indent) :: prettyMembers indent rest

end

/-- The text of a value over indented lines. -/
def Value.pretty (v : Value) : String :=
  v.prettyAt 0

end SqlppBench.Json
