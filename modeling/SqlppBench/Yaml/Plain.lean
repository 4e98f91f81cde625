import SqlppBench.Text.Numeral
import SqlppBench.Yaml.Cursor
import SqlppBench.Yaml.Value

/-! # What plain scalars say

A scalar without quotes may be a word for null or a truth value, or a number; any other is a string.
Whole numbers have 64 bits. One that is larger, but has no more than 128 bits, is refused, since it
would lose digits as a double; one that is larger still is a double if it is written in base ten.
-/

namespace SqlppBench.Yaml

/-- Whether the text is a word for null. -/
def isNullWord (s : String) : Bool :=
  ["null", "Null", "NULL", "~"].contains s

/-- The truth value that a word stands for. -/
def boolWord? (s : String) : Option Bool :=
  if ["true", "True", "TRUE"].contains s then some true
  else if ["false", "False", "FALSE"].contains s then some false
  else none

/-! ## Whole numbers -/

/-- Whether these are digits that make up no number: those after a leading zero. -/
def isZeroLed (s : List Char) : Bool :=
  let digits := match s with
    | '-' :: rest | '+' :: rest => rest
    | _ => s
  match digits with
  | '0' :: rest => !rest.isEmpty && rest.all Char.isDigit
  | _ => false

/-- Reads a number without a sign: its base, if it is not ten, and its digits. -/
def magnitude? (s : List Char) : Option Nat :=
  match s with
  | '0' :: 'x' :: digits => Text.digits? 16 digits
  | '0' :: 'o' :: digits => Text.digits? 8 digits
  | '0' :: 'b' :: digits => Text.digits? 2 digits
  | _ => if isZeroLed s then none else Text.digits? 10 s

/-- Reads a whole number of any size. -/
def whole? (s : List Char) : Option Int :=
  match s with
  | '-' :: rest => (magnitude? rest).map fun n => -(n : Int)
  | '+' :: rest => (magnitude? rest).map Int.ofNat
  | _ => (magnitude? s).map Int.ofNat

/-- Whether a signed or an unsigned word of so many bits can hold the number. -/
def fits (bits : Nat) (n : Int) : Bool :=
  -(Nat.pow 2 (bits - 1) : Int) ≤ n && n < (Nat.pow 2 bits : Int)

/-! ## Doubles -/

/-- Reads a power of ten behind the digits, if one is there. -/
def power? (s : List Char) : Option Int :=
  match s with
  | [] => some 0
  | e :: rest =>
    if e != 'e' && e != 'E' then none
    else match rest with
      | '-' :: digits => (Text.digits? 10 digits).map fun n => -(n : Int)
      | '+' :: digits => (Text.digits? 10 digits).map Int.ofNat
      | digits => (Text.digits? 10 digits).map Int.ofNat

/-- Reads digits, of which some may be behind a point, and a power of ten. -/
def decimal? (s : List Char) : Option Decimal :=
  let whole := s.takeWhile Char.isDigit
  let (places, rest) : List Char × List Char := match s.dropWhile Char.isDigit with
    | '.' :: rest => (rest.takeWhile Char.isDigit, rest.dropWhile Char.isDigit)
    | rest => ([], rest)
  match Text.digits? 10 (whole ++ places), power? rest with
  | some digits, some power => some ⟨digits, power - places.length⟩
  | _, _ => none

/-- Reads a finite double without a plus sign. -/
def finite? (s : List Char) : Option Float :=
  let (negative, s) : Bool × List Char := match s with
    | '-' :: rest => (true, rest)
    | _ => (false, s)
  (decimal? s).bind fun d =>
    let f := Decimal.toFloat d
    if f.isFinite then some (if negative then -f else f) else none

/-- Reads a double. -/
def real? (s : List Char) : Option Float :=
  let unsigned := match s with
    | '+' :: rest => rest
    | _ => s
  if [".inf", ".Inf", ".INF"].contains (String.ofList unsigned) then some (1.0 / 0.0)
  else if ["-.inf", "-.Inf", "-.INF"].contains (String.ofList s) then some (-1.0 / 0.0)
  else if [".nan", ".NaN", ".NAN"].contains (String.ofList s) then some (0.0 / 0.0)
  else if s.head? == some '+' && unsigned.head? == some '-' then none
  else finite? unsigned

/-! ## Scalars -/

/-- Reads a whole number of 64 bits. -/
def wholeNumber (n : Int) : Except Fault Value :=
  if fits 64 n then .ok (.number (.whole n)) else .error .scalar

/-- The value of a scalar that is written without quotes. -/
def Value.ofPlain (s : String) : Except Fault Value :=
  if s.isEmpty || isNullWord s then .ok .null
  else
    match boolWord? s with
    | some b => .ok (.bool b)
    | none =>
      match (whole? s.toList).filter (fits 128) with
      | some n => wholeNumber n
      | none =>
        match if isZeroLed s.toList then none else real? s.toList with
        | some f => .ok (.number (.real f))
        | none => .ok (.string s)

/-- The value of a scalar with one of the tags that name a type, if the tag is one of them. -/
def Value.ofTyped? (tag s : String) : Option (Except Fault Value) :=
  let orFault (v : Option Value) : Except Fault Value :=
    match v with
    | some v => .ok v
    | none => .error .scalar
  if tag == "tag:yaml.org,2002:bool" then some (orFault ((boolWord? s).map .bool))
  else if tag == "tag:yaml.org,2002:int" then
    some (match whole? s.toList with
      | some n => wholeNumber n
      | none => .error .scalar)
  else if tag == "tag:yaml.org,2002:float" then
    some (orFault ((real? s.toList).map fun f => .number (.real f)))
  else if tag == "tag:yaml.org,2002:null" then
    some (if isNullWord s then .ok .null else .error .scalar)
  else none

end SqlppBench.Yaml
