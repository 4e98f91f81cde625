import SqlppBench.Text.Hex
import SqlppBench.Text.Printable

/-! # Texts quoted for a message

How error messages show a text: between quotes, with escapes for whatever would not be seen.
-/

namespace SqlppBench.Text

/-- One character of a text between `quote`s. -/
def quotedChar (quote c : Char) : List Char :=
  if c == '\x00' then ['\\', '0']
  else if c == '\t' then ['\\', 't']
  else if c == '\n' then ['\\', 'n']
  else if c == '\x0D' then ['\\', 'r']
  else if c == '\\' || c == quote then ['\\', c]
  else if isShown c then [c]
  else ['\\', 'u', '\x7b'] ++ Hex.numeral c.toNat ++ ['\x7d']

/-- A text between double quotes. -/
def quoted (s : String) : String :=
  String.ofList ('"' :: s.toList.flatMap (quotedChar '"') ++ ['"'])

/-- A character between single quotes. -/
def quotedSingle (c : Char) : String :=
  String.ofList ('\x27' :: quotedChar '\x27' c ++ ['\x27'])

/-- A list of items between brackets. -/
def bracketed (items : List String) : String :=
  "[" ++ ", ".intercalate items ++ "]"

end SqlppBench.Text

namespace SqlppBench.Hex

/-- What a message says about the fault. -/
def Fault.message : Fault → String
  | .oddLength => "Odd number of digits"
  | .notADigit c index =>
    "Invalid character " ++ Text.quotedSingle c ++ " at position " ++ Text.decimal index

end SqlppBench.Hex
