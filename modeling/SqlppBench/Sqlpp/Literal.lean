import SqlppBench.Json.Print

/-! # SQL++ literals

Keys and field values come from outside and enter the text of a statement only through the three
functions of this module.
-/

namespace SqlppBench.Sqlpp

/-- One character between single quotes: backslashes and quotes are doubled. -/
def quoteChar (c : Char) : List Char :=
  if c == '\\' || c == '\x27' then [c, c] else [c]

/-- The characters of a string literal. -/
def quoteChars (s : List Char) : List Char :=
  '\x27' :: s.flatMap quoteChar ++ ['\x27']

/-- A string literal between single quotes. -/
def quoteLiteral (s : String) : String :=
  String.ofList (quoteChars s.toList)

/-- A string between double quotes, as JSON has it. Names and keys of a record are written so. -/
def jsonString (s : String) : String :=
  Json.stringText s

/-- The constructor of a byte string. -/
def hexConstructor (bytes : Bytes) : String :=
  "hex(\"" ++ Hex.encode .upper bytes ++ "\")"

end SqlppBench.Sqlpp
