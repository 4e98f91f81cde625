import SqlppBench.Endpoint

/-! # Requests

A statement is posted to the endpoint as a field of a form.
-/

namespace SqlppBench.Http

/-- Whether a byte stands for itself in a form. -/
def isPlain (b : UInt8) : Bool :=
  let c := Char.ofNat b.toNat
  c.isAlphanum || "*-._".contains c

/-- One byte of the text of a form: a blank is a plus sign. -/
def formByte (b : UInt8) : List Char :=
  if b == 32 then ['+'] else if isPlain b then [Char.ofNat b.toNat] else Url.percentByte b

/-- The text of a name or a value in a form. -/
def formText (s : String) : String :=
  String.ofList ((Utf8.encode s).flatMap formByte)

/-- The text of a form. -/
def form (fields : List (String × String)) : String :=
  "&".intercalate (fields.map fun (name, value) => formText name ++ "=" ++ formText value)

/-- A request that a statement be run. -/
structure Request where
  endpoint : Endpoint
  statement : String

namespace Request

/-- The method of every request. -/
def method : String := "POST"

/-- The type of the content of every request. -/
def contentType : String := "application/x-www-form-urlencoded"

/-- The content: the statement, to be run at once. -/
def body (r : Request) : String :=
  form [("statement", r.statement), ("mode", "immediate")]

end Request

end SqlppBench.Http
