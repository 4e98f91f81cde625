import SqlppBench.Http.Answer
import SqlppBench.Http.Reason
import SqlppBench.Json.Decode
import SqlppBench.Text.Blank

/-! # Messages of the service

When a statement fails, the body of the answer tells why, in a member named `msg` somewhere in it. A
body that is not JSON, for instance because it was cut, is searched line by line instead.
-/

namespace SqlppBench.ServiceMessage

/-- The name of the member that holds a message. -/
def memberName : String := "msg"

mutual

/-- The first message in a value: an object's own one comes before those within its members. -/
def find? : Json.Value → Option String
  | .object members =>
    match Members.get? memberName members with
    | some (.string message) => some message
    | _ => findMember? members
  | .array items => findItem? items
  | _ => none

/-- The first message in a list of items. -/
def findItem? : List Json.Value → Option String
  | [] => none
  | v :: rest =>
    match find? v with
    | some message => some message
    | none => findItem? rest

/-- The first message within the members of an object. -/
def findMember? : List (String × Json.Value) → Option String
  | [] => none
  | (_, v) :: rest =>
    match find? v with
    | some message => some message
    | none => findMember? rest

end

/-- The name of the member and the colon, as they stand on a line. -/
def mark : List Char :=
  "\"msg\":".toList

/-- The message on a line: the string behind the first mark, without the commas behind it. -/
def ofLine? (line : List Char) : Option String :=
  match Text.splitAtFirst? mark line with
  | none => none
  | some (_, rest) =>
    let literal := Text.dropBlanksEnd (Text.dropEndWhile (· == ',') (Text.trimChars rest))
    (Json.readAll Json.anyText (String.ofList literal)).toOption

/-- The lines of a text. -/
def textLines (s : List Char) : List (List Char) :=
  (Text.piecesBy (· == '\n') s).map fun line =>
    if line.getLast? == some '\x0D' then line.dropLast else line

/-- The message in the text of a body. -/
def ofText? (body : String) : Option String :=
  match (Json.parse body).toOption.bind find? with
  | some message => some message
  | none => (textLines body.toList).findSome? ofLine?

/-- What is said about an answer that is not a success: the message in its body, or else the phrase
that goes with its status. -/
def ofAnswer (status : Nat) (body : Http.Body) : String :=
  (ofText? body.text).getD (Http.reason status)

end SqlppBench.ServiceMessage
