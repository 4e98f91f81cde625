import SqlppBench.Text.Utf8

/-! # Answers

What comes back for a request: nothing, or a status and a body. Where the service redirects a
request, the client goes after it by itself, and the answer is the one at the end of that. The body
of an answer may be cut off, in which case the lines that came before the cut can still be read.
-/

namespace SqlppBench.Http

/-- Why a line of a body cannot be read. -/
inductive LineFault where
  /-- The line is not UTF-8. -/
  | notText
  /-- Reading failed before the line was complete. -/
  | broken (reason : String)
deriving DecidableEq, Repr

/-- What is said about the fault. -/
def LineFault.message : LineFault → String
  | .notText => "stream did not contain valid UTF-8"
  | .broken reason => reason

/-- A line of a body, as far as it can be read. -/
abbrev Line := Except LineFault String

/-- The body of an answer: the bytes that arrive, and why no more of them do, if they were to. -/
structure Body where
  bytes : Bytes
  failure : Option String := none
deriving DecidableEq, Repr

/-- The byte that ends a line. -/
def lineFeed : UInt8 := 10

/-- The byte that may stand before a line feed. -/
def carriageReturn : UInt8 := 13

/-- A line from its bytes. -/
def Line.ofBytes (s : Bytes) : Line :=
  match Utf8.decode? s with
  | some text => .ok text
  | none => .error .notText

/-- The bytes of a line that a line feed ends. -/
def withoutReturn (s : Bytes) : Bytes :=
  if s.getLast? == some carriageReturn then s.dropLast else s

/-- The lines of a body: those that a line feed ends, and then the bytes that are left, which are a
line only if there are any and no more were to come. -/
def Body.lines (b : Body) : List Line :=
  let pieces := Text.piecesBy (· == lineFeed) b.bytes
  let ended := pieces.dropLast.map fun s => Line.ofBytes (withoutReturn s)
  let left := pieces.getLast?.getD []
  ended ++
    match b.failure with
    | some reason => [.error (.broken reason)]
    | none => if left.isEmpty then [] else [Line.ofBytes left]

/-- The text of a whole body; one that was cut off has none. -/
def Body.text (b : Body) : String :=
  if b.failure.isSome then "" else decodeBody b.bytes

/-- What comes back for a request. -/
inductive Answer where
  /-- The connection failed before a status arrived. -/
  | dropped (reason : String)
  | response (status : Nat) (body : Body)
deriving DecidableEq, Repr

/-- Whether a status only announces that an answer is to come. -/
def isInterim (status : Nat) : Bool :=
  status < 200 && status != 101

/-- Whether a body follows a status. -/
def hasBody (status : Nat) : Bool :=
  !(status < 200 || status == 204 || status == 304)

/-- What is said when the peer closes the connection too early. -/
def closedEarly : String := "connection closed before message completed"

/-- The answer with a status and what follows it, if no other answer comes. -/
def Answer.ofStatus (status : Nat) (body : Body) : Answer :=
  if isInterim status then .dropped closedEarly
  else .response status (if hasBody status then body else { bytes := [] })

end SqlppBench.Http
