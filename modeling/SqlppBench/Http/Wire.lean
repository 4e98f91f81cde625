import SqlppBench.Http.Answer
import SqlppBench.Http.Request

/-! # Requests and answers on the wire

The bytes of a request, and the answer that is read from all bytes that come back until the peer
closes the connection.
-/

namespace SqlppBench.Http

/-- The end of a line of a head. -/
def lineEnd : String := "\x0D\n"

/-- The bytes of a request, after which the peer is to close the connection. -/
def Request.wire (r : Request) : Bytes :=
  let u := r.endpoint.url
  let body := r.body
  Utf8.encode <| lineEnd.intercalate
    [Request.method ++ " " ++ u.target ++ " HTTP/1.1", "host: " ++ u.authorityText,
      "accept: */*", "connection: close", "content-type: " ++ Request.contentType,
      "content-length: " ++ Text.decimal body.utf8ByteSize, "", body]

/-! ## Heads -/

/-- The head of an answer. -/
structure AnswerHead where
  status : Nat
  /-- The fields by their names in small letters. -/
  fields : List (String × String)
deriving DecidableEq, Repr

/-- Reads a field of a head. -/
def field? (line : List Char) : Option (String × String) :=
  (Text.splitAtFirst? [':'] line).map fun (name, value) =>
    (String.ofList (name.map Char.toLower), String.ofList (Text.trimChars value))

/-- Reads the lines of a head. -/
def AnswerHead.ofLines? : List (List Char) → Option AnswerHead
  | [] => none
  | first :: rest =>
    match Text.after? "HTTP/1.".toList first with
    | some (_ :: ' ' :: status) =>
      (Text.digits? 10 (status.take 3)).map fun n => ⟨n, rest.filterMap field?⟩
    | _ => none

/-- Splits bytes behind the empty line that ends a head. The characters of a head stand for bytes.
-/
def splitHead (s : Bytes) : Option (AnswerHead × Bytes) :=
  (Text.splitAtFirst? (Utf8.encode (lineEnd ++ lineEnd)) s).bind fun (front, rest) =>
    let lines := (Text.piecesBy (· == lineFeed) front).map withoutReturn
    (AnswerHead.ofLines? (lines.map fun line => line.map fun b => Char.ofNat b.toNat)).map
      fun head => (head, rest)

/-! ## Bodies -/

/-- Reads a body that comes in chunks, each behind a line with its size. -/
def chunks (failure : String) (before : Bytes) (s : Bytes) : Nat → Body
  | 0 => { bytes := before, failure := some failure }
  | steps + 1 =>
    match Text.splitAtFirst? (Utf8.encode lineEnd) s with
    | none => { bytes := before, failure := some failure }
    | some (line, rest) =>
      let digits := (line.map fun b => Char.ofNat b.toNat).takeWhile fun c =>
        (Text.digitValue? c).isSome
      match Text.digits? 16 digits with
      | none => { bytes := before, failure := some "invalid chunk size" }
      | some 0 => { bytes := before }
      | some n =>
        let before := before ++ rest.take n
        if rest.length < n + 2 then { bytes := before, failure := some failure }
        else chunks failure before (rest.drop (n + 2)) steps

/-- The body behind a head. -/
def AnswerHead.body (h : AnswerHead) (s : Bytes) (failure : Option String) : Body :=
  let reason := failure.getD closedEarly
  if (h.fields.lookup "transfer-encoding").any fun v => v.toLower == "chunked" then
    chunks reason [] s (s.length + 1)
  else
    match (h.fields.lookup "content-length").bind fun v => Text.digits? 10 v.toList with
    | some n =>
      if s.length < n then { bytes := s, failure := some reason } else { bytes := s.take n }
    | none => { bytes := s, failure }

/-- Reads an answer from the bytes that came back. Answers that only announce others are passed
over. -/
def Answer.ofWire (s : Bytes) (failure : Option String) : Nat → Answer
  | 0 => .dropped (failure.getD closedEarly)
  | steps + 1 =>
    match splitHead s with
    | none => .dropped (failure.getD closedEarly)
    | some (head, rest) =>
      if isInterim head.status then Answer.ofWire rest failure steps
      else .ofStatus head.status (head.body rest failure)

end SqlppBench.Http
