import SqlppBench.Text.Hex

/-! # Percent encoding

A byte that may not stand for itself in some part of a URL is written as `%` and two digits. Which
bytes these are depends on the part.
-/

namespace SqlppBench.Url

/-- A byte as `%` and two digits. -/
def percentByte (b : UInt8) : List Char :=
  '%' :: Hex.pair .upper b

/-- Encodes the characters of a set, and all that are not ASCII, byte by byte. -/
def percentEncode (inSet : Char → Bool) (s : List Char) : List Char :=
  s.flatMap fun c =>
    if c.toNat ≥ 128 || inSet c then (String.utf8EncodeChar c).flatMap percentByte else [c]

/-- Replaces each `%` that two digits follow, together with them, by the byte that they name. -/
def percentDecode : Bytes → Bytes
  | [] => []
  | a :: b :: c :: s =>
    if a == 37 then
      match Text.digitValue? (Char.ofNat b.toNat), Text.digitValue? (Char.ofNat c.toNat) with
      | some h, some l => UInt8.ofNat (16 * h + l) :: percentDecode s
      | _, _ => a :: percentDecode (b :: c :: s)
    else a :: percentDecode (b :: c :: s)
  | a :: s => a :: percentDecode s

/-! ## The sets -/

/-- The control characters of ASCII. -/
def isControl (c : Char) : Bool :=
  c < ' ' || c == '\x7F'

/-- What is encoded in a fragment. -/
def fragmentSet (c : Char) : Bool :=
  isControl c || " \"<>\x60".toList.contains c

/-- What is encoded in the query of a URL with a known scheme. -/
def querySet (c : Char) : Bool :=
  isControl c || " \"#<>\x27".toList.contains c

/-- What is encoded in a path. -/
def pathSet (c : Char) : Bool :=
  fragmentSet c || "#?\x7b\x7d".toList.contains c

/-- What is encoded in a user name or a password. -/
def userSet (c : Char) : Bool :=
  pathSet c || "/:;=@[\\]^|".toList.contains c

end SqlppBench.Url
