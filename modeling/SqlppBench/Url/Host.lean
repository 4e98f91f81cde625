import SqlppBench.Text.Numeral
import SqlppBench.Url.Idna

/-! # Hosts

A host is a domain name or a numeric address. Numeric addresses have many spellings, which are all
read, and one that is written. Names are written in any letters, and looked up in ASCII.
-/

namespace SqlppBench.Url

/-- Why a text is not a URL. -/
inductive Fault where
  /-- The text does not begin with a scheme. -/
  | noScheme
  | emptyHost
  /-- The name of the host has a character that no name may have, or cannot be had in ASCII. -/
  | badName
  /-- The host of a URL of some other scheme has a character that no such host may have. -/
  | badOpaqueHost
  | badPort
  | badIpv4
  | badIpv6
deriving DecidableEq, Repr

/-- What is said about the fault. -/
def Fault.message : Fault → String
  | .noScheme => "relative URL without a base"
  | .emptyHost => "empty host"
  | .badName => "invalid international domain name"
  | .badOpaqueHost => "invalid domain character"
  | .badPort => "invalid port number"
  | .badIpv4 => "invalid IPv4 address"
  | .badIpv6 => "invalid IPv6 address"

/-- The host of a URL. -/
inductive Host where
  | domain (name : String)
  /-- An address of 32 bits. -/
  | ipv4 (address : Nat)
  /-- An address of eight pieces of 16 bits. -/
  | ipv6 (pieces : List Nat)
deriving DecidableEq, Repr

/-! ## Addresses of 32 bits -/

/-- The value of one part of an address: octal after a zero, base sixteen after `0x`. -/
def ipv4Number? : List Char → Option Nat
  | [] => none
  | ['0'] => some 0
  | '0' :: x :: s =>
    if x == 'x' || x == 'X' then (if s.isEmpty then some 0 else Text.digits? 16 s)
    else Text.digits? 8 (x :: s)
  | s => Text.digits? 10 s

/-- The parts of a dotted name, without an empty one at the end. -/
def dottedParts (s : List Char) : List (List Char) :=
  let parts := Text.piecesBy (· == '.') s
  if parts.length > 1 && parts.getLast?.any List.isEmpty then parts.dropLast else parts

/-- Whether a name has to be read as an address, since its last part is a number. -/
def endsInNumber (s : List Char) : Bool :=
  match (dottedParts s).getLast? with
  | none => false
  | some last => (!last.isEmpty && last.all Char.isDigit) || (ipv4Number? last).isSome

/-- The address with these parts; the last part fills all the bytes that the others leave. -/
def ipv4OfParts (numbers : List Nat) : Except Fault Nat :=
  let rest := numbers.dropLast
  match numbers.getLast? with
  | none => .error .badIpv4
  | some last =>
    if numbers.length > 4 || rest.any (· > 255) || last ≥ Nat.pow 256 (5 - numbers.length) then
      .error .badIpv4
    else
      .ok (rest.zipIdx.foldl (fun sum (n, i) => sum + n * Nat.pow 256 (3 - i)) last)

/-- Reads an address of 32 bits. -/
def ipv4OfChars (s : List Char) : Except Fault Nat :=
  match (dottedParts s).mapM ipv4Number? with
  | none => .error .badIpv4
  | some numbers => ipv4OfParts numbers

/-- The four bytes of an address in base ten. -/
def ipv4Text (address : Nat) : String :=
  ".".intercalate ([3, 2, 1, 0].map fun i => Text.decimal (address / Nat.pow 256 i % 256))

/-! ## Addresses of 128 bits -/

/-- A piece of up to four digits. -/
def ipv6Piece? (s : List Char) : Option Nat :=
  if s.length > 4 then none else Text.digits? 16 s

/-- The two pieces of an address of 32 bits at the end of a longer one. It must be written as four
numbers below 256 without leading zeros. -/
def embeddedIpv4? (s : List Char) : Option (List Nat) :=
  let byte? (part : List Char) : Option Nat :=
    if part.length > 1 && part.head? == some '0' then none
    else (Text.digits? 10 part).filter (· < 256)
  match (Text.piecesBy (· == '.') s).mapM byte? with
  | some [a, b, c, d] => some [256 * a + b, 256 * c + d]
  | _ => none

/-- The pieces between colons; the last may be an address of 32 bits. -/
def ipv6Run? : List (List Char) → Option (List Nat)
  | [] => some []
  | [last] => if last.contains '.' then embeddedIpv4? last else (ipv6Piece? last).map ([·])
  | part :: parts => do
    let piece ← ipv6Piece? part
    return piece :: (← ipv6Run? parts)

/-- Reads a run of pieces, which may be empty. -/
def ipv6Pieces? (s : List Char) : Option (List Nat) :=
  if s.isEmpty then some [] else ipv6Run? (Text.piecesBy (· == ':') s)

/-- Reads an address of 128 bits: eight pieces, or fewer around two colons that stand for at least
one zero piece. -/
def ipv6OfChars (s : List Char) : Except Fault (List Nat) :=
  let pieces? : Option (List Nat) :=
    match Text.splitAtFirst? "::".toList s with
    | none => (ipv6Pieces? s).filter (·.length == 8)
    | some (front, back) => do
      let front ← if front.contains '.' then none else ipv6Pieces? front
      let back ← ipv6Pieces? back
      if front.length + back.length > 7 then none
      else some (front ++ List.replicate (8 - front.length - back.length) 0 ++ back)
  match pieces? with
  | some pieces => .ok pieces
  | none => .error .badIpv6

/-- The length of the run of zeros at the front. -/
def zeroRun (pieces : List Nat) : Nat :=
  (pieces.takeWhile (· == 0)).length

/-- The first longest run of zeros, as its place and its length. -/
def longestZeroRun (pieces : List Nat) : Nat × Nat :=
  (List.range pieces.length).foldl
    (fun best i =>
      let n := zeroRun (pieces.drop i)
      if n > best.2 then (i, n) else best)
    (0, 0)

/-- The digits of a piece. -/
def ipv6PieceText (n : Nat) : String :=
  String.ofList (Hex.numeral n)

/-- Pieces with colons between them. -/
def ipv6RunText (pieces : List Nat) : String :=
  ":".intercalate (pieces.map ipv6PieceText)

/-- The text of an address of 128 bits: two colons stand for the first longest run of at least two
zero pieces. -/
def ipv6Text (pieces : List Nat) : String :=
  let (start, n) := longestZeroRun pieces
  if n < 2 then ipv6RunText pieces
  else ipv6RunText (pieces.take start) ++ "::" ++ ipv6RunText (pieces.drop (start + n))

/-! ## Hosts -/

/-- The characters that the host of a URL of some other scheme may not have. -/
def isForbiddenInOpaque (c : Char) : Bool :=
  "\x00\t\n\x0D #/:<>?@[\\]^|".toList.contains c

namespace Host

/-- Reads an address between brackets, of which the opening one has been read. -/
def ofBracketed (s : List Char) : Except Fault Host :=
  if s.getLast? == some ']' then (ipv6OfChars s.dropLast).map .ipv6 else .error .badIpv6

/-- Reads the name or the address of a host. -/
def ofChars [Idna] (s : List Char) : Except Fault Host :=
  match s with
  | '[' :: rest => ofBracketed rest
  | _ =>
    match (Utf8.decodeChars? (percentDecode (Utf8.encodeChars s))).bind Idna.toAscii with
    | none => .error .badName
    | some name =>
      if name.any isForbiddenInName then .error .badName
      else if name.isEmpty then .error .emptyHost
      else if endsInNumber name then (ipv4OfChars name).map .ipv4
      else .ok (.domain (String.ofList name))

/-- Checks the host of a URL of some other scheme. -/
def checkOpaque (s : List Char) : Except Fault Unit :=
  match s with
  | '[' :: rest => (ofBracketed rest).map fun _ => ()
  | _ => if s.any isForbiddenInOpaque then .error .badOpaqueHost else .ok ()

/-- The text of a host. -/
def text : Host → String
  | .domain name => name
  | .ipv4 address => ipv4Text address
  | .ipv6 pieces => "[" ++ ipv6Text pieces ++ "]"

end Host

end SqlppBench.Url
