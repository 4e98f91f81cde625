import SqlppBench.Text.Numeral
import SqlppBench.Text.Utf8

/-! # Bytes as hexadecimal digits

A byte is two digits, the high half first. Writing uses one case throughout; reading takes either
and names the first fault.
-/

namespace SqlppBench.Hex

/-- The case of the digits that are written. -/
inductive Case where
  | lower
  | upper
deriving DecidableEq, Repr

/-- The digit of a value below sixteen. -/
def digit (case : Case) (n : Nat) : Char :=
  if n < 10 then Char.ofNat (48 + n)
  else match case with
    | .lower => Char.ofNat (87 + n)
    | .upper => Char.ofNat (55 + n)

/-- The digits of a number, without leading zeros. -/
def numeral (n : Nat) : List Char :=
  if n < 16 then [digit .lower n] else numeral (n / 16) ++ [digit .lower (n % 16)]

/-- The two digits of a byte. -/
def pair (case : Case) (b : UInt8) : List Char :=
  [digit case (b.toNat / 16), digit case (b.toNat % 16)]

/-- The digits of a sequence of bytes. -/
def encodeChars (case : Case) (s : Bytes) : List Char :=
  s.flatMap (pair case)

/-- The digits of a sequence of bytes. -/
def encode (case : Case) (s : Bytes) : String :=
  String.ofList (encodeChars case s)

/-- Why a text is not the digits of a sequence of bytes. -/
inductive Fault where
  /-- The text has an odd number of bytes. -/
  | oddLength
  /-- The byte at this index, as a character, is no digit. -/
  | notADigit (c : Char) (index : Nat)
deriving DecidableEq, Repr

/-- Reads pairs of digits, the first of them at `index`. -/
def decodePairs (index : Nat) : Bytes → Except Fault Bytes
  | [] => .ok []
  | [_] => .error .oddLength
  | a :: b :: s =>
    let high := Char.ofNat a.toNat
    let low := Char.ofNat b.toNat
    match Text.digitValue? high, Text.digitValue? low with
    | none, _ => .error (.notADigit high index)
    | _, none => .error (.notADigit low (index + 1))
    | some h, some l => (decodePairs (index + 2) s).map (UInt8.ofNat (16 * h + l) :: ·)

/-- The bytes that a text of digits stands for. An odd length is found before a wrong digit. -/
def decode (s : String) : Except Fault Bytes :=
  let bytes := Utf8.encode s
  if bytes.length % 2 = 1 then .error .oddLength else decodePairs 0 bytes

end SqlppBench.Hex
