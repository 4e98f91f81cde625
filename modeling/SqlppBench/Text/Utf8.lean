import SqlppBench.Text.Blank

/-! # UTF-8

Characters as bytes and back. The strict reader refuses a malformed text; the lenient one puts
U+FFFD in the place of each longest piece that could have begun a character.
-/

namespace SqlppBench

/-- A piece of binary data. -/
abbrev Bytes := List UInt8

namespace Utf8

/-- The bytes of a list of characters. -/
def encodeChars (s : List Char) : Bytes :=
  s.flatMap String.utf8EncodeChar

/-- The bytes of a text. -/
def encode (s : String) : Bytes :=
  encodeChars s.toList

/-- The number of bytes of a text. -/
def size (s : List Char) : Nat :=
  (s.map Char.utf8Size).foldr (· + ·) 0

/-- What the bytes at hand begin with: a character, or a malformed piece. -/
inductive Head where
  | char (c : Char) (rest : Bytes)
  | malformed (rest : Bytes)

/-- Reads `n` more bytes of a character, the next of them between `low` and `high` and the later
ones between `0x80` and `0xBF`; `code` holds the bits read so far. -/
def tail (code : Nat) (low high : UInt8) : Nat → Bytes → Head
  | 0, rest => .char (Char.ofNat code) rest
  | _ + 1, [] => .malformed []
  | n + 1, b :: rest =>
    if low ≤ b && b ≤ high then tail (code * 64 + (b.toNat - 0x80)) 0x80 0xBF n rest
    else .malformed (b :: rest)

/-- Reads the character that begins with the byte `b`. -/
def head (b : UInt8) (rest : Bytes) : Head :=
  if b < 0x80 then .char (Char.ofNat b.toNat) rest
  else if b < 0xC2 then .malformed rest
  else if b < 0xE0 then tail (b.toNat - 0xC0) 0x80 0xBF 1 rest
  else if b == 0xE0 then tail 0 0xA0 0xBF 2 rest
  else if b == 0xED then tail 0xD 0x80 0x9F 2 rest
  else if b < 0xF0 then tail (b.toNat - 0xE0) 0x80 0xBF 2 rest
  else if b == 0xF0 then tail 0 0x90 0xBF 3 rest
  else if b < 0xF4 then tail (b.toNat - 0xF0) 0x80 0xBF 3 rest
  else if b == 0xF4 then tail 4 0x80 0x8F 3 rest
  else .malformed rest

/-- What is left after the first character or malformed piece. -/
def Head.rest : Head → Bytes
  | .char _ rest => rest
  | .malformed rest => rest

@[simp] theorem Head.rest_char (c : Char) (s : Bytes) : (Head.char c s).rest = s := rfl

@[simp] theorem Head.rest_malformed (s : Bytes) : (Head.malformed s).rest = s := rfl

theorem length_rest_tail (code : Nat) (low high : UInt8) (n : Nat) (s : Bytes) :
    (tail code low high n s).rest.length ≤ s.length := by
  induction n generalizing code low high s with
  | zero => simp [tail]
  | succ n ih =>
    cases s with
    | nil => simp [tail]
    | cons b s =>
      unfold tail
      split
      · have := ih (code * 64 + (b.toNat - 0x80)) 0x80 0xBF s
        simp only [List.length_cons]
        omega
      · simp

/-- Reading a character takes at least its first byte. -/
theorem length_rest_head (b : UInt8) (s : Bytes) : (head b s).rest.length ≤ s.length := by
  unfold head
  repeat' split
  all_goals simp [length_rest_tail]

/-- The characters of a well formed text. -/
def decodeChars? : Bytes → Option (List Char)
  | [] => some []
  | b :: s =>
    match _h : head b s with
    | .char c rest => (decodeChars? rest).map (c :: ·)
    | .malformed _ => none
termination_by s => s.length
decreasing_by
  have := length_rest_head b s
  rw [_h] at this
  simp only [Head.rest_char] at this
  simp only [List.length_cons]
  omega

/-- The text that the bytes spell, if they are well formed. -/
def decode? (s : Bytes) : Option String :=
  (decodeChars? s).map String.ofList

/-- The characters of a text, with U+FFFD for each malformed piece. -/
def decodeCharsLossy : Bytes → List Char
  | [] => []
  | b :: s =>
    match _h : head b s with
    | .char c rest => c :: decodeCharsLossy rest
    | .malformed rest => '\uFFFD' :: decodeCharsLossy rest
termination_by s => s.length
decreasing_by
  all_goals
    have := length_rest_head b s
    rw [_h] at this
    simp only [Head.rest_char, Head.rest_malformed] at this
    simp only [List.length_cons]
    omega

/-- The text that the bytes spell, with U+FFFD for each malformed piece. -/
def decodeLossy (s : Bytes) : String :=
  String.ofList (decodeCharsLossy s)

end Utf8

/-! ## Texts of announced encoding -/

namespace Utf16

/-- The 16-bit units of a byte sequence, low byte first when `little`; a last odd byte is a unit
of its own that begins no character. -/
def units (little : Bool) : Bytes → List (Option Nat)
  | [] => []
  | [_] => [none]
  | a :: b :: s =>
    some (if little then a.toNat + 256 * b.toNat else 256 * a.toNat + b.toNat) :: units little s

/-- The characters of a sequence of units, with U+FFFD for each unit that is no part of a
character. -/
def decodeUnits : List (Option Nat) → List Char
  | [] => []
  | none :: s => '\uFFFD' :: decodeUnits s
  | some u :: some v :: s =>
    if 0xD800 ≤ u && u < 0xDC00 && 0xDC00 ≤ v && v < 0xE000 then
      Char.ofNat (0x10000 + (u - 0xD800) * 1024 + (v - 0xDC00)) :: decodeUnits s
    else if 0xD800 ≤ u && u < 0xE000 then '\uFFFD' :: decodeUnits (some v :: s)
    else Char.ofNat u :: decodeUnits (some v :: s)
  | some u :: s =>
    (if 0xD800 ≤ u && u < 0xE000 then '\uFFFD' else Char.ofNat u) :: decodeUnits s

end Utf16

/-- The text of a body that announces no encoding: UTF-8, unless a byte order mark names another
encoding. The mark itself is dropped. -/
def decodeBody (s : Bytes) : String :=
  match s with
  | 0xEF :: 0xBB :: 0xBF :: rest => Utf8.decodeLossy rest
  | 0xFF :: 0xFE :: rest => String.ofList (Utf16.decodeUnits (Utf16.units true rest))
  | 0xFE :: 0xFF :: rest => String.ofList (Utf16.decodeUnits (Utf16.units false rest))
  | _ => Utf8.decodeLossy s

end SqlppBench
