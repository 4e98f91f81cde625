import SqlppBench.Json.Error
import SqlppBench.Text.Utf8

/-! # The tokens of a JSON text

Readers for the parts of a text that contain no other values: blanks, words, strings and numbers.
A reader takes the text from a place on and gives back what it read and the rest.
-/

namespace SqlppBench.Json

/-- A text from some place on. -/
structure Cursor where
  rest : List Char
  position : Position

namespace Cursor

/-- A text from its beginning. -/
def ofString (s : String) : Cursor := ⟨s.toList, .start⟩

/-- The text without its first `n` characters. -/
def skip (c : Cursor) (n : Nat) : Cursor :=
  ⟨c.rest.drop n, c.position.afterAll (c.rest.take n)⟩

/-- The place of a fault in the next byte; at the end of the text, the end. -/
def peekPosition (c : Cursor) : Position :=
  match c.rest with
  | [] => c.position
  | ch :: _ => c.position.afterByte ch

/-- A problem found before the next byte. -/
def fail {α : Type} (c : Cursor) (problem : Problem) : Except Error α :=
  .error ⟨problem, c.position⟩

/-- A problem found in the next byte. -/
def failPeek {α : Type} (c : Cursor) (problem : Problem) : Except Error α :=
  .error ⟨problem, c.peekPosition⟩

/-- The blanks that may stand between tokens. -/
def isSpace (c : Char) : Bool :=
  c == ' ' || c == '\n' || c == '\t' || c == '\x0D'

/-- The text from the next token on. -/
def skipSpaces (c : Cursor) : Cursor :=
  c.skip (c.rest.takeWhile isSpace).length

/-- The leading digits and the text after them. -/
def digits (c : Cursor) : List Char × Cursor :=
  let ds := c.rest.takeWhile Char.isDigit
  (ds, c.skip ds.length)

end Cursor

/-- What a reader gives. -/
abbrev Result (α : Type) := Except Error (α × Cursor)

/-! ## Words -/

/-- Reads the letters that are left of a word. -/
def word (letters : List Char) (c : Cursor) : Except Error Cursor :=
  match letters, c.rest with
  | [], _ => .ok c
  | _ :: _, [] => c.fail .endInValue
  | l :: letters, ch :: _ =>
    if ch == l then word letters (c.skip 1) else c.failPeek .expectedWord

/-! ## Strings -/

/-- Whether the characters of a string are wanted, or the string is only skipped. A skipped string
may hold half a surrogate pair. -/
inductive Purpose where
  | keep
  | skip
deriving DecidableEq

/-- The character of a short escape. -/
def unescape? (c : Char) : Option Char :=
  if c == '"' then some '"'
  else if c == '\\' then some '\\'
  else if c == '/' then some '/'
  else if c == 'b' then some '\x08'
  else if c == 'f' then some '\x0C'
  else if c == 'n' then some '\n'
  else if c == 'r' then some '\x0D'
  else if c == 't' then some '\t'
  else none

/-- Reads the four digits of a unit. -/
def hexUnit (s : List Char) (p : Position) : Except Error Nat :=
  if Utf8.size s < 4 then .error ⟨.endInString, p.afterAll s⟩
  else
    match s with
    | a :: b :: c :: d :: _ =>
      match Text.digits? 16 [a, b, c, d] with
      | some n => .ok n
      | none => .error ⟨.invalidEscape, p.afterBytes 4 s⟩
    | _ => .error ⟨.invalidEscape, p.afterBytes 4 s⟩

/-- Whether the unit is the first half of a surrogate pair. -/
def isHighSurrogate (n : Nat) : Bool := 0xD800 ≤ n && n < 0xDC00

/-- Whether the unit is the second half of a surrogate pair. -/
def isLowSurrogate (n : Nat) : Bool := 0xDC00 ≤ n && n < 0xE000

/-- Reads the second half of the surrogate pair that `high` begins, as an escape of its own. -/
def lowSurrogate (high : Nat) (s : List Char) (p : Position) : Except Error Char :=
  match s with
  | [] => .error ⟨.endInString, p⟩
  | c :: s =>
    if c != '\\' then .error ⟨.unfinishedSurrogate, p.afterByte c⟩
    else
      match s with
      | [] => .error ⟨.endInString, p.after c⟩
      | u :: s =>
        if u != 'u' then .error ⟨.unfinishedSurrogate, (p.after c).afterByte u⟩
        else
          match hexUnit s ((p.after c).after u) with
          | .error e => .error e
          | .ok low =>
            if isLowSurrogate low then
              .ok (Char.ofNat (0x10000 + (high - 0xD800) * 1024 + (low - 0xDC00)))
            else .error ⟨.loneSurrogate, ((p.after c).after u).afterAll (s.take 4)⟩

/-- Reads what follows a backslash: the character it stands for and the number of characters it
takes. -/
def escape (purpose : Purpose) (s : List Char) (p : Position) : Except Error (Char × Nat) :=
  match s with
  | [] => .error ⟨.endInString, p⟩
  | c :: s =>
    match unescape? c with
    | some plain => .ok (plain, 1)
    | none =>
      if c != 'u' then .error ⟨.invalidEscape, p.afterByte c⟩
      else
        match hexUnit s (p.after c) with
        | .error e => .error e
        | .ok n =>
          let p := (p.after c).afterAll (s.take 4)
          if purpose = .skip then .ok ('\uFFFD', 5)
          else if isLowSurrogate n then .error ⟨.loneSurrogate, p⟩
          else if isHighSurrogate n then
            (lowSurrogate n (s.drop 4) p).map fun ch => (ch, 11)
          else .ok (Char.ofNat n, 5)

/-- Reads the characters of a string after its opening quote, up to the closing one. -/
def stringBody (purpose : Purpose) (s : List Char) (p : Position) : Result (List Char) :=
  match s with
  | [] => .error ⟨.endInString, p⟩
  | c :: s =>
    if c == '"' then .ok ([], ⟨s, p.after c⟩)
    else if c == '\\' then
      match escape purpose s (p.after c) with
      | .error e => .error e
      | .ok (ch, n) =>
        match stringBody purpose (s.drop n) ((p.after c).afterAll (s.take n)) with
        | .error e => .error e
        | .ok (chars, cursor) => .ok (ch :: chars, cursor)
    else if c < ' ' then
      .error ⟨.controlInString, if purpose = .keep then p.after c else p⟩
    else
      match stringBody purpose s (p.after c) with
      | .error e => .error e
      | .ok (chars, cursor) => .ok (c :: chars, cursor)
termination_by s.length
decreasing_by
  · simp only [List.length_drop, List.length_cons]
    omega
  · simp

/-- Reads a string after its opening quote. -/
def string (c : Cursor) : Result String :=
  (stringBody .keep c.rest c.position).map fun (chars, cursor) => (String.ofList chars, cursor)

/-! ## Numbers -/

/-- One more than the greatest whole number that is kept exactly. -/
def wholeBound : Nat := Nat.pow 2 64

/-- Appends digits to a significand while it stays below the bound: the significand and the digits
that no longer fit. -/
def absorb (significand : Nat) : List Char → Nat × List Char
  | [] => (significand, [])
  | d :: ds =>
    let next := significand * 10 + (d.toNat - 48)
    if next < wholeBound then absorb next ds else (significand, d :: ds)

/-- The double `f * 10 ^ e`, in one rounding step for each factor of at most `10 ^ 308`; nothing if
it is too great. -/
def scaleFloat (f : Float) (e : Int) : Option Float :=
  if e.natAbs ≤ 308 then
    let power := Float.ofScientific 1 false e.natAbs
    if 0 ≤ e then (if (f * power).isInf then none else some (f * power)) else some (f / power)
  else if f == 0.0 then some f
  else if 0 ≤ e then none
  else scaleFloat (f / Float.ofScientific 1 false 308) (e + 308)
termination_by (-e).toNat

/-- The double of a significand and an exponent. -/
def realNumber (positive : Bool) (significand : Nat) (e : Int) (c : Cursor) : Result Number :=
  match scaleFloat significand.toUInt64.toFloat e with
  | none => c.fail .numberOutOfRange
  | some f => .ok (.real (if positive then f else -f), c)

/-- The greatest exponent that is read. -/
def exponentBound : Nat := Nat.pow 2 31

/-- Reads the later digits of an exponent, up to one with which it would be out of bounds. -/
def exponentDigits (e : Nat) (c : Cursor) : List Char → Nat × Cursor × Bool
  | [] => (e, c, true)
  | d :: ds =>
    let next := e * 10 + (d.toNat - 48)
    if next < exponentBound then exponentDigits next (c.skip 1) ds else (e, c.skip 1, false)

/-- Reads an exponent from its letter on, and gives the number that it completes. -/
def exponent (positive : Bool) (significand : Nat) (before : Int) (c : Cursor) : Result Number :=
  let c := c.skip 1
  let (raises, c) := match c.rest with
    | '+' :: _ => (true, c.skip 1)
    | '-' :: _ => (false, c.skip 1)
    | _ => (true, c)
  match c.rest with
  | [] => c.fail .endInValue
  | d :: _ =>
    if !d.isDigit then c.failPeek .invalidNumber
    else
      let first := d.toNat - 48
      match exponentDigits first (c.skip 1) ((c.skip 1).digits.1) with
      | (e, c, true) =>
        realNumber positive significand (if raises then before + e else before - e) c
      | (_, c, false) =>
        if significand ≠ 0 && raises then c.fail .numberOutOfRange
        else .ok (.real (if positive then 0.0 else -0.0), c.digits.2)

/-- Reads what may follow the digits of a double: an exponent. -/
def exponentOrEnd (positive : Bool) (significand : Nat) (e : Int) (c : Cursor) : Result Number :=
  match c.rest with
  | 'e' :: _ => exponent positive significand e c
  | 'E' :: _ => exponent positive significand e c
  | _ => realNumber positive significand e c

/-- Reads the places after the point, from the point on. -/
def fraction (positive : Bool) (significand : Nat) (before : Int) (c : Cursor) : Result Number :=
  let (places, after) := (c.skip 1).digits
  if places.isEmpty then
    after.failPeek (if after.rest.isEmpty then .endInValue else .invalidNumber)
  else
    let (significand, left) := absorb significand places
    exponentOrEnd positive significand (before - (places.length - left.length : Nat)) after

/-- The number of whole digits without point and exponent. Minus zero is a double. -/
def wholeNumber (positive : Bool) (significand : Nat) : Number :=
  if positive then .whole significand
  else if significand = 0 || significand > Nat.pow 2 63 then .real (-significand.toUInt64.toFloat)
  else .whole (-(significand : Int))

/-- Reads a number after its sign. -/
def number (positive : Bool) (c : Cursor) : Result Number :=
  match c.rest with
  | [] => c.fail .endInValue
  | d :: _ =>
    if !d.isDigit then c.failPeek .invalidNumber
    else
      let (ds, after) := if d == '0' then (['0'], c.skip 1) else c.digits
      if d == '0' && !(after.digits.1).isEmpty then after.failPeek .invalidNumber
      else
        let (significand, left) := absorb 0 ds
        match after.rest with
        | '.' :: _ => fraction positive significand left.length after
        | _ =>
          if left.isEmpty && !(after.rest.head? == some 'e' || after.rest.head? == some 'E') then
            .ok (wholeNumber positive significand, after)
          else exponentOrEnd positive significand left.length after

/-- Skips an exponent, if there is one. -/
def skipExponent (c : Cursor) : Except Error Cursor :=
  if c.rest.head? == some 'e' || c.rest.head? == some 'E' then
    let c := c.skip 1
    let c := if c.rest.head? == some '+' || c.rest.head? == some '-' then c.skip 1 else c
    let (ds, after) := c.digits
    if ds.isEmpty then c.failPeek .invalidNumber else .ok after
  else .ok c

/-- Skips a number after its sign. -/
def skipNumber (c : Cursor) : Except Error Cursor :=
  match c.rest with
  | '0' :: d :: _ =>
    if d.isDigit then (c.skip 1).failPeek .invalidNumber else places (c.skip 1)
  | _ => if c.digits.1.isEmpty then c.failPeek .invalidNumber else places c.digits.2
where
  /-- Skips the places after the point, if there are any, and the exponent. -/
  places (c : Cursor) : Except Error Cursor :=
    match c.rest with
    | '.' :: _ =>
      let (ds, after) := (c.skip 1).digits
      if ds.isEmpty then after.failPeek .invalidNumber else skipExponent after
    | _ => skipExponent c

end SqlppBench.Json
