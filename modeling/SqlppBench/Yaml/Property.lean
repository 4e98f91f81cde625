import SqlppBench.Text.Utf8
import SqlppBench.Yaml.Token

/-! # Properties and directives of a YAML text

Anchors, references to them, tags, and the directives that may stand before a document.
-/

namespace SqlppBench.Yaml

/-! ## Anchors -/

/-- Reads the name of an anchor, from its indicator on. -/
def anchorName (c : Cursor) : Except Fault (String × Cursor) :=
  let c := c.skip 1
  let name := c.rest.takeWhile isNameChar
  let c := c.skip name.length
  let ends := isGap c.head? || c.head?.any fun x => "?:,]\x7d%@\x60".contains x
  if name.isEmpty || !ends then .error .token else .ok (String.ofList name, c)

/-! ## Tags -/

/-- Reads a byte that is written as a percent sign and two digits. -/
def escapedByte? (s : List Char) : Option UInt8 :=
  match s with
  | '%' :: a :: b :: _ =>
    match Text.digitValue? a, Text.digitValue? b with
    | some h, some l => some (UInt8.ofNat (16 * h + l))
    | _, _ => none
  | _ => none

/-- How many bytes a character has that begins with the byte. -/
def encodedLength? (b : UInt8) : Option Nat :=
  if b < 0x80 then some 1
  else if b &&& 0xE0 == 0xC0 then some 2
  else if b &&& 0xF0 == 0xE0 then some 3
  else if b &&& 0xF8 == 0xF0 then some 4
  else none

/-- Reads `n` escaped bytes. -/
def escapedBytes? : Nat → List Char → Option Bytes
  | 0, _ => some []
  | n + 1, s => (escapedByte? s).bind fun b => (escapedBytes? n (s.drop 3)).map (b :: ·)

/-- Reads an escaped character: its text, and how many characters its escape took. -/
def escapedChar (s : List Char) : Except Fault (List Char × Nat) :=
  match (escapedByte? s).bind encodedLength? with
  | none => .error .token
  | some n =>
    match (escapedBytes? n s).bind Utf8.decodeChars? with
    | some text => .ok (text, 3 * n)
    | none => .error .token

/-- Whether the character may be part of a tag; in brackets, more characters may. -/
def isTagChar (inBrackets : Bool) (c : Char) : Bool :=
  isNameChar c || ";/?:@&=+$.!~*\x27()%".contains c || (inBrackets && ",[]".contains c)

/-- Reads on in the characters of a tag. -/
def tagChars (inBrackets : Bool) (text : List Char) (c : Cursor) :
    Nat → Except Fault (List Char × Cursor)
  | 0 => .error .token
  | steps + 1 =>
    match c.rest with
    | [] => .ok (text, c)
    | x :: _ =>
      if x == '%' then
        match escapedChar c.rest with
        | .error f => .error f
        | .ok (ys, n) => tagChars inBrackets (text ++ ys) (c.skip n) steps
      else if isTagChar inBrackets x then tagChars inBrackets (text ++ [x]) (c.skip 1) steps
      else .ok (text, c)

/-- Reads a handle from its exclamation mark on: letters, and another mark if there is one. -/
def handleChars (c : Cursor) : List Char × Cursor :=
  let letters := (c.rest.drop 1).takeWhile isNameChar
  let n := if c.at? (letters.length + 1) == some '!' then letters.length + 2 else letters.length + 1
  (c.rest.take n, c.skip n)

/-- Reads a tag, from its exclamation mark on: a handle and what is behind it. The tag that is just
the mark has no handle. -/
def tag (inFlow : Bool) (c : Cursor) : Except Fault (Token × Cursor) := do
  let ended (handle suffix : List Char) (c : Cursor) : Except Fault (Token × Cursor) :=
    if isGap c.head? || (inFlow && c.isAt ',') then
      .ok (.tag (String.ofList handle) (String.ofList suffix), c)
    else .error .token
  if c.at? 1 == some '<' then
    let c := c.skip 2
    let (suffix, c) ← tagChars true [] c c.steps
    if suffix.isEmpty || !c.isAt '>' then throw .token
    ended [] suffix (c.skip 1)
  else
    let (handle, behind) := handleChars c
    if handle.length > 1 && handle.getLast? == some '!' then
      let (suffix, c) ← tagChars false [] behind behind.steps
      if suffix.isEmpty then throw .token
      ended handle suffix c
    else
      let (suffix, c) ← tagChars false (handle.drop 1) behind behind.steps
      if suffix.isEmpty then ended [] ['!'] c else ended ['!'] suffix c

/-! ## Directives -/

/-- Reads one part of a version: up to nine digits. -/
def versionPart (c : Cursor) : Except Fault (Nat × Cursor) :=
  let digits := c.rest.takeWhile Char.isDigit
  match Text.digits? 10 digits with
  | some n => if digits.length > 9 then .error .token else .ok (n, c.skip digits.length)
  | none => .error .token

/-- Reads the version of the notation. -/
def version (c : Cursor) : Except Fault (Token × Cursor) := do
  let (major, c) ← versionPart (c.skipWhile isSpace)
  if !c.isAt '.' then throw .token
  let (minor, c) ← versionPart (c.skip 1)
  return (.version major minor, c)

/-- Reads a handle of tags and what it stands for. -/
def tagHandle (c : Cursor) : Except Fault (Token × Cursor) := do
  let c := c.skipWhile isSpace
  if !c.isAt '!' then throw .token
  let (handle, c) := handleChars c
  if handle != ['!'] && handle.getLast? != some '!' || !c.head?.any isSpace then throw .token
  let c := c.skipWhile isSpace
  let (meaning, c) ← tagChars true [] c c.steps
  if meaning.isEmpty || !isGap c.head? then throw .token
  return (.tagHandle (String.ofList handle) (String.ofList meaning), c)

/-- Reads a directive, from its percent sign to the end of its line. -/
def directive (c : Cursor) : Except Fault (Token × Cursor) := do
  let name := (c.rest.drop 1).takeWhile isNameChar
  let c := c.skip (name.length + 1)
  if !isGap c.head? then throw .token
  let (token, c) ←
    if name == "YAML".toList then version c
    else if name == "TAG".toList then tagHandle c
    else throw .token
  let c := c.skipComment
  if !isLineEnd c.head? then throw .token
  return (token, c.skipBreak)

end SqlppBench.Yaml
