import SqlppBench.Text.Numeral

/-! # Places in a YAML text

A cursor knows the text that is left and where it stands. Columns decide the nesting of a YAML text,
so every step keeps count of them.
-/

namespace SqlppBench.Yaml

/-- Why a text is not one YAML document. -/
inductive Fault where
  /-- A character that no document may have. -/
  | character
  /-- The text cannot be cut into tokens. -/
  | token
  /-- The tokens are not those of a document. -/
  | grammar
  /-- More than one document. -/
  | documents
  /-- The name of an anchor that is not there. -/
  | anchor
  /-- A scalar that is not of the type of its tag, or a number that is too large. -/
  | scalar
  | duplicateKey
  | depth
  /-- Too many references to anchors. -/
  | repetition
deriving DecidableEq, Repr

/-- How messages about such texts begin. -/
def Fault.heading : String := "malformed document: "

/-- What is said about the fault. -/
def Fault.message (f : Fault) : String :=
  heading ++ match f with
    | .character => "control characters are not allowed"
    | .token => "unexpected characters"
    | .grammar => "unexpected token"
    | .documents => "more than one document"
    | .anchor => "unknown anchor"
    | .scalar => "invalid scalar"
    | .duplicateKey => "duplicate entry in a mapping"
    | .depth => "nesting is too deep"
    | .repetition => "too many repetitions"

/-! ## Classes of characters -/

/-- Whether a document may have the character. -/
def isAllowed (c : Char) : Bool :=
  let n := c.toNat
  n == 0x09 || n == 0x0A || n == 0x0D || (0x20 ≤ n && n ≤ 0x7E) || n == 0x85 ||
    (0xA0 ≤ n && n != 0xFEFF && n != 0xFFFE && n != 0xFFFF)

/-- Whether the character ends a line. -/
def isBreak (c : Char) : Bool :=
  c == '\n' || c == '\x0D' || c == '\u0085' || c == '\u2028' || c == '\u2029'

/-- Whether the character separates words on a line. -/
def isSpace (c : Char) : Bool :=
  c == ' ' || c == '\t'

/-- Whether the character may be part of a name. -/
def isNameChar (c : Char) : Bool :=
  c.isAlphanum || c == '_' || c == '-'

/-- Whether there is no character, or a break or a space. -/
def isGap (c : Option Char) : Bool :=
  c.all fun c => isSpace c || isBreak c

/-- Whether there is no character, or a break. -/
def isLineEnd (c : Option Char) : Bool :=
  c.all isBreak

/-! ## Cursors -/

/-- The text that is left, and the place where it begins. -/
structure Cursor where
  rest : List Char
  /-- The number of characters before. -/
  index : Nat := 0
  line : Nat := 0
  column : Nat := 0

namespace Cursor

/-- The character at a distance. -/
def at? (c : Cursor) (n : Nat) : Option Char :=
  c.rest[n]?

/-- The next character. -/
def head? (c : Cursor) : Option Char :=
  c.rest.head?

/-- Whether the next character is the given one. -/
def isAt (c : Cursor) (x : Char) : Bool :=
  c.rest.head? == some x

/-- Goes on by some characters of a line. -/
def skip (c : Cursor) (n : Nat) : Cursor :=
  { c with rest := c.rest.drop n, index := c.index + n, column := c.column + n }

/-- Goes on by characters that satisfy `p`, all on one line. -/
def skipWhile (c : Cursor) (p : Char → Bool) : Cursor :=
  c.skip (c.rest.takeWhile p).length

/-- Goes on behind a line break, if there is one, and gives what it stands for. -/
def takeBreak (c : Cursor) : List Char × Cursor :=
  let next (n : Nat) (rest : List Char) : Cursor :=
    { rest, index := c.index + n, line := c.line + 1, column := 0 }
  match c.rest with
  | '\x0D' :: '\n' :: rest => (['\n'], next 2 rest)
  | x :: rest =>
    if x == '\u2028' || x == '\u2029' then ([x], next 1 rest)
    else if isBreak x then (['\n'], next 1 rest)
    else ([], c)
  | [] => ([], c)

/-- Goes on behind a line break, if there is one. -/
def skipBreak (c : Cursor) : Cursor :=
  c.takeBreak.2

/-- Whether a mark between documents stands here: at the start of a line, three of `x` and a gap. -/
def isMark (c : Cursor) (x : Char) : Bool :=
  c.column == 0 && c.isAt x && c.at? 1 == some x && c.at? 2 == some x && isGap (c.at? 3)

/-- Whether the text between two documents begins or ends here. -/
def isDocumentMark (c : Cursor) : Bool :=
  c.isMark '-' || c.isMark '.'

/-- More steps than a loop takes that goes on by a character in each turn. -/
def steps (c : Cursor) : Nat :=
  c.rest.length + 1

/-- Goes on to the end of a line that may only hold spaces and a comment. -/
def skipComment (c : Cursor) : Cursor :=
  let c := c.skipWhile isSpace
  if c.isAt '#' then c.skipWhile fun x => !isBreak x else c

end Cursor

end SqlppBench.Yaml
