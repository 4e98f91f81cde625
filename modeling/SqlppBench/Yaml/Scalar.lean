import SqlppBench.Yaml.Cursor

/-! # Scalars of a YAML text

A scalar is written plainly, between quotes, or as a block of indented lines. Line breaks within the
first two are folded: a single one is a blank, and of several the first does not count.
-/

namespace SqlppBench.Yaml

/-! ## Gaps within a scalar -/

/-- Spaces and line breaks between two words of a scalar. -/
structure Gap where
  /-- The spaces before the first break. -/
  spaces : List Char := []
  /-- The breaks. -/
  breaks : List Char := []
  /-- Whether a line ends in the gap. -/
  broken : Bool := false

namespace Gap

/-- What the gap stands for. A gap that begins with an escaped break has only its later breaks. -/
def text (g : Gap) (escaped : Bool) : List Char :=
  if escaped then g.breaks
  else
    match g.breaks with
    | [] => g.spaces
    | '\n' :: [] => [' ']
    | '\n' :: more => more
    | breaks => breaks

/-- Reads on in a gap. A tab before column `indent` at the start of a line is a fault. -/
def readOn (indent : Nat) (g : Gap) (c : Cursor) : Nat → Except Fault (Gap × Cursor)
  | 0 => .ok (g, c)
  | steps + 1 =>
    match c.head? with
    | none => .ok (g, c)
    | some x =>
      if isSpace x then
        if g.broken && c.column < indent && x == '\t' then .error .token
        else
          let g := if g.broken then g else { g with spaces := g.spaces ++ [x] }
          readOn indent g (c.skip 1) steps
      else if isBreak x then
        let (b, c) := c.takeBreak
        readOn indent { g with breaks := g.breaks ++ b, broken := true } c steps
      else .ok (g, c)

/-- Reads a gap; `escaped` when its first break was escaped and has been read. -/
def read (indent : Nat) (escaped : Bool) (c : Cursor) (steps : Nat) :
    Except Fault (Gap × Cursor) :=
  readOn indent { broken := escaped } c steps

end Gap

/-! ## Plain scalars -/

/-- Whether the character separates the items of a flow collection or encloses them. -/
def isFlowMark (c : Char) : Bool :=
  c == ',' || c == '[' || c == ']' || c == '\x7b' || c == '\x7d'

/-- Reads the characters of a plain scalar up to a gap or to a character that ends it. -/
def plainWord (inFlow : Bool) : List Char → Except Fault (List Char)
  | [] => .ok []
  | x :: rest =>
    if isGap (some x) then .ok []
    else if inFlow && x == ':' && rest.head?.any fun y => isFlowMark y || y == '?' then
      .error .token
    else if (x == ':' && isGap rest.head?) || (inFlow && isFlowMark x) then .ok []
    else (plainWord inFlow rest).map (x :: ·)

/-- A plain scalar that has been read. -/
structure Plain where
  text : List Char
  /-- Whether the line ended behind the scalar, in a gap that was read with it. -/
  broken : Bool
  cursor : Cursor

/-- Reads on in a plain scalar, from behind a gap. -/
def plainOn (inFlow : Bool) (indent : Nat) (gap : Gap) (c : Cursor) : Nat → Except Fault Plain
  | 0 => .error .token
  | steps + 1 =>
    if c.isDocumentMark || c.isAt '#' then .ok ⟨[], gap.broken, c⟩
    else
      match plainWord inFlow c.rest with
      | .error f => .error f
      | .ok [] => .ok ⟨[], gap.broken, c⟩
      | .ok word =>
        let text := gap.text false ++ word
        let c := c.skip word.length
        if c.head?.any fun x => isSpace x || isBreak x then
          match Gap.read indent false c steps with
          | .error f => .error f
          | .ok (gap, c) =>
            if !inFlow && c.column < indent then .ok ⟨text, gap.broken, c⟩
            else (plainOn inFlow indent gap c steps).map fun p => { p with text := text ++ p.text }
        else .ok ⟨text, false, c⟩

/-- Reads a plain scalar. Its later lines begin at column `indent` or behind it. -/
def plain (inFlow : Bool) (indent : Nat) (c : Cursor) : Except Fault Plain :=
  plainOn inFlow indent {} c c.steps

/-! ## Quoted scalars -/

/-- What stands for itself or for another character behind a backslash. -/
def escapes : List (Char × Char) := [
  ('0', '\x00'), ('a', '\x07'), ('b', '\x08'), ('t', '\t'), ('\t', '\t'), ('n', '\n'),
  ('v', '\x0B'), ('f', '\x0C'), ('r', '\x0D'), ('e', '\x1B'), (' ', ' '), ('"', '"'),
  ('/', '/'), ('\\', '\\'),
  ('N', '\u0085'), ('_', '\u00A0'), ('L', '\u2028'), ('P', '\u2029')]

/-- How many digits follow the letter of an escape. -/
def escapeDigits? (c : Char) : Option Nat :=
  if c == 'x' then some 2 else if c == 'u' then some 4 else if c == 'U' then some 8 else none

/-- Reads an escape from behind its backslash: the character, and how many characters it took. -/
def escape : List Char → Except Fault (Char × Nat)
  | [] => .error .token
  | x :: rest =>
    match escapes.find? (·.1 == x) with
    | some (_, y) => .ok (y, 1)
    | none =>
      match escapeDigits? x with
      | none => .error .token
      | some n =>
        match if rest.length < n then none else Text.digits? 16 (rest.take n) with
        | none => .error .token
        | some code => if code.isValidChar then .ok (Char.ofNat code, n + 1) else .error .token

/-- What ends a word of a quoted scalar. -/
inductive WordEnd where
  | quote
  | gap
  | escapedBreak

/-- A word of a quoted scalar that has been read. -/
structure QuotedWord where
  text : List Char
  wordEnd : WordEnd
  cursor : Cursor

/-- The word with a character before it. -/
def QuotedWord.cons (x : Char) (w : QuotedWord) : QuotedWord :=
  { w with text := x :: w.text }

/-- Reads the characters of a quoted scalar up to a gap or to the closing quote. -/
def quotedWord (single : Bool) (c : Cursor) : Nat → Except Fault QuotedWord
  | 0 => .error .token
  | steps + 1 =>
    match c.rest with
    | [] => .ok ⟨[], .gap, c⟩
    | x :: rest =>
      if isGap (some x) then .ok ⟨[], .gap, c⟩
      else if single && x == '\x27' && rest.head? == some '\x27' then
        (quotedWord single (c.skip 2) steps).map (.cons x)
      else if x == (if single then '\x27' else '"') then .ok ⟨[], .quote, c.skip 1⟩
      else if !single && x == '\\' then
        if rest.head?.any isBreak then .ok ⟨[], .escapedBreak, (c.skip 1).skipBreak⟩
        else
          match escape rest with
          | .error f => .error f
          | .ok (y, n) => (quotedWord single (c.skip (n + 1)) steps).map (.cons y)
      else (quotedWord single (c.skip 1) steps).map (.cons x)

/-- Reads on in a quoted scalar, from the start of a word. -/
def quotedOn (single : Bool) (c : Cursor) : Nat → Except Fault (List Char × Cursor)
  | 0 => .error .token
  | steps + 1 =>
    if c.isDocumentMark || c.rest.isEmpty then .error .token
    else
      match quotedWord single c steps with
      | .error f => .error f
      | .ok ⟨word, .quote, c⟩ => .ok (word, c)
      | .ok ⟨word, wordEnd, c⟩ =>
        let escaped := match wordEnd with
          | .escapedBreak => true
          | _ => false
        match Gap.read 0 escaped c steps with
        | .error f => .error f
        | .ok (gap, c) =>
          (quotedOn single c steps).map fun (text, c) => (word ++ gap.text escaped ++ text, c)

/-- Reads a quoted scalar, from its opening quote on. -/
def quoted (single : Bool) (c : Cursor) : Except Fault (List Char × Cursor) :=
  quotedOn single (c.skip 1) c.steps

/-! ## Block scalars -/

/-- What becomes of the line breaks at the end of a block. -/
inductive Chomping where
  /-- None is kept. -/
  | strip
  /-- The first is kept. -/
  | clip
  /-- All are kept. -/
  | keep
deriving DecidableEq

/-- Reads a mark for the end of a block. -/
def chomping? (c : Cursor) : Option Chomping × Cursor :=
  if c.isAt '+' then (some .keep, c.skip 1)
  else if c.isAt '-' then (some .strip, c.skip 1)
  else (none, c)

/-- Reads a mark for the indentation of a block. -/
def indentation? (c : Cursor) : Except Fault (Option Nat × Cursor) :=
  match c.head? with
  | none => .ok (none, c)
  | some x =>
    if x == '0' then .error .token
    else if x.isDigit then .ok (some (x.toNat - 48), c.skip 1)
    else .ok (none, c)

/-- Reads the two marks, in either order. -/
def blockMarks (c : Cursor) : Except Fault (Chomping × Option Nat × Cursor) :=
  match chomping? c with
  | (some chomping, c) => (indentation? c).map fun (n, c) => (chomping, n, c)
  | (none, c) =>
    match indentation? c with
    | .error f => .error f
    | .ok (none, c) => .ok (.clip, none, c)
    | .ok (some n, c) =>
      let (chomping, c) := chomping? c
      .ok (chomping.getD .clip, some n, c)

/-- Reads the empty lines before a line of a block, whose indentation is zero while it is not known:
the breaks, and the greatest indentation that was seen. -/
def blockBreaks (indent widest : Nat) (breaks : List Char) (c : Cursor) :
    Nat → Except Fault (List Char × Nat × Cursor)
  | 0 => .error .token
  | steps + 1 =>
    let spaces := (c.rest.takeWhile (· == ' ')).length
    let c := c.skip (if indent = 0 then spaces else min spaces (indent - c.column))
    let widest := max widest c.column
    if (indent = 0 || c.column < indent) && c.isAt '\t' then .error .token
    else if c.head?.any isBreak then
      let (b, c) := c.takeBreak
      blockBreaks indent widest (breaks ++ b) c steps
    else .ok (breaks, widest, c)

/-- The lines of a block that have been read. -/
structure BlockLines where
  text : List Char
  /-- The break behind the last line. -/
  leading : List Char
  /-- The breaks of empty lines behind that. -/
  trailing : List Char
  cursor : Cursor

/-- Reads the lines of a block from behind a line with the breaks `leading` and `trailing`; that
line began with a space if `wasSpaced`. -/
def blockLines (literal : Bool) (indent : Nat) (leading trailing : List Char) (wasSpaced : Bool)
    (c : Cursor) : Nat → Except Fault BlockLines
  | 0 => .error .token
  | steps + 1 =>
    if c.column != indent || c.rest.isEmpty then .ok ⟨[], leading, trailing, c⟩
    else
      let isSpaced := c.head?.any isSpace
      let joint :=
        if !literal && leading.head? == some '\n' && !wasSpaced && !isSpaced then
          if trailing.isEmpty then [' '] else []
        else leading
      let line := c.rest.takeWhile fun x => !isBreak x
      let (leading', c) := (c.skip line.length).takeBreak
      match blockBreaks indent 0 [] c steps with
      | .error f => .error f
      | .ok (trailing', _, c) =>
        (blockLines literal indent leading' trailing' isSpaced c steps).map fun b =>
          { b with text := joint ++ trailing ++ line ++ b.text }

/-- Reads a block scalar, from its indicator on, within a block of the given indentation. -/
def block (literal : Bool) (outer : Int) (c : Cursor) : Except Fault (List Char × Cursor) :=
  match blockMarks (c.skip 1) with
  | .error f => .error f
  | .ok (chomping, increment, c) =>
    let c := c.skipComment
    if !isLineEnd c.head? then .error .token
    else
      let c := c.skipBreak
      let known := match increment with
        | none => 0
        | some n => if outer ≥ 0 then outer.toNat + n else n
      match blockBreaks known 0 [] c c.steps with
      | .error f => .error f
      | .ok (breaks, widest, c) =>
        let indent := if known = 0 then max widest (max (outer + 1).toNat 1) else known
        match blockLines literal indent [] breaks false c c.steps with
        | .error f => .error f
        | .ok b =>
          let kept := match chomping with
            | .strip => []
            | .clip => b.leading
            | .keep => b.leading ++ b.trailing
          .ok (b.text ++ kept, b.cursor)

end SqlppBench.Yaml
