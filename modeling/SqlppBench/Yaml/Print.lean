import SqlppBench.Text.Hex
import SqlppBench.Yaml.Plain

/-! # Writing YAML values

Values are written in block notation, two columns deeper for each level. A scalar is written without
quotes where it reads back as the same string, several lines as a literal block, and with quotes
otherwise. Lines are never folded.
-/

namespace SqlppBench.Yaml

/-! ## Styles of scalars -/

/-- How a scalar is written. -/
inductive Style where
  | plain
  | single
  | double
  | literal
deriving DecidableEq, Repr

/-- Whether a character may stand outside double quotes. -/
def isPrintable (c : Char) : Bool :=
  let n := c.toNat
  n == 0x0A || (0x20 ≤ n && n ≤ 0x7E) ||
    (0xA0 ≤ n && n != 0xFEFF && n != 0xFFFE && n != 0xFFFF)

/-- Whether somewhere a character that satisfies `p` stands before one that satisfies `q`. -/
def hasPair (p q : Char → Bool) (s : List Char) : Bool :=
  (s.zip s.tail).any fun (c, d) => p c && q d

/-- Whether a character alone makes the text something else than a plain scalar, given the
characters before and after it. -/
def isIndicator (before : Option Char) (c : Char) (after : Option Char) : Bool :=
  (c == ':' && isGap after) || (c == '#' && isGap before) ||
    (before.isNone &&
      ("#,[]\x7b\x7d&*!|>\x27\"%@\x60".contains c || ((c == '?' || c == '-') && isGap after)))

/-- Whether a character of the text, which follows `before`, is an indicator. -/
def hasIndicator (before : Option Char) : List Char → Bool
  | [] => false
  | c :: s => isIndicator before c s.head? || hasIndicator (some c) s

/-- Whether a text begins with three times the character. -/
def isTriple (c : Char) (s : List Char) : Bool :=
  s.take 3 == [c, c, c]

/-- What the choice of a style depends on. -/
structure Shape where
  plainAllowed : Bool
  singleAllowed : Bool
  literalAllowed : Bool

/-- The shape of a text. -/
def Shape.ofText (s : List Char) : Shape :=
  let isBlank := fun c => c == ' '
  let special := s.any fun c => !isPrintable c
  let spaceThenBreak := hasPair isBlank isBreak s
  let breakThenSpace := hasPair isBreak isBlank s
  let atEnds (p : Char → Bool) := s.head?.any p || s.getLast?.any p
  { plainAllowed :=
      !(special || s.any isBreak || atEnds isBlank || hasIndicator none s || isTriple '-' s ||
        isTriple '.' s)
    singleAllowed := !(special || spaceThenBreak || breakThenSpace)
    literalAllowed := !(special || spaceThenBreak || s.getLast?.any isBlank) }

/-- Whether a text without quotes is read as the string that it is. -/
def isBareString (s : String) : Bool :=
  match Value.ofPlain s with
  | .ok (.string _) => !isZeroLed s.toList
  | _ => false

/-- The style of a string. -/
def Style.ofString (s : String) : Style :=
  let shape := Shape.ofText s.toList
  let quoted := if shape.singleAllowed then Style.single else .double
  if s.toList.contains '\n' then (if shape.literalAllowed then .literal else .double)
  else if isBareString s && shape.plainAllowed then .plain
  else quoted

/-! ## A pen -/

/-- A text that is being written. -/
structure Pen where
  /-- The characters so far, the last one first. -/
  written : List Char := []
  column : Nat := 0
  /-- Whether a word may follow without a space. -/
  spaced : Bool := true
  /-- Whether there is only indentation on the line, and marks that count as such. -/
  indenting : Bool := true

namespace Pen

/-- Puts a character that does not end a line. -/
def put (p : Pen) (c : Char) : Pen :=
  { p with written := c :: p.written, column := p.column + 1 }

/-- Puts characters that do not end a line. -/
def puts (p : Pen) (s : List Char) : Pen :=
  s.foldl put p

/-- Puts a character that ends a line. -/
def endLine (p : Pen) (c : Char) : Pen :=
  { p with written := c :: p.written, column := 0 }

/-- Puts a space, if a word needs one. -/
def space (p : Pen) : Pen :=
  if p.spaced then p else p.put ' '

/-- Goes to a column, on a new line unless there is only indentation before it. -/
def indent (p : Pen) (column : Nat) : Pen :=
  let p := if !p.indenting || p.column > column || (p.column == column && !p.spaced)
    then p.endLine '\n' else p
  { p.puts (List.replicate (column - p.column) ' ') with spaced := true, indenting := true }

/-- Puts a word. -/
def word (p : Pen) (s : List Char) : Pen :=
  { p.space.puts s with spaced := false, indenting := false }

/-- Puts the mark of an item, a key or a value, which counts as indentation. -/
def mark (p : Pen) (c : Char) : Pen :=
  { p.space.put c with spaced := false }

/-- The text. -/
def text (p : Pen) : String :=
  String.ofList p.written.reverse

/-! ## Scalars -/

/-- Puts the characters between single quotes; a quote is written twice. A break starts a new line,
on which the text goes on at the column. -/
def singleQuoted (column : Nat) (afterBreak : Bool) (p : Pen) : List Char → Pen
  | [] => if afterBreak then p.indent column else p
  | c :: s =>
    if isBreak c then singleQuoted column true { p.endLine c with indenting := true } s
    else
      let p := if afterBreak then p.indent column else p
      let p := if c == '\'' then (p.put c).put c else p.put c
      singleQuoted column false { p with indenting := false } s

/-- The letter behind the backslash, for the characters that have one. -/
def escapeLetters : List (Char × Char) :=
  [('\x00', '0'), ('\x07', 'a'), ('\x08', 'b'), ('\t', 't'), ('\n', 'n'), ('\x0B', 'v'),
    ('\x0C', 'f'), ('\x0D', 'r'), ('\x1B', 'e'), ('"', '"'), ('\\', '\\'), ('\u0085', 'N'),
    ('\u00A0', '_'), ('\u2028', 'L'), ('\u2029', 'P')]

/-- A character within double quotes. Those that are not printable have at most 16 bits. -/
def escaped (c : Char) : List Char :=
  if isPrintable c && !isBreak c && c != '"' && c != '\\' then [c]
  else
    let n := c.toNat
    let hex (mark : Char) (bytes : List Nat) : List Char :=
      '\\' :: mark :: bytes.flatMap fun b => Hex.pair .upper (UInt8.ofNat b)
    match escapeLetters.lookup c with
    | some letter => ['\\', letter]
    | none =>
      if n ≤ 0xFF then hex 'x' [n] else hex 'u' [n / 256, n % 256]

/-- What stands behind the bar of a literal block: how deep it is, if that cannot be seen, and
whether breaks at its end are dropped or kept. -/
def literalHints (s : List Char) : List Char :=
  let depth := if s.head?.any fun c => c == ' ' || isBreak c then ['2'] else []
  let ending := match s.reverse with
    | [] => ['-']
    | c :: before =>
      if !isBreak c then ['-']
      else if before.head?.all isBreak then ['+']
      else []
  depth ++ ending

/-- Puts the lines of a literal block. -/
def literalLines (column : Nat) (atStart : Bool) (p : Pen) : List Char → Pen
  | [] => p
  | c :: s =>
    if isBreak c then literalLines column true { p.endLine c with indenting := true } s
    else
      let p := if atStart then p.indent column else p
      literalLines column false { p.put c with indenting := false } s

/-- Puts a scalar whose further lines begin at the column. -/
def scalar (p : Pen) (column : Nat) (style : Style) (s : List Char) : Pen :=
  match style with
  | .plain => p.word s
  | .single => { (singleQuoted column false (p.word ['\'']) s).put '\'' with
      spaced := false, indenting := false }
  | .double => p.word ('"' :: s.flatMap escaped ++ ['"'])
  | .literal =>
    let p := (p.word ('|' :: literalHints s)).endLine '\n'
    literalLines column true { p with spaced := true, indenting := true } s

/-! ## Tags -/

/-- Whether a character of a tag stands for itself. -/
def isTagSafe (c : Char) : Bool :=
  isNameChar c || ";/?:@&=+$,.~*\x27()[]".contains c

/-- The text of a tag. -/
def tagText (tag : String) : List Char :=
  '!' :: tag.toList.flatMap fun c =>
    if isTagSafe c then [c]
    else (Utf8.encodeChars [c]).flatMap fun b => '%' :: Hex.pair .upper b

/-- Puts a tag, if there is one. -/
def tag (p : Pen) : Option String → Pen
  | none => p
  | some t => p.word (tagText t)

end Pen

/-! ## Values -/

namespace Value

/-- The layout of doubles. -/
def realLayout : Decimal.Layout := ⟨-5, 15, false⟩

/-- The text of a number. -/
def numberText : Number → String :=
  Number.text (Number.realText realLayout ".nan" ".inf")

/-- The text and the style of a scalar. -/
def scalarText? : Value → Option (String × Style)
  | .null => some ("null", .plain)
  | .bool b => some (toString b, .plain)
  | .number n => some (numberText n, .plain)
  | .string s => some (s, Style.ofString s)
  | _ => none

/-- What is written for a collection without items. -/
def emptyText? : Value → Option String
  | .sequence [] => some "[]"
  | .mapping [] => some "\x7b\x7d"
  | _ => none

/-- How many bytes a key may have that is followed by its colon on the same line. -/
def simpleKeyLimit : Nat := 128

/-- Whether a key is written before its colon, and not behind a question mark. -/
def isSimpleKey : Value → Bool
  | .tagged tag content => size tag content ≤ simpleKeyLimit && isOneLine content
  | v => size "" v ≤ simpleKeyLimit && isOneLine v
where
  /-- Whether the value is written on one line. -/
  isOneLine (v : Value) : Bool :=
    v.emptyText?.isSome || v.scalarText?.any fun (s, _) => !s.toList.any isBreak
  /-- The bytes of the tag with its mark, and of the scalar. -/
  size (tag : String) (v : Value) : Nat :=
    (if tag.isEmpty then 0 else tag.utf8ByteSize + 1) +
      (v.scalarText?.map fun (s, _) => s.utf8ByteSize).getD 0

/-- Where a value stands. -/
inductive Place where
  | root
  | item
  | part

/-- The column of the items of a collection within one whose items begin at `column`. Sequences do
not move to the right within a mapping, unless they begin right behind a mark. -/
def innerColumn (column : Option Nat) (place : Place) (isSequence : Bool) (p : Pen) : Nat :=
  match column, place with
  | none, _ => 0
  | some n, .part => if isSequence && !p.indenting then n else n + 2
  | some n, _ => n + 2

/-- The column of the further lines of a scalar within a collection whose items begin at `column`.
-/
def scalarColumn (column : Option Nat) : Nat :=
  match column with
  | none => 2
  | some n => n + 2

mutual

/-- Writes a value, with a tag if there is one. -/
def write (column : Option Nat) (place : Place) (tag : Option String) : Value → Pen → Pen
  | .tagged t content, p => write column place (some t) content p
  | .sequence [], p => (p.tag tag).word "[]".toList
  | .mapping [], p => (p.tag tag).word "\x7b\x7d".toList
  | .sequence items, p =>
    let p := p.tag tag
    writeItems (innerColumn column place true p) items p
  | .mapping entries, p =>
    let p := p.tag tag
    writeEntries (innerColumn column place false p) entries p
  | .null, p => (p.tag tag).word "null".toList
  | .bool b, p => (p.tag tag).word (toString b).toList
  | .number n, p => (p.tag tag).word (numberText n).toList
  | .string s, p => (p.tag tag).scalar (scalarColumn column) (Style.ofString s) s.toList

/-- Writes the items of a sequence. -/
def writeItems (column : Nat) : List Value → Pen → Pen
  | [], p => p
  | v :: rest, p =>
    writeItems column rest (write (some column) .item none v ((p.indent column).mark '-'))

/-- Writes the entries of a mapping. -/
def writeEntries (column : Nat) : List (Value × Value) → Pen → Pen
  | [], p => p
  | (key, value) :: rest, p =>
    let p := p.indent column
    let p :=
      if key.isSimpleKey then
        { (write (some column) .part none key p).put ':' with spaced := false, indenting := false }
      else
        (((write (some column) .part none key (p.mark '?')).indent column).mark ':')
    writeEntries column rest (write (some column) .part none value p)

end

/-! ## Values that can be written -/

/-- Whether a key looks like the tag of a value: it has a tag, or is a mapping with one entry. -/
def isLikeTag : Value → Bool
  | .tagged _ _ => true
  | .mapping [_] => true
  | _ => false

mutual

/-- Whether there is a text for the value. A tag is taken for a mapping with one entry, so there is
none for such a mapping without a tag if its key looks like another tag. -/
def isWritable (hasTag : Bool) : Value → Bool
  | .tagged _ content => !hasTag && isWritable true content
  | .sequence items => areWritable items
  | .mapping entries =>
    (hasTag || entries.length != 1 || !entries.any fun (key, _) => key.isLikeTag) &&
      entriesAreWritable entries
  | _ => true

/-- Whether there is a text for each item. -/
def areWritable : List Value → Bool
  | [] => true
  | v :: rest => isWritable false v && areWritable rest

/-- Whether there is a text for each entry. -/
def entriesAreWritable : List (Value × Value) → Bool
  | [] => true
  | (key, value) :: rest =>
    isWritable false key && isWritable false value && entriesAreWritable rest

end

/-- The text of a value, without a line break at its end. -/
def text? (v : Value) : Option String :=
  if v.isWritable false then some (write none .root none v {}).text else none

end Value

end SqlppBench.Yaml
