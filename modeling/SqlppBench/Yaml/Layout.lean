import SqlppBench.Yaml.Property
import SqlppBench.Yaml.Scalar

/-! # The layout of a YAML text

The text is cut into tokens from left to right. Two things are found out late. That a block
collection begins is seen at its first entry, and that it ends when a line is indented less; and
that a word is the key of an entry is seen at the colon behind it. So every token that may begin a
key gets a place before it, which stays empty unless a colon follows on the same line.
-/

namespace SqlppBench.Yaml

/-- Something that may turn out to be a key. -/
structure PossibleKey where
  /-- The place for the tokens that announce a key. -/
  place : Nat
  /-- Whether nothing else can stand here than a key. -/
  required : Bool
  index : Nat
  line : Nat
  column : Nat

/-- What is known while a text is cut into tokens. -/
structure Layout where
  cursor : Cursor
  /-- The tokens so far, with places that may be filled later. -/
  tokens : Array (List Token) := #[]
  /-- What may be a key, on the innermost level of flow collections first. -/
  keys : List (Option PossibleKey) := [none]
  /-- The column of the innermost block collection, or less than zero outside of all. -/
  indent : Int := -1
  /-- The columns of the block collections around it. -/
  outer : List Int := []
  /-- Whether a key may begin here. -/
  keyAllowed : Bool := true

namespace Layout

/-- Whether the cursor is within a flow collection. -/
def inFlow (l : Layout) : Bool :=
  l.keys.length > 1

/-- Puts a token behind the others. -/
def push (l : Layout) (t : Token) : Layout :=
  { l with tokens := l.tokens.push [t] }

/-- Puts a token behind the others that takes `n` characters. -/
def take (l : Layout) (n : Nat) (t : Token) : Layout :=
  { l.push t with cursor := l.cursor.skip n }

/-- What may be a key on this level. -/
def possibleKey (l : Layout) : Option PossibleKey :=
  l.keys.head?.join

/-- Forgets what may be a key on this level, which must not be required. -/
def dropKey (l : Layout) : Except Fault Layout :=
  if l.possibleKey.any PossibleKey.required then .error .token
  else .ok { l with keys := none :: l.keys.tail }

/-- Remembers that what begins here may be a key. -/
def saveKey (l : Layout) : Except Fault Layout :=
  if !l.keyAllowed then .ok l
  else
    match l.dropKey with
    | .error f => .error f
    | .ok l =>
      let key : PossibleKey :=
        { place := l.tokens.size
          required := !l.inFlow && l.indent == l.cursor.column
          index := l.cursor.index, line := l.cursor.line, column := l.cursor.column }
      .ok { l with tokens := l.tokens.push [], keys := some key :: l.keys.tail }

/-- Whether a block collection that begins at the column is a new one. -/
def opensBlock (l : Layout) (column : Nat) : Bool :=
  !l.inFlow && l.indent < column

/-- Opens a block collection at the column, unless it is open. -/
def openBlock (l : Layout) (column : Nat) (t : Token) : Layout :=
  if l.opensBlock column then
    { l.push t with indent := column, outer := l.indent :: l.outer }
  else l

/-- Closes the block collections that begin behind the column. -/
def closeBlocks (l : Layout) (column : Int) : Layout :=
  if l.inFlow then l else go l l.outer
where
  /-- Closes one collection after the other. -/
  go (l : Layout) : List Int → Layout
    | [] => l
    | indent :: outer =>
      if l.indent > column then go { l.push .blockEnd with indent, outer } outer else l

/-- Goes on to the next token, over blanks, comments and line breaks. A tab may not stand where a
key may begin. -/
def toToken (l : Layout) : Nat → Layout
  | 0 => l
  | steps + 1 =>
    let tabs := l.inFlow || !l.keyAllowed
    let c := l.cursor.skipWhile fun x => x == ' ' || (tabs && x == '\t')
    let c := if c.isAt '#' then c.skipWhile fun x => !isBreak x else c
    if c.head?.any isBreak then
      toToken { l with cursor := c.skipBreak, keyAllowed := !l.inFlow || l.keyAllowed } steps
    else { l with cursor := c }

/-! ## Tokens -/

/-- Forgets the block structure: a directive or a mark between documents stands here. -/
def endDocument (l : Layout) : Except Fault Layout :=
  (l.closeBlocks (-1)).dropKey.map fun l => { l with keyAllowed := false }

/-- Opens a flow collection. -/
def openFlow (l : Layout) (t : Token) : Except Fault Layout :=
  l.saveKey.map fun l => { l.take 1 t with keys := none :: l.keys, keyAllowed := true }

/-- Closes a flow collection. -/
def closeFlow (l : Layout) (t : Token) : Except Fault Layout :=
  l.dropKey.map fun l =>
    { l.take 1 t with keys := if l.inFlow then l.keys.tail else l.keys, keyAllowed := false }

/-- Puts the mark of an entry of a block sequence. -/
def blockEntry (l : Layout) : Except Fault Layout :=
  if !l.inFlow && !l.keyAllowed then .error .token
  else
    (l.openBlock l.cursor.column .blockSequenceStart).dropKey.map fun l =>
      { l.take 1 .blockEntry with keyAllowed := true }

/-- Puts the mark of a key. -/
def explicitKey (l : Layout) : Except Fault Layout :=
  if !l.inFlow && !l.keyAllowed then .error .token
  else
    (l.openBlock l.cursor.column .blockMappingStart).dropKey.map fun l =>
      { l.take 1 .key with keyAllowed := !l.inFlow }

/-- Whether what may be a key still may: it must be on the same line and not too far back. -/
def isCurrent (l : Layout) (k : PossibleKey) : Bool :=
  k.line == l.cursor.line && l.cursor.index ≤ k.index + 1024

/-- Puts the mark of a value. What may be a key before it is one now. -/
def valueMark (l : Layout) : Except Fault Layout :=
  match l.possibleKey with
  | some k =>
    if l.isCurrent k then
      let opened := l.opensBlock k.column
      let l := if opened then { l with indent := k.column, outer := l.indent :: l.outer } else l
      let announced := if opened then [Token.blockMappingStart, .key] else [.key]
      .ok { l.take 1 .value with
        tokens := (l.tokens.setIfInBounds k.place announced).push [.value]
        keys := none :: l.keys.tail
        keyAllowed := false }
    else if k.required then .error .token
    else bare { l with keys := none :: l.keys.tail }
  | none => bare l
where
  /-- Puts the mark of a value that has no key, or one that was marked itself. -/
  bare (l : Layout) : Except Fault Layout :=
    if !l.inFlow && !l.keyAllowed then .error .token
    else
      let l := l.openBlock l.cursor.column .blockMappingStart
      .ok { l.take 1 .value with keyAllowed := !l.inFlow }

/-- Puts a token that may begin a key and that `read` reads. -/
def keyLike (l : Layout) (read : Cursor → Except Fault (Token × Cursor)) : Except Fault Layout :=
  match l.saveKey with
  | .error f => .error f
  | .ok l => (read l.cursor).map fun (t, c) => { l.push t with cursor := c, keyAllowed := false }

/-- Puts a block scalar. -/
def blockScalar (l : Layout) (literal : Bool) : Except Fault Layout :=
  match l.dropKey with
  | .error f => .error f
  | .ok l =>
    (block literal l.indent l.cursor).map fun (text, c) =>
      { l.push (.scalar (String.ofList text) false) with cursor := c, keyAllowed := true }

/-- Puts a plain scalar. -/
def plainScalar (l : Layout) : Except Fault Layout :=
  match l.saveKey with
  | .error f => .error f
  | .ok l =>
    (plain l.inFlow (l.indent + 1).toNat l.cursor).map fun p =>
      { l.push (.scalar (String.ofList p.text) true) with
          cursor := p.cursor, keyAllowed := p.broken }

/-- Whether a plain scalar may begin with `x` before `next`. -/
def startsPlain (l : Layout) (x : Char) (next : Option Char) : Bool :=
  !(isGap (some x) || "-?:,[]\x7b\x7d#&*!|>\x27\"%@\x60".contains x) ||
    (x == '-' && !next.any isSpace) || (!l.inFlow && (x == '?' || x == ':') && !isGap next)

/-- Puts the token that begins with `x`. -/
def putToken (l : Layout) (x : Char) : Except Fault Layout :=
  let c := l.cursor
  let next := c.at? 1
  let quotedScalar (single : Bool) (c : Cursor) : Except Fault (Token × Cursor) :=
    (quoted single c).map fun (text, c) => (.scalar (String.ofList text) false, c)
  if c.column == 0 && x == '%' then
    l.endDocument.bind fun l =>
      (directive l.cursor).map fun (t, c) => { l.push t with cursor := c }
  else if c.isMark '-' then l.endDocument.map fun l => l.take 3 .documentStart
  else if c.isMark '.' then l.endDocument.map fun l => l.take 3 .documentEnd
  else if x == '[' then l.openFlow .flowSequenceStart
  else if x == '\x7b' then l.openFlow .flowMappingStart
  else if x == ']' then l.closeFlow .flowSequenceEnd
  else if x == '\x7d' then l.closeFlow .flowMappingEnd
  else if x == ',' then l.dropKey.map fun l => { l.take 1 .flowEntry with keyAllowed := true }
  else if x == '-' && isGap next then l.blockEntry
  else if x == '?' && (l.inFlow || isGap next) then l.explicitKey
  else if x == ':' && (l.inFlow || isGap next) then l.valueMark
  else if x == '*' then l.keyLike fun c => (anchorName c).map fun (n, c) => (.alias n, c)
  else if x == '&' then l.keyLike fun c => (anchorName c).map fun (n, c) => (.anchor n, c)
  else if x == '!' then l.keyLike (tag l.inFlow)
  else if x == '|' && !l.inFlow then l.blockScalar true
  else if x == '>' && !l.inFlow then l.blockScalar false
  else if x == '\x27' then l.keyLike (quotedScalar true)
  else if x == '"' then l.keyLike (quotedScalar false)
  else if l.startsPlain x next then l.plainScalar
  else .error .token

/-- Cuts the text into tokens to its end. -/
def putTokens (l : Layout) : Nat → Except Fault Layout
  | 0 => .error .token
  | steps + 1 =>
    let l := l.toToken l.cursor.steps
    let l := l.closeBlocks l.cursor.column
    match l.cursor.head? with
    | none => l.endDocument
    | some x =>
      match l.putToken x with
      | .error f => .error f
      | .ok l => putTokens l steps

end Layout

/-- The tokens of a text. A byte order mark before it is dropped. -/
def tokens (s : String) : Except Fault (List Token) :=
  let chars := if s.toList.head? == some '\uFEFF' then s.toList.tail else s.toList
  if !chars.all isAllowed then .error .character
  else
    let c : Cursor := { rest := chars }
    (Layout.putTokens { cursor := c } (c.steps + 1)).map fun l => l.tokens.toList.flatten

end SqlppBench.Yaml
