import SqlppBench.Environment.Placeholder
import SqlppBench.Text.Alphanumeric
import SqlppBench.Text.Utf8

/-! # Files with variables

A file may hold assignments `NAME=value`, one on a line; quoted values may go on over lines. The
variables are added to those of the environment one after another, up to the first line that is no
assignment, and a variable that has a value keeps it.
-/

namespace SqlppBench.Dotenv

/-! ## Lines -/

/-- The lines of a file with their ends; `none` is one that is not UTF-8. -/
def physicalLines (s : Bytes) : List (Option (List Char)) :=
  let pieces := Text.piecesBy (· == 0x0A) s
  let ended := pieces.dropLast.map (· ++ [0x0A])
  let last := (pieces.getLast?.filter fun piece => !piece.isEmpty).toList
  (ended ++ last).map Utf8.decodeChars?

/-- Where a line stands with respect to quotes and comments. -/
inductive Reach where
  | complete
  /-- Behind a backslash. -/
  | escape
  /-- Behind a blank, where a comment may begin. -/
  | blank
  /-- Between quotes, and maybe behind a backslash. -/
  | quote (single escaped : Bool)
deriving DecidableEq, Repr

/-- What a character outside quotes leads to. -/
def Reach.enter (c : Char) : Reach :=
  if c == '\\' then .escape
  else if c == '"' then .quote false false
  else if c == '\'' then .quote true false
  else .complete

/-- What the next character leads to. -/
def Reach.next (r : Reach) (c : Char) : Reach :=
  match r with
  | .escape => .complete
  | .blank => enter c
  | .complete => if Text.isBlank c && c != '\n' && c != '\x0D' then .blank else enter c
  | .quote single true => .quote single false
  | .quote single false =>
    if c == '\\' then .quote single true
    else if c == (if single then '\'' else '"') then .complete
    else r

/-- The part of a line before a comment, if there is one. -/
def beforeComment? (r : Reach) : List Char → Option (List Char)
  | [] => none
  | c :: s =>
    if r == .blank && c == '#' then some [] else (beforeComment? (r.next c) s).map (c :: ·)

/-- A line without its end. -/
def withoutEnd (s : List Char) : List Char :=
  match s.reverse with
  | '\n' :: '\x0D' :: s | '\n' :: s => s.reverse
  | _ => s

/-- The lines in which those are joined that belong together, from one that goes on from `before`.
Where a line cannot be read or is not complete at the end of the file, `none` follows. -/
def joined (before : List Char) (r : Reach) :
    List (Option (List Char)) → List (Option (List Char))
  | [] => if r == .complete then [] else [none]
  | none :: _ => [none]
  | some line :: rest =>
    let whole := before ++ line
    if (Text.dropBlanks whole).head? == some '#' then some [] :: joined [] .complete rest
    else
      match beforeComment? r line, line.foldl Reach.next r with
      | some front, _ => some (before ++ front) :: joined [] .complete rest
      | none, .complete => some (withoutEnd whole) :: joined [] .complete rest
      | none, r => joined whole r rest

/-! ## Values -/

/-- What stands around a character of a value. -/
inductive Context where
  | bare
  | single
  | double
  /-- Behind a blank that ended the value. -/
  | ended
  /-- Behind a backslash, maybe between double quotes. -/
  | escape (quoted : Bool)
  /-- Within the name of a variable. -/
  | name (quoted : Bool) (s : List Char)
  /-- Within a name in braces. -/
  | braces (quoted : Bool) (s : List Char)
deriving DecidableEq, Repr

/-- Bare, or between double quotes. -/
def Context.around (quoted : Bool) : Context :=
  if quoted then .double else .bare

/-- The value of the variable of a name, and nothing where there is none. -/
def valueOf (env : Variables) (name : List Char) : List Char :=
  ((env.get? (String.ofList name)).getD "").toList

/-- The next character of a value: what is added to it, and what stands around the character after
it. The character that ends a name has no other meaning. -/
def Context.next (env : Variables) (x : Context) (c : Char) : Option (List Char × Context) :=
  match x with
  | .ended => if c == ' ' || c == '\t' then some ([], .ended) else none
  | .escape quoted =>
    if ['\\', '\'', '"', '$', ' '].contains c then some ([c], around quoted)
    else if c == 'n' then some (['\n'], around quoted)
    else none
  | .single => if c == '\'' then some ([], .bare) else some ([c], .single)
  | .name quoted s =>
    if Text.isAlphanumeric c then some ([], .name quoted (s ++ [c]))
    else if c == '\x7b' && s.isEmpty then some ([], .braces quoted [])
    else if c == '$' then some (valueOf env s, .name quoted [])
    else some (valueOf env s ++ [c], around quoted)
  | .braces quoted s =>
    if c == '\x7d' then some (valueOf env s, around quoted)
    else some ([], .braces quoted (s ++ [c]))
  | .double =>
    if c == '$' then some ([], .name true [])
    else if c == '"' then some ([], .bare)
    else if c == '\\' then some ([], .escape true)
    else some ([c], .double)
  | .bare =>
    if c == '$' then some ([], .name false [])
    else if c == '\'' then some ([], .single)
    else if c == '"' then some ([], .double)
    else if c == '\\' then some ([], .escape false)
    else if c == ' ' || c == '\t' then some ([], .ended)
    else some ([c], .bare)

/-- Reads on in a value. A comment may follow behind a blank; quotes and braces must be closed. -/
def value? (env : Variables) (x : Context) : List Char → Option (List Char)
  | [] =>
    match x with
    | .bare | .ended | .escape false => some []
    | .name false s => some (valueOf env s)
    | _ => none
  | c :: s =>
    if x == .ended && c == '#' then some []
    else (x.next env c).bind fun (added, x) => (value? env x s).map (added ++ ·)

/-! ## Assignments -/

/-- Reads the name of a variable. -/
def key? (s : List Char) : Option (String × List Char) :=
  if s.head?.any fun c => c.isAlpha || c == '_' then
    let isKeyChar := fun (c : Char) => c.isAlphanum || c == '_' || c == '.'
    some (String.ofList (s.takeWhile isKeyChar), Text.dropBlanks (s.dropWhile isKeyChar))
  else none

/-- Reads the name of a variable and the equals sign; the word `export` may stand before them. -/
def target? (s : List Char) : Option (String × List Char) :=
  match key? s with
  | none => none
  | some (key, '=' :: rest) => some (key, rest)
  | some ("export", rest) =>
    match key? rest with
    | some (key, '=' :: rest) => some (key, rest)
    | _ => none
  | some _ => none

/-- What a line says. -/
inductive Line where
  | nothing
  | assignment (name value : String)
  | fault

/-- Reads a line. -/
def Line.read (env : Variables) (s : List Char) : Line :=
  let isOver (s : List Char) : Bool := s.isEmpty || s.head? == some '#'
  let s := Text.trimChars s
  if isOver s then .nothing
  else
    match target? s with
    | none => .fault
    | some (name, rest) =>
      let rest := Text.dropBlanks rest
      match if isOver rest then some [] else value? env .bare rest with
      | some value => .assignment name (String.ofList value)
      | none => .fault

/-- Adds the assignments of lines up to the first fault. -/
def addLines (env : Variables) : List (Option (List Char)) → Variables
  | [] | none :: _ => env
  | some line :: rest =>
    match Line.read env line with
    | .fault => env
    | .nothing => addLines env rest
    | .assignment name value =>
      if (env.get? name).isSome then addLines env rest
      else addLines (env ++ [(name, value)]) rest

/-- The bytes of a byte order mark. -/
def byteOrderMark : Bytes := [0xEF, 0xBB, 0xBF]

/-- The environment with the variables of a file. -/
def load (env : Variables) (file : Bytes) : Variables :=
  let text := (Text.after? byteOrderMark file).getD file
  addLines env (joined [] .complete (physicalLines text))

end SqlppBench.Dotenv
