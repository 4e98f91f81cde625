import SqlppBench.Json.Value
import SqlppBench.Url.Host

/-! # URLs

The parts of an absolute URL, as web clients read it: blanks around it and line breaks within it are
dropped, backslashes are slashes, `.` and `..` segments are resolved, and a port that the scheme has
anyway is left out. Only URLs of the schemes with a host and a path of segments are kept; of another
scheme no more is said than that it is another, but its authority is checked.
-/

namespace SqlppBench

/-- An absolute URL of a scheme whose URLs have a host. All parts are as they are written, with
their percent signs. -/
structure Url where
  scheme : String
  user : String
  password : String
  host : Url.Host
  /-- The port, unless it is the one that the scheme has anyway. -/
  port : Option Nat
  /-- The segments of the path, at least one. -/
  path : List String
  query : Option String
  fragment : Option String
deriving DecidableEq, Repr

namespace Url

/-- The port that a scheme has anyway. -/
def defaultPort? (scheme : String) : Option Nat :=
  Members.get? scheme [("http", 80), ("https", 443), ("ws", 80), ("wss", 443), ("ftp", 21)]

/-- Whether URLs of the scheme have a host and a path of segments. -/
def isHierarchical (scheme : String) : Bool :=
  (defaultPort? scheme).isSome

/-! ## Writing -/

/-- The path. -/
def pathText (u : Url) : String :=
  "/" ++ "/".intercalate u.path

/-- The query with its mark. -/
def queryText (u : Url) : String :=
  match u.query with
  | none => ""
  | some q => "?" ++ q

/-- The user name and the password, with the marks behind them. -/
def userText (u : Url) : String :=
  if u.user.isEmpty && u.password.isEmpty then ""
  else u.user ++ (if u.password.isEmpty then "" else ":" ++ u.password) ++ "@"

/-- The host and the port. -/
def authorityText (u : Url) : String :=
  u.host.text ++
    match u.port with
    | none => ""
    | some n => ":" ++ Text.decimal n

/-- The path and the query, which are what a request names. -/
def target (u : Url) : String :=
  u.pathText ++ u.queryText

/-- The whole URL. -/
def text (u : Url) : String :=
  u.scheme ++ "://" ++ u.userText ++ u.authorityText ++ u.target ++
    match u.fragment with
    | none => ""
    | some f => "#" ++ f

/-! ## Reading -/

/-- The text that matters: blanks and controls at the ends and all tabs and line breaks dropped. -/
def clean (s : List Char) : List Char :=
  let outer (c : Char) : Bool := c ≤ ' '
  (Text.dropEndWhile outer (s.dropWhile outer)).filter fun c =>
    !(c == '\t' || c == '\n' || c == '\x0D')

/-- The scheme, in small letters, and what follows its colon. -/
def scheme? (s : List Char) : Option (String × List Char) :=
  let inScheme (c : Char) : Bool := c.isAlphanum || c == '+' || c == '-' || c == '.'
  match s with
  | [] => none
  | c :: _ =>
    match s.dropWhile inScheme with
    | ':' :: rest =>
      if c.isAlpha then some (String.ofList ((s.takeWhile inScheme).map Char.toLower), rest)
      else none
    | _ => none

/-- Whether the character separates segments. -/
def isSlash (c : Char) : Bool :=
  c == '/' || c == '\\'

/-- Whether the character ends the path. -/
def endsPath (c : Char) : Bool :=
  c == '?' || c == '#'

/-- Splits an authority at its last `@`. -/
def splitUser (s : List Char) : Option (List Char) × List Char :=
  if s.contains '@' then
    let host := (s.reverse.takeWhile (· != '@')).reverse
    (some (s.take (s.length - host.length - 1)), host)
  else (none, s)

/-- The host of an authority: up to the first colon outside of brackets. -/
def hostPart (inBrackets : Bool) : List Char → List Char
  | [] => []
  | c :: s =>
    if c == ':' && !inBrackets then []
    else c :: hostPart (if c == '[' then true else if c == ']' then false else inBrackets) s

/-- Reads the digits of a port; no digits are no port. -/
def readPort (digits : List Char) : Except Fault (Option Nat) :=
  if digits.isEmpty then .ok none
  else
    match (Text.digits? 10 digits).filter (· < 65536) with
    | some n => .ok (some n)
    | none => .error .badPort

/-- A user name and a password, around the first colon. -/
def credentials (s : List Char) : String × String :=
  let encoded (s : List Char) := String.ofList (percentEncode userSet s)
  (encoded (s.takeWhile (· != ':')), encoded ((s.dropWhile (· != ':')).drop 1))

/-- Whether a segment is a dot, written out or encoded. -/
def isDot (segment : String) : Bool :=
  segment == "." || segment.map Char.toLower == "%2e"

/-- Whether a segment is two dots, written out or encoded. -/
def isDoubleDot (segment : String) : Bool :=
  ["..", ".%2e", "%2e.", "%2e%2e"].contains (segment.map Char.toLower)

/-- Whether a segment names a drive. -/
def isDrive (segment : String) : Bool :=
  match segment.toList with
  | [letter, mark] => letter.isAlpha && (mark == ':' || mark == '|')
  | _ => false

/-- Puts a segment behind others, which are given last first. Two dots take the one before them
away, unless it names a drive; dots at the end leave an empty segment. -/
def addSegment (before : List String) (segment : String) (last : Bool) : List String :=
  let before' :=
    if isDoubleDot segment && !before.head?.any isDrive then before.tail else before
  if isDoubleDot segment || isDot segment then (if last then "" :: before' else before')
  else segment :: before

/-- Puts segments behind others. -/
def addSegments (before : List String) : List String → List String
  | [] => before.reverse
  | [segment] => (addSegment before segment true).reverse
  | segment :: segments => addSegments (addSegment before segment false) segments

/-- The segments of a path. -/
def segments (s : List Char) : List String :=
  let s := match s with
    | c :: rest => if isSlash c then rest else s
    | [] => s
  addSegments [] ((Text.piecesBy isSlash s).map fun p => String.ofList (percentEncode pathSet p))

/-- Reads a URL of a scheme with a host, from behind the colon. -/
def ofHierarchical [Idna] (scheme : String) (s : List Char) : Except Fault Url := do
  let s := s.dropWhile isSlash
  let inAuthority (c : Char) : Bool := !(isSlash c || endsPath c)
  let (user, hostAndPort) := splitUser (s.takeWhile inAuthority)
  let hostChars := hostPart false hostAndPort
  if hostChars.isEmpty then throw .emptyHost
  let host ← Host.ofChars hostChars
  let port ← readPort ((hostAndPort.drop hostChars.length).drop 1)
  let (user, password) := credentials (user.getD [])
  let s := s.dropWhile inAuthority
  let afterPath := s.dropWhile (!endsPath ·)
  let marked (mark : Char) (s : List Char) : Option (List Char) :=
    match s with
    | c :: rest => if c == mark then some rest else none
    | [] => none
  let encoded (inSet : Char → Bool) (s : List Char) := String.ofList (percentEncode inSet s)
  return {
    scheme, user, password, host
    port := if port == defaultPort? scheme then none else port
    path := segments (s.takeWhile (!endsPath ·))
    query := (marked '?' afterPath).map fun q => encoded querySet (q.takeWhile (· != '#'))
    fragment := (marked '#' (afterPath.dropWhile (· != '#'))).map (encoded fragmentSet) }

/-- Checks the authority of a URL of some other scheme. -/
def checkAuthority (s : List Char) : Except Fault Unit := do
  let authority := s.takeWhile fun c => !(c == '/' || endsPath c)
  let (user, hostAndPort) := splitUser authority
  let hostChars := hostPart false hostAndPort
  let rest := hostAndPort.drop hostChars.length
  if hostChars.isEmpty && (!rest.isEmpty || user.any fun u => u != [] && u != [':']) then
    throw .emptyHost
  if hostChars.isEmpty && user == some [] && s.length > authority.length then throw .emptyHost
  Host.checkOpaque hostChars
  discard (readPort ((rest.drop 1).takeWhile (· != '\\')))

/-- Checks the host of a `file` URL, if it has one. A letter and a colon are a drive and no host. -/
def checkFile [Idna] (s : List Char) : Except Fault Unit :=
  match s with
  | a :: b :: rest =>
    if isSlash a && isSlash b then
      let host := rest.takeWhile fun c => !(isSlash c || endsPath c)
      if host.isEmpty || isDrive (String.ofList host) then .ok ()
      else (Host.ofChars host).map fun _ => ()
    else .ok ()
  | _ => .ok ()

/-- What a text locates: a URL that is kept, or something of another scheme. -/
inductive Location where
  | url (u : Url)
  | other (scheme : String)
deriving DecidableEq, Repr

/-- Reads an absolute URL. -/
def parse [Idna] (s : String) : Except Fault Location :=
  match scheme? (clean s.toList) with
  | none => .error .noScheme
  | some (scheme, rest) =>
    if isHierarchical scheme then (ofHierarchical scheme rest).map .url
    else if scheme == "file" then (checkFile rest).map fun _ => .other scheme
    else
      match Text.after? "//".toList rest with
      | none => .ok (.other scheme)
      | some authority => (checkAuthority authority).map fun _ => .other scheme

end Url

end SqlppBench
