import SqlppBench.Command.Switch

/-! # Reading a command line

The arguments are read from left to right. A switch without its value, and the words of a place,
stay open until something else begins; only then are they checked. So what is wrong with an argument
is found before what is wrong with the switches after it, but not before a switch that does not
exist. What stands behind the command is checked before what stands in front of it. -/

namespace SqlppBench

/-- Why arguments are not carried out. -/
inductive UsageFault where
  /-- A switch that does not exist, or a word without a place. -/
  | unknownArgument (argument : String)
  | unknownCommand (word : String)
  | missingArgument
  /-- A value that its switch or place does not accept. -/
  | badValue (value : String)
  | missingValue (s : Switch)
  /-- A switch that is given twice. -/
  | repeatedSwitch (s : Switch)
  /-- A value for a switch that has none. -/
  | surplusValue (s : Switch)
  | missingCommand
  | noArguments
  /-- Help was asked for. -/
  | help
  /-- The version was asked for. -/
  | version
deriving DecidableEq, Repr

/-- The exit code of a program that does nothing because of its arguments. To give help or the
version is no failure, unless help was not asked for. -/
def UsageFault.exitCode : UsageFault → Nat
  | .help | .version => 0
  | _ => 2

/-- What is given at one level. -/
structure Arguments where
  /-- The switches with their values, in the order of the command line. -/
  switches : List (Switch × List String) := []
  /-- The words with their places. -/
  words : List (Place × String) := []
deriving DecidableEq, Repr

namespace Arguments

/-- Whether a switch is given. -/
def has (a : Arguments) (s : Switch) : Bool :=
  a.switches.any fun (other, _) => other == s

/-- All values of a switch. -/
def valuesOf (a : Arguments) (s : Switch) : List String :=
  (a.switches.filter fun (other, _) => other == s).flatMap Prod.snd

/-- The words at a place. -/
def wordsAt (a : Arguments) (p : Place) : List String :=
  (a.words.filter fun (other, _) => other == p).map Prod.snd

/-- Adds a switch. -/
def addSwitch (a : Arguments) (s : Switch) (values : List String) : Except UsageFault Arguments :=
  if s == .help then .error .help
  else if s == .version then .error .version
  else if a.has s && !s.isRepeatable then .error (.repeatedSwitch s)
  else
    match values.find? fun v => !s.accepts v with
    | some bad => .error (.badValue bad)
    | none => .ok { a with switches := a.switches ++ [(s, values)] }

/-- Adds words at a place. -/
def addWords (a : Arguments) (p : Place) (words : List String) : Except UsageFault Arguments :=
  match words.find? fun w => !p.accepts w with
  | some bad => .error (.badValue bad)
  | none => .ok { a with words := a.words ++ words.map fun w => (p, w) }

end Arguments

/-- What is open while arguments are read. -/
inductive Open where
  | nothing
  /-- A switch that lacks its value. -/
  | switch (s : Switch)
  /-- A switch whose value was the last argument. -/
  | valued (s : Switch) (value : String)
  /-- The words of a place. -/
  | words (p : Place) (words : List String)
deriving DecidableEq, Repr

/-- A level that is being read. -/
structure Reader where
  level : Level
  found : Arguments := {}
  pending : Open := .nothing
  /-- The places that are not filled. -/
  places : List Place := level.places
  /-- Whether all further arguments are words. -/
  wordsOnly : Bool := false

namespace Reader

/-- Checks what is open. -/
def settle (r : Reader) : Except UsageFault Reader :=
  let close (a : Arguments) : Reader := { r with found := a, pending := .nothing }
  match r.pending with
  | .nothing => .ok r
  | .switch s => .error (.missingValue s)
  | .valued s value => (r.found.addSwitch s (s.values value)).map close
  | .words p words => (r.found.addWords p words).map close

/-- Whether the next argument may be the value of a switch. -/
def isExpecting (r : Reader) : Bool :=
  match r.pending with
  | .switch _ => true
  | _ => false

/-- Takes a switch that has its values. -/
def takeSwitch (r : Reader) (s : Switch) (values : List String) : Except UsageFault Reader := do
  let r ← r.settle
  return { r with found := ← r.found.addSwitch s values }

/-- Takes a switch whose value may be attached to it. -/
def takeValued (r : Reader) (s : Switch) (attached : Option String) : Except UsageFault Reader :=
  match attached with
  | some value => r.takeSwitch s (s.values value)
  | none => r.settle.map fun r => { r with pending := .switch s }

/-- Takes a switch of a long name. -/
def takeLong (r : Reader) (argument name : String) (attached : Option String) :
    Except UsageFault Reader :=
  match r.level.long? name with
  | none => .error (.unknownArgument argument)
  | some s =>
    if s.takesValue then r.takeValued s attached
    else if attached.isSome then .error (.surplusValue s)
    else r.takeSwitch s []

/-- Takes the switches of letters. What is behind the letter of a switch with a value is the value,
with or without an equals sign before it. -/
def takeLetters (r : Reader) : List Char → Except UsageFault Reader
  | [] => .ok r
  | letter :: rest =>
    match r.level.short? letter with
    | none => .error (.unknownArgument (String.ofList ['-', letter]))
    | some s =>
      if s.takesValue then
        r.takeValued s <| match rest with
          | [] => none
          | '=' :: value => some (String.ofList value)
          | value => some (String.ofList value)
      else (r.takeSwitch s []).bind fun r => takeLetters r rest

/-- Takes a word for the next place. -/
def takeWord (r : Reader) (word : String) : Except UsageFault Reader :=
  match r.places with
  | [] =>
    if r.level == .top && !(r.wordsOnly && isCommandWord word) then .error (.unknownCommand word)
    else .error (.unknownArgument word)
  | p :: rest =>
    match r.pending with
    | .words q words =>
      if p == q then .ok { r with pending := .words p (words ++ [word]) } else begin p rest
    | _ => begin p rest
where
  /-- Whether the word could have been a command. -/
  isCommandWord (word : String) : Bool :=
    (CommandName.parse? word).isSome || word == helpWord
  /-- Opens a place. -/
  begin (p : Place) (rest : List Place) : Except UsageFault Reader :=
    r.settle.map fun r =>
      { r with pending := .words p [word], places := if p.takesRest then p :: rest else rest }

/-- Takes an argument that is no command. -/
def take (r : Reader) (argument : String) : Except UsageFault Reader :=
  if r.wordsOnly then r.takeWord argument
  else
    match argument.toList with
    | '-' :: '-' :: [] => .ok { r with wordsOnly := true }
    | '-' :: '-' :: long =>
      let name := long.takeWhile (· != '=')
      let attached := match long.dropWhile (· != '=') with
        | [] => none
        | _ :: value => some (String.ofList value)
      r.takeLong argument (String.ofList name) attached
    | '-' :: letter :: letters => r.takeLetters (letter :: letters)
    | _ =>
      match r.pending with
      | .switch s => .ok { r with pending := .valued s argument }
      | _ => r.takeWord argument

end Reader

/-! ## Levels -/

/-- What help is given when the word that asks for it is followed by others: there is some for one
command at most. -/
def helpOn : List String → UsageFault
  | [] => .help
  | word :: rest =>
    if (CommandName.parse? word).isSome || word == helpWord then
      match rest with
      | [] => .help
      | other :: _ => .unknownCommand other
    else .unknownCommand word

/-- Reads the arguments behind the command. -/
def readCommand (r : Reader) (arguments : List String) : Except UsageFault Reader :=
  (arguments.foldlM Reader.take r).bind Reader.settle

/-- Reads arguments up to the command, and gives what is behind it. -/
def readTop (r : Reader) :
    List String → Except UsageFault (Reader × Option (CommandName × List String))
  | [] => .ok (r, none)
  | argument :: rest =>
    let mayBeCommand := !r.wordsOnly && !r.isExpecting
    match if mayBeCommand then CommandName.parse? argument else none with
    | some c => .ok (r, some (c, rest))
    | none =>
      if mayBeCommand && argument == helpWord then .error (helpOn rest)
      else (r.take argument).bind fun r => readTop r rest

/-- A command line: the command, and what is given before and behind it. -/
structure CommandLine where
  command : CommandName
  before : Arguments
  behind : Arguments
deriving DecidableEq, Repr

/-- The command line that arguments make up. -/
def CommandLine.read (arguments : List String) : Except UsageFault CommandLine := do
  let (top, command) ← readTop { level := .top } arguments
  match command with
  | some (c, rest) =>
    let behind ← readCommand { level := .command c } rest
    let missing := c.places.any fun p => isRequired c p && (behind.found.wordsAt p).isEmpty
    if missing then throw .missingArgument
    return ⟨c, (← top.settle).found, behind.found⟩
  | none =>
    let top ← top.settle
    throw (if top.found.switches.isEmpty then .noArguments else .missingCommand)
where
  /-- Whether there must be a word at a place. Only an insert needs no values. -/
  isRequired (c : CommandName) (p : Place) : Bool :=
    !(c == .insert && p == .assignments)

namespace CommandLine

/-- Whether a switch is given. -/
def has (l : CommandLine) (s : Switch) : Bool :=
  l.behind.has s || l.before.has s

/-- The value of a switch. What is given behind the command counts before what is in front of it. -/
def value? (l : CommandLine) (s : Switch) : Option String :=
  (l.behind.valuesOf s).head? <|> (l.before.valuesOf s).head?

end CommandLine

end SqlppBench
