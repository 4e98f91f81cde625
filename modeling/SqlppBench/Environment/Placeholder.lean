import SqlppBench.Error
import SqlppBench.Text.Blank

/-! # Variables in texts

A placeholder names a variable between two pairs of braces. A text is cut at its placeholders from
left to right, each time at the first one that is left, and the values are put into their places;
what comes from a value is never cut again.
-/

namespace SqlppBench

/-- The variables of an environment with their values. -/
abbrev Variables := List (String × String)

/-- The value of a variable. -/
def Variables.get? (env : Variables) (name : String) : Option String :=
  List.lookup name env

namespace Placeholder

/-- Whether a character may be within the name of a variable. -/
def isNameChar (c : Char) : Bool :=
  c.isAlphanum || c == '_'

/-- Whether these are the characters of the name of a variable. -/
def isName (name : List Char) : Bool :=
  name.all isNameChar && name.head?.any fun c => !c.isDigit

/-- The name in a placeholder that begins here, and the text behind it. -/
def read? (s : List Char) : Option (List Char × List Char) := do
  let s ← Text.after? "\x7b\x7b".toList s
  let s ← Text.after? "env.".toList (Text.dropBlanks s)
  let name := s.takeWhile isNameChar
  let rest ← Text.after? "\x7d\x7d".toList (Text.dropBlanks (s.dropWhile isNameChar))
  if isName name then some (name, rest) else none

end Placeholder

/-- A piece of a text with placeholders. -/
inductive Piece where
  /-- A character that is not of a placeholder. -/
  | char (c : Char)
  /-- A placeholder for a variable, as it is written. -/
  | variable (name : String) (written : List Char)
deriving DecidableEq, Repr

namespace Piece

/-- What is written for the piece. -/
def written : Piece → List Char
  | .char c => [c]
  | .variable _ s => s

/-- The name of the variable, if the piece is a placeholder. -/
def name? : Piece → Option String
  | .char _ => none
  | .variable name _ => some name

end Piece

/-! ## Cutting -/

/-- A placeholder takes some of the text. -/
theorem Placeholder.length_lt_of_read? {s name rest : List Char}
    (h : Placeholder.read? s = some (name, rest)) : rest.length < s.length := by
  simp only [Placeholder.read?, Option.bind_eq_bind, Option.bind_eq_some_iff] at h
  obtain ⟨a, ha, b, hb, c, hc, h⟩ := h
  split at h
  · simp only [Option.some.injEq, Prod.mk.injEq] at h
    obtain ⟨-, rfl⟩ := h
    have h₁ := Text.length_of_after? ha
    have h₂ := Text.length_of_after? hb
    have h₃ := Text.length_of_after? hc
    have h₄ := Text.length_dropBlanks_le a
    have h₅ := Text.length_dropBlanks_le (b.dropWhile Placeholder.isNameChar)
    have h₆ : (b.dropWhile Placeholder.isNameChar).length ≤ b.length :=
      (List.dropWhile_sublist _).length_le
    have : "\x7b\x7b".toList.length = 2 := rfl
    omega
  · simp at h

/-- The pieces of a text. -/
def pieces (s : List Char) : List Piece :=
  match found : Placeholder.read? s with
  | some (name, rest) =>
    have := Placeholder.length_lt_of_read? found
    .variable (String.ofList name) (s.take (s.length - rest.length)) :: pieces rest
  | none =>
    match s with
    | [] => []
    | c :: s => .char c :: pieces s
termination_by s.length

/-! ## Putting values in -/

/-- Whether a text has placeholders. -/
def hasPlaceholders (s : String) : Bool :=
  (pieces s.toList).any fun p => p.name?.isSome

/-- What stands for a piece in the end. A placeholder without a value stays as it is written. -/
def Piece.filled (env : Variables) (p : Piece) : List Char :=
  match p.name?.bind env.get? with
  | some value => value.toList
  | none => p.written

/-- The text with the values of the variables that have one. -/
def fill (env : Variables) (s : String) : String :=
  String.ofList ((pieces s.toList).flatMap (Piece.filled env))

/-- Adds a name behind others, unless it is among them. -/
def addNew (names : List String) (name : String) : List String :=
  if names.contains name then names else names ++ [name]

/-- The names of the variables without a value, each once, in the order of the text. -/
def missing (env : Variables) (s : String) : List String :=
  (((pieces s.toList).filterMap Piece.name?).filter fun n => (env.get? n).isNone).foldl
    addNew []

/-- The text with the values of the variables, which all must have one. -/
def fillAll (env : Variables) (s : String) : Except Error String :=
  match missing env s with
  | [] => .ok (fill env s)
  | names => .error (.config ("Environment variable not found: " ++ ", ".intercalate names))

end SqlppBench
