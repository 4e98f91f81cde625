import SqlppBench.Http.Answer
import SqlppBench.Text.Blank

/-! # Result cursors

The service puts the results of a statement on lines of their own, one record a line, with commas
before or behind them. The first line begins with the name of the member that holds them; a line
with the closing bracket ends them. A cursor reads the records off one by one, and never looks at
a line beyond the one that decides its answer.
-/

namespace SqlppBench

/-- Where a cursor stands. -/
inductive CursorState where
  | beforeResults
  | insideResults
deriving DecidableEq, Repr

/-- A cursor over the lines of a body. -/
structure ResultCursor where
  state : CursorState
  /-- The lines that were not read yet. -/
  lines : List Http.Line

namespace ResultCursor

/-- A cursor that has not read anything. -/
def ofLines (lines : List Http.Line) : ResultCursor :=
  ⟨.beforeResults, lines⟩

/-- The name with which the line begins that opens the results. -/
def opening : List Char :=
  "\"results\":".toList

/-- A text without the given character at its front. -/
def dropFirst (c : Char) (s : List Char) : List Char :=
  if s.head? == some c then s.tail else s

/-- A text without the given character at its end. -/
def dropLast (c : Char) (s : List Char) : List Char :=
  if s.getLast? == some c then s.dropLast else s

/-- What follows the opening bracket on the line that opens the results, if it is that line. -/
def opened? (line : List Char) : Option (List Char) :=
  (Text.after? opening line).map fun rest => dropFirst '[' (Text.dropBlanks rest)

/-- A record without a comma before it and one behind it, and without blanks around it. -/
def stripCommas (s : List Char) : List Char :=
  Text.trimChars (dropLast ',' (dropFirst ',' (Text.trimChars s)))

/-- The part of a line that may hold a record. -/
def candidate? (state : CursorState) (line : String) : Option (List Char) :=
  let line := Text.trimChars line.toList
  match state with
  | .beforeResults => opened? line
  | .insideResults => some line

/-- Reads lines up to the next record or to the end of the results. -/
def nextOf (state : CursorState) :
    List Http.Line → Except Http.LineFault (Option String) × ResultCursor
  | [] => (.ok none, ⟨.beforeResults, []⟩)
  | .error fault :: rest => (.error fault, ⟨state, rest⟩)
  | .ok line :: rest =>
    match candidate? state line with
    | none => nextOf state rest
    | some text =>
      let record := stripCommas text
      if record = [] then nextOf .insideResults rest
      else if record = [']'] then (.ok none, ⟨.beforeResults, rest⟩)
      else (.ok (some (String.ofList record)), ⟨.insideResults, rest⟩)

/-- The next record, or nothing once the results end; and the cursor behind it. -/
def next (c : ResultCursor) : Except Http.LineFault (Option String) × ResultCursor :=
  nextOf c.state c.lines

/-- Every step takes at least one line, while there is one. -/
theorem length_lines_nextOf (state : CursorState) (lines : List Http.Line) :
    (nextOf state lines).2.lines.length ≤ lines.length - 1 := by
  fun_induction nextOf state lines <;> simp_all <;> omega

/-- A record is never the last thing that a cursor without lines gives. -/
theorem length_lines_lt_of_next {c c' : ResultCursor} {record : String}
    (h : c.next = (.ok (some record), c')) : c'.lines.length < c.lines.length := by
  have hle := length_lines_nextOf c.state c.lines
  have hc : (nextOf c.state c.lines).2 = c' := congrArg Prod.snd h
  rw [hc] at hle
  cases hl : c.lines with
  | nil =>
    rw [next, hl] at h
    simp [nextOf] at h
  | cons line rest =>
    rw [hl] at hle
    simp only [List.length_cons] at hle ⊢
    omega

end ResultCursor

end SqlppBench
