/-! # Blank characters and trimming

The characters with the Unicode property `White_Space`, and the removal of such characters from
the two ends of a text. Configuration values, record lines and response lines are all trimmed in
this sense.
-/

namespace SqlppBench.Text

/-- The characters with the Unicode property `White_Space`. -/
def isBlank (c : Char) : Bool :=
  let n := c.toNat
  (9 ≤ n && n ≤ 13) || n == 0x20 || n == 0x85 || n == 0xA0 || n == 0x1680 ||
    (0x2000 ≤ n && n ≤ 0x200A) || n == 0x2028 || n == 0x2029 || n == 0x202F || n == 0x205F ||
    n == 0x3000

/-- Drops the blanks at the front. -/
def dropBlanks (s : List Char) : List Char :=
  s.dropWhile isBlank

theorem length_dropBlanks_le (s : List Char) : (dropBlanks s).length ≤ s.length :=
  (List.dropWhile_sublist _).length_le

/-- Drops the elements at the end that satisfy `p`. -/
def dropEndWhile {α : Type} (p : α → Bool) (s : List α) : List α :=
  (s.reverse.dropWhile p).reverse

/-- Drops the blanks at the end. -/
def dropBlanksEnd (s : List Char) : List Char :=
  dropEndWhile isBlank s

/-- Drops the blanks at both ends. -/
def trimChars (s : List Char) : List Char :=
  dropBlanksEnd (dropBlanks s)

/-- A text without the blanks at its two ends. -/
def trim (s : String) : String :=
  String.ofList (trimChars s.toList)

/-- The rest of `s` after `start`, if `s` begins with it. -/
def after? [BEq α] (start s : List α) : Option (List α) :=
  match start, s with
  | [], s => some s
  | _ :: _, [] => none
  | a :: start, c :: s => if a == c then after? start s else none

theorem length_of_after? [BEq α] {start s rest : List α} (h : after? start s = some rest) :
    rest.length + start.length = s.length := by
  induction start generalizing s with
  | nil => simp_all [after?]
  | cons a start ih =>
    cases s with
    | nil => simp [after?] at h
    | cons c s =>
      simp only [after?] at h
      split at h
      · have := ih h
        simp only [List.length_cons]
        omega
      · simp at h

/-- Splits `s` around the first occurrence of `mark`. -/
def splitAtFirst? [BEq α] (mark s : List α) : Option (List α × List α) :=
  match after? mark s with
  | some rest => some ([], rest)
  | none =>
    match s with
    | [] => none
    | c :: s => (splitAtFirst? mark s).map fun (front, rest) => (c :: front, rest)

/-- The pieces of `s` between the elements that satisfy `p`: one more than there are such
elements. -/
def piecesBy {α : Type} (p : α → Bool) : List α → List (List α)
  | [] => [[]]
  | c :: s =>
    match piecesBy p s with
    | [] => [[c]]
    | piece :: pieces => if p c then [] :: piece :: pieces else (c :: piece) :: pieces

end SqlppBench.Text
