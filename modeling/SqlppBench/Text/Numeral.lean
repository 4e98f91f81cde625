import SqlppBench.Text.Blank

/-! # Numerals

Reading and writing whole numbers in a base up to sixteen.
-/

namespace SqlppBench.Text

/-- The value of a digit in base sixteen, of either case. -/
def digitValue? (c : Char) : Option Nat :=
  if '0' ≤ c && c ≤ '9' then some (c.toNat - 48)
  else if 'a' ≤ c && c ≤ 'f' then some (c.toNat - 87)
  else if 'A' ≤ c && c ≤ 'F' then some (c.toNat - 55)
  else none

/-- The value of a digit in the given base. -/
def digitIn? (base : Nat) (c : Char) : Option Nat :=
  (digitValue? c).filter (· < base)

/-- Reads on from the value of the digits already read. -/
def digitsFrom? (base value : Nat) : List Char → Option Nat
  | [] => some value
  | c :: s => (digitIn? base c).bind fun d => digitsFrom? base (value * base + d) s

/-- The value of a non-empty list of digits. -/
def digits? (base : Nat) : List Char → Option Nat
  | [] => none
  | s => digitsFrom? base 0 s

/-- A number below `bound`, with an optional plus sign. -/
def unsigned? (base bound : Nat) (s : List Char) : Option Nat :=
  let s := match s with
    | '+' :: rest => rest
    | _ => s
  (digits? base s).filter (· < bound)

/-- A number from `-bound` up to but without `bound`, with an optional sign. -/
def signed? (base bound : Nat) (s : List Char) : Option Int :=
  match s with
  | '-' :: rest => ((digits? base rest).filter (· ≤ bound)).map fun n => -(n : Int)
  | _ => (unsigned? base bound s).map Int.ofNat

/-- The digits of a number in base ten. -/
def decimal (n : Nat) : String :=
  toString n

end SqlppBench.Text
