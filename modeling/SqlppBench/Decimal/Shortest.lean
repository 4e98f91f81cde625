/-! # The shortest decimal that reads back

Every finite double is a whole number times a power of two, and the reals that round to it form an
interval around it. The shortest decimal of that interval is found by trying one digit, two digits
and so on: on each grid only the two neighbours of the value have to be looked at, since a grid
that meets the interval at all meets it in one of them. All arithmetic is exact.
-/

namespace SqlppBench

/-- The magnitude `digits * 10 ^ exponent`. -/
structure Decimal where
  digits : Nat
  exponent : Int
deriving DecidableEq, Repr

namespace Decimal

/-- The magnitude of a finite double, in quarters of the distance to its neighbour above:
`middle * 2 ^ exponent`, with the ends of the interval that rounds to it. The ends belong to the
interval when `closed`. -/
structure Rounding where
  low : Nat
  middle : Nat
  high : Nat
  exponent : Int
  closed : Bool

/-- The interval of a positive double with the given fraction and biased exponent fields. -/
def Rounding.ofFields (fraction biased : Nat) : Rounding :=
  let significand := if biased = 0 then fraction else fraction + Nat.pow 2 52
  let exponent : Int := if biased = 0 then -1074 else (biased : Int) - 1075
  -- below a power of two the neighbour is only half as far away
  let gap := if fraction = 0 && biased > 1 then 1 else 2
  ⟨4 * significand - gap, 4 * significand, 4 * significand + 2, exponent - 2, significand % 2 = 0⟩

/-- The fraction `2 ^ e / 10 ^ k` as a numerator and a denominator. -/
def scale (e k : Int) : Nat × Nat :=
  (Nat.pow 2 e.toNat * Nat.pow 10 (-k).toNat, Nat.pow 2 (-e).toNat * Nat.pow 10 k.toNat)

/-- Whether `n * 10 ^ k` lies in the interval. -/
def Rounding.holds (r : Rounding) (n : Nat) (k : Int) : Bool :=
  let (num, den) := scale r.exponent k
  if r.closed then r.low * num ≤ n * den && n * den ≤ r.high * num
  else r.low * num < n * den && n * den < r.high * num

/-- The point of the grid of multiples of `10 ^ k` that is nearest to the middle among those in
the interval; halfway between two of them, the even multiple. -/
def Rounding.onGrid? (r : Rounding) (k : Int) : Option Decimal :=
  let (num, den) := scale r.exponent k
  let below := r.middle * num / den
  let rest := r.middle * num % den
  match r.holds below k, r.holds (below + 1) k with
  | true, true =>
    some ⟨if 2 * rest < den || (2 * rest = den && below % 2 = 0) then below else below + 1, k⟩
  | true, false => some ⟨below, k⟩
  | false, true => some ⟨below + 1, k⟩
  | false, false => none

/-- The first grid from `10 ^ k` downwards that meets the interval. -/
def Rounding.search (r : Rounding) (k : Int) : Nat → Decimal
  | 0 => ⟨0, 0⟩
  | steps + 1 => (r.onGrid? k).getD (r.search (k - 1) steps)

/-- The least `k` with `n < 10 ^ k`. -/
def width (n : Nat) : Nat :=
  if n = 0 then 0 else (toString n).length

/-- The shortest decimal that reads back as the double with these fields. -/
def shortest (fraction biased : Nat) : Decimal :=
  let r := Rounding.ofFields fraction biased
  let (num, den) := scale r.exponent 0
  let start : Int := if den ≤ r.middle * num then width (r.middle * num / den)
    else -(width (den / (r.middle * num)) : Int) + 1
  -- the grid of `10 ^ start` is coarser than the value, and the twentieth below it is fine enough
  r.search start 24

/-! ## The text of a double -/

/-- How a decimal is laid out: the powers of ten of the first digit for which it is written in
positional notation, and whether a positive exponent carries its sign. -/
structure Layout where
  lowest : Int
  highest : Int
  plus : Bool

/-- The magnitude in positional notation, with at least one digit on each side of the point. -/
def positional (d : Decimal) : String :=
  let digits := toString d.digits
  let zeros (n : Nat) := String.ofList (List.replicate n '0')
  match d.exponent with
  | .ofNat n => digits ++ zeros n ++ ".0"
  | .negSucc n =>
    let places := n + 1
    let padded := zeros (places + 1 - digits.length) ++ digits
    let cs := padded.toList
    String.ofList (cs.take (cs.length - places)) ++ "." ++
      String.ofList (cs.drop (cs.length - places))

/-- The magnitude as one digit before the point and a power of ten. -/
def scientific (plus : Bool) (power : Int) (d : Decimal) : String :=
  let mantissa := match (toString d.digits).toList with
    | [c] => String.ofList [c]
    | c :: cs => String.ofList (c :: '.' :: cs)
    | [] => ""
  mantissa ++ "e" ++ (if plus && 0 ≤ power then "+" else "") ++ toString power

/-- The magnitude in the notation that the layout chooses. -/
def text (layout : Layout) (d : Decimal) : String :=
  if d.digits = 0 then "0.0"
  else
    let power := d.exponent + ((toString d.digits).length : Int) - 1
    if layout.lowest ≤ power && power ≤ layout.highest then d.positional
    else d.scientific layout.plus power

/-- The text of a finite double: its sign and its shortest decimal. -/
def floatText (layout : Layout) (f : Float) : String :=
  let bits := f.toBits.toNat
  let biased := bits / Nat.pow 2 52 % 2048
  let fraction := bits % Nat.pow 2 52
  let magnitude := if biased = 0 && fraction = 0 then ⟨0, 0⟩ else shortest fraction biased
  (if bits ≥ Nat.pow 2 63 then "-" else "") ++ magnitude.text layout

/-! ## Reading -/

/-- The double nearest to `digits * 10 ^ exponent`, infinite when that is out of range. Powers of
ten far outside the range are settled without being computed. -/
def toFloat (d : Decimal) : Float :=
  let power := d.exponent + (width d.digits : Int)
  if d.digits = 0 then 0.0
  else if power > 400 then 1.0 / 0.0
  else if power < -400 then 0.0
  else Float.ofScientific d.digits (d.exponent < 0) d.exponent.natAbs

end Decimal

end SqlppBench
