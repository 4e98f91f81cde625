import SqlppBench.Decimal.Shortest

/-! # Numbers of a document

Configuration files and result records hold whole numbers and doubles. A double keeps its point or
its exponent when it is written, so the two kinds never look alike.
-/

namespace SqlppBench

/-- A number of a document. -/
inductive Number where
  | whole (n : Int)
  | real (f : Float)

namespace Number

/-- The text of a double, with the given words for the values that have no digits. -/
def realText (layout : Decimal.Layout) (notANumber infinite : String) (f : Float) : String :=
  if f.isNaN then notANumber
  else if f.isInf then (if f < 0.0 then "-" ++ infinite else infinite)
  else Decimal.floatText layout f

/-- The text of a number. -/
def text (real : Float → String) : Number → String
  | .whole n => toString n
  | .real f => real f

end Number

end SqlppBench
