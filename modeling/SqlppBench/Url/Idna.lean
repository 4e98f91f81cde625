import SqlppBench.Text.Blank
import SqlppBench.Url.Percent

/-! # Names of hosts in ASCII

The name of a host may be written in any letters, but it is looked up in ASCII. How the one is
mapped to the other is told by tables of all letters, which are not kept here: whoever reads a URL
takes the mapping as a parameter, with what is known of it.
-/

namespace SqlppBench.Url

/-- The characters that the name of a host may not have once it is in ASCII. -/
def isForbiddenInName (c : Char) : Bool :=
  isControl c || " #%/:<>?@[\\]^|".toList.contains c

/-- A forbidden character has no other case. -/
theorem toLower_of_isForbiddenInName {c : Char} (h : isForbiddenInName c = true) :
    c.toLower = c := by
  have hsigns : " #%/:<>?@[\\]^|".toList.all
      (fun d => !decide (d.val ≥ 'A'.val ∧ d.val ≤ 'Z'.val)) = true := by decide
  refine dif_neg fun hcapital => ?_
  simp only [isForbiddenInName, isControl, Bool.or_eq_true, decide_eq_true_eq, beq_iff_eq,
    List.contains_iff_mem] at h
  rcases h with (hlow | rfl) | hsign
  · exact absurd (UInt32.lt_of_lt_of_le hlow (by decide)) (UInt32.not_lt.2 hcapital.1)
  · exact absurd hcapital (by decide)
  · have hlower := List.all_eq_true.1 hsigns c hsign
    rw [decide_eq_true hcapital] at hlower
    cases hlower

/-- Whether a label of a name stands for one in other letters. -/
def isEncodedLabel (label : List Char) : Bool :=
  (label.take 4).map Char.toLower == "xn--".toList

/-- Whether a name is in ASCII and stands for no other. -/
def isPlainName (name : List Char) : Bool :=
  name.all (·.toNat < 128) && !(Text.piecesBy (· == '.') name).any isEncodedLabel

/-- How the names of hosts are mapped to ASCII. The mapping is an inferred model, so that whatever
reads a URL on its way carries it along without naming it. -/
class Idna where
  /-- The name in ASCII, unless it has letters that no name may have. -/
  toAscii : List Char → Option (List Char)
  /-- Of a plain name no more than the case is changed. -/
  toAscii_plain {name : List Char} : isPlainName name → toAscii name = some (name.map Char.toLower)
  /-- What is forbidden in ASCII is not mapped away, but found there again. Two signs are apart from
  this: with a stroke behind them they are one character of their own. -/
  mem_toAscii {name ascii : List Char} {c : Char} : toAscii name = some ascii → c ∈ name →
    isForbiddenInName c → c ≠ '<' → c ≠ '>' → c ∈ ascii

/-- The mapping of the names that need no tables. All others are refused. -/
instance Idna.plain : Idna where
  toAscii name := if isPlainName name then some (name.map Char.toLower) else none
  toAscii_plain h := if_pos h
  mem_toAscii := by
    intro name ascii c hascii hc hforbidden _ _
    split at hascii
    · cases hascii
      rw [← toLower_of_isForbiddenInName hforbidden]
      exact List.mem_map_of_mem hc
    · cases hascii

end SqlppBench.Url
