import Mathlib.Logic.Function.Basic
import SqlppBench.Text.Numeral

/-! # Reading numerals back

A number that is written in base ten is read as the number it is (`digits?_decimal`), so different
numbers have different numerals.
-/

namespace SqlppBench.Text

theorem toList_decimal (n : Nat) : (decimal n).toList = Nat.toDigits 10 n :=
  Nat.toList_repr

/-- A numeral has nothing but digits. -/
theorem isDigit_of_mem_decimal {n : Nat} {c : Char} (h : c ∈ (decimal n).toList) :
    c.isDigit = true := by
  rw [toList_decimal] at h
  exact Nat.isDigit_of_mem_toDigits (by decide) (by decide) h

/-- A digit counts how far it is from zero. -/
theorem digitIn?_of_isDigit {c : Char} (h : c.isDigit = true) :
    digitIn? 10 c = some (c.toNat - '0'.toNat) := by
  have hrange : '0' ≤ c ∧ c ≤ '9' := by
    simpa [Char.isDigit, Char.le_def] using h
  have hsmall : c.toNat - 48 < 10 := by
    have htop : c.toNat ≤ '9'.toNat := hrange.2
    have : '9'.toNat = 57 := rfl
    omega
  rw [digitIn?, digitValue?, if_pos (by simpa using hrange)]
  simpa using hsmall

/-- Digits are read one after the other, the highest first. -/
theorem digitsFrom?_of_isDigit {s : List Char} (h : ∀ c ∈ s, c.isDigit = true) (value : Nat) :
    digitsFrom? 10 value s = some (Nat.ofDigitChars 10 s value) := by
  induction s generalizing value with
  | nil => rfl
  | cons c s ih =>
      obtain ⟨hc, hs⟩ := List.forall_mem_cons.1 h
      rw [digitsFrom?, digitIn?_of_isDigit hc, Option.bind_some, ih hs, Nat.ofDigitChars_cons,
        Nat.mul_comm]

/-- A numeral reads back. -/
theorem digits?_decimal (n : Nat) : digits? 10 (decimal n).toList = some n := by
  have hread := digitsFrom?_of_isDigit (fun _ => isDigit_of_mem_decimal (n := n)) 0
  rw [toList_decimal, Nat.ofDigitChars_ten_toDigits] at hread
  rw [toList_decimal]
  cases hdigits : Nat.toDigits 10 n with
  | nil => exact absurd hdigits Nat.toDigits_ne_nil
  | cons c s =>
      rw [digits?, ← hdigits]
      · exact hread
      · exact nofun

/-- No two numbers have the same numeral. -/
theorem decimal_injective : Function.Injective decimal := by
  intro m n heq
  have hread := digits?_decimal m
  rw [heq, digits?_decimal n] at hread
  exact (Option.some.inj hread).symm

/-- A numeral without a sign reads back where the number is not too large. -/
theorem unsigned?_decimal {n bound : Nat} (h : n < bound) :
    unsigned? 10 bound (decimal n).toList = some n := by
  have hread := digits?_decimal n
  have hdigit := fun c => isDigit_of_mem_decimal (n := n) (c := c)
  cases hs : (decimal n).toList with
  | nil => rw [hs] at hread; cases hread
  | cons c s =>
      rw [hs] at hread hdigit
      rw [unsigned?]
      · simp [hread, h]
      · rintro rest heq
        obtain ⟨rfl, -⟩ := List.cons.inj heq
        exact absurd (hdigit '+' (List.mem_cons_self ..)) (by decide)

/-- What is read as a numeral has nothing but digits. -/
theorem isSome_digitValue?_of_digitsFrom? {base value n : Nat} {s : List Char}
    (h : digitsFrom? base value s = some n) : ∀ c ∈ s, (digitValue? c).isSome = true := by
  induction s generalizing value with
  | nil => exact nofun
  | cons c s ih =>
      obtain ⟨d, hd, hrest⟩ := Option.bind_eq_some_iff.1 h
      obtain ⟨hvalue, -⟩ := Option.filter_eq_some_iff.1 hd
      rintro x (_ | ⟨_, hx⟩)
      · rw [hvalue]
        rfl
      · exact ih hrest x hx

theorem isSome_digitValue?_of_digits? {base n : Nat} {s : List Char} (h : digits? base s = some n) :
    ∀ c ∈ s, (digitValue? c).isSome = true := by
  cases s with
  | nil => cases h
  | cons c s => exact isSome_digitValue?_of_digitsFrom? h

end SqlppBench.Text
