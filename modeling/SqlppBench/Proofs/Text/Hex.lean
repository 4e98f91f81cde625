import Mathlib.Data.List.Induction
import SqlppBench.Proofs.Text.Utf8
import SqlppBench.Text.Hex

/-! # Writing and reading hexadecimal digits

Digits of either case spell the bytes whose upper case digits they become (`Spells`), and reading
gives these bytes and reads nothing else (`decode_eq_ok_iff`). So no two byte strings have the same
digits.
-/

namespace SqlppBench

namespace Text

/-- The value of a digit does not depend on its case. -/
theorem digitValue?_toUpper (c : Char) : digitValue? c.toUpper = digitValue? c := by
  have hlower : ∀ n < 128, digitValue? (Char.ofNat n).toUpper = digitValue? (Char.ofNat n) := by
    decide
  by_cases h : 'a'.val ≤ c.val ∧ c.val ≤ 'z'.val
  · have hlt : c.toNat < 128 := Nat.lt_of_le_of_lt (UInt32.le_iff_toNat_le.1 h.2) (by decide)
    have hc := hlower c.toNat hlt
    rwa [Char.ofNat_toNat] at hc
  · have hsame : c.toUpper = c := dif_neg h
    rw [hsame]

/-- Digits are characters of ASCII. -/
theorem toNat_lt_of_digitValue? {c : Char} {n : Nat} (h : digitValue? c = some n) :
    c.toNat < 0x80 := by
  have hle (d : Char) (hd : d.toNat < 0x80) (hc : c ≤ d) : c.toNat < 0x80 :=
    Nat.lt_of_le_of_lt (UInt32.le_iff_toNat_le.1 hc) hd
  unfold digitValue? at h
  simp only [Bool.and_eq_true, decide_eq_true_eq] at h
  split at h
  · rename_i hc
    exact hle '9' (by decide) hc.2
  split at h
  · rename_i hc
    exact hle 'f' (by decide) hc.2
  split at h
  · rename_i hc
    exact hle 'F' (by decide) hc.2
  · simp at h

end Text

namespace Hex

/-- A digit has the value that it was written for. -/
theorem digitValue?_digit (case : Case) {n : Nat} (h : n < 16) :
    Text.digitValue? (digit case n) = some n := by
  have hall : ∀ n < 16, Text.digitValue? (digit .lower n) = some n ∧
      Text.digitValue? (digit .upper n) = some n := by decide
  cases case with
  | lower => exact (hall n h).1
  | upper => exact (hall n h).2

/-- Digits of either case that stand for a sequence of bytes. -/
def Spells (digits : List Char) (bytes : Bytes) : Prop :=
  digits.map Char.toUpper = encodeChars .upper bytes

/-- The digits that are written spell what they were written for. -/
theorem spells_encodeChars (case : Case) (bytes : Bytes) :
    Spells (encodeChars case bytes) bytes := by
  have hall : ∀ n < 16, (digit .lower n).toUpper = digit .upper n ∧
      (digit .upper n).toUpper = digit .upper n := by decide
  have hdigit (n : Nat) (h : n < 16) : (digit case n).toUpper = digit .upper n := by
    cases case with
    | lower => exact (hall n h).1
    | upper => exact (hall n h).2
  induction bytes with
  | nil => rfl
  | cons b bytes ih =>
      have hb : b.toNat < 256 := b.toNat_lt_size
      rw [Spells] at ih ⊢
      simp only [encodeChars, List.flatMap_cons, List.map_append] at ih ⊢
      rw [ih]
      simp only [pair, List.map_cons, List.map_nil, hdigit _ (show b.toNat / 16 < 16 by omega),
        hdigit _ (show b.toNat % 16 < 16 by omega)]

/-- No digits spell no bytes. -/
theorem eq_nil_of_spells {digits : List Char} (h : Spells digits []) : digits = [] := by
  simpa [Spells, encodeChars] using h

/-- The digits of the first byte, and those of the others. -/
theorem spells_cons {digits : List Char} {b : UInt8} {bytes : Bytes}
    (h : Spells digits (b :: bytes)) :
    ∃ high low rest, digits = high :: low :: rest ∧
      Text.digitValue? high = some (b.toNat / 16) ∧ Text.digitValue? low = some (b.toNat % 16) ∧
      Spells rest bytes := by
  have hb : b.toNat < 256 := b.toNat_lt_size
  match digits, h with
  | [], h => simp [Spells, encodeChars, pair] at h
  | [_], h => simp [Spells, encodeChars, pair] at h
  | high :: low :: rest, h =>
      simp only [Spells, encodeChars, List.flatMap_cons, pair, List.map_cons, List.cons_append,
        List.nil_append, List.cons.injEq] at h
      obtain ⟨hhigh, hlow, hrest⟩ := h
      refine ⟨high, low, rest, rfl, ?_, ?_, hrest⟩
      · rw [← Text.digitValue?_toUpper, hhigh]
        exact digitValue?_digit _ (by omega)
      · rw [← Text.digitValue?_toUpper, hlow]
        exact digitValue?_digit _ (by omega)

/-- Digits that spell bytes are digits. -/
theorem exists_digitValue?_of_spells {digits : List Char} {bytes : Bytes}
    (h : Spells digits bytes) : ∀ c ∈ digits, ∃ n, Text.digitValue? c = some n := by
  induction bytes generalizing digits with
  | nil =>
      rw [eq_nil_of_spells h]
      simp
  | cons b bytes ih =>
      obtain ⟨high, low, rest, rfl, hhigh, hlow, hrest⟩ := spells_cons h
      intro c hc
      rcases List.mem_cons.1 hc with rfl | hc
      · exact ⟨_, hhigh⟩
      rcases List.mem_cons.1 hc with rfl | hc
      · exact ⟨_, hlow⟩
      · exact ih hrest c hc

/-- What is no digit is not among them. -/
theorem not_mem_encodeChars {c : Char} (h : Text.digitValue? c = none) (case : Case)
    (bytes : Bytes) : c ∉ encodeChars case bytes := by
  intro hc
  obtain ⟨n, hn⟩ := exists_digitValue?_of_spells (spells_encodeChars case bytes) c hc
  rw [h] at hn
  simp at hn

/-- A byte takes two digits. -/
theorem length_of_spells {digits : List Char} {bytes : Bytes} (h : Spells digits bytes) :
    digits.length = 2 * bytes.length := by
  induction bytes generalizing digits with
  | nil =>
      rw [eq_nil_of_spells h]
      simp
  | cons b bytes ih =>
      obtain ⟨high, low, rest, rfl, -, -, hrest⟩ := spells_cons h
      have hlength := ih hrest
      simp only [List.length_cons]
      omega

/-- Pairs of digits are read as the bytes that they spell. -/
theorem decodePairs_of_spells {digits : List Char} {bytes : Bytes} (h : Spells digits bytes)
    (index : Nat) :
    decodePairs index (digits.map fun c => UInt8.ofNat c.toNat) = .ok bytes := by
  induction bytes generalizing digits index with
  | nil =>
      rw [eq_nil_of_spells h]
      rfl
  | cons b bytes ih =>
      obtain ⟨high, low, rest, rfl, hhigh, hlow, hrest⟩ := spells_cons h
      have hascii {c : Char} {n : Nat} (hc : Text.digitValue? c = some n) :
          Char.ofNat (UInt8.ofNat c.toNat).toNat = c := by
        have hlt := Text.toNat_lt_of_digitValue? hc
        rw [UInt8.toNat_ofNat_of_lt' (by simp [UInt8.size]; omega), Char.ofNat_toNat]
      have hbyte : 16 * (b.toNat / 16) + b.toNat % 16 = b.toNat := by omega
      simp only [List.map_cons, decodePairs, hascii hhigh, hascii hlow, hhigh, hlow, ih hrest,
        hbyte, Except.map, UInt8.ofNat_toNat]

/-- Digits are read as the bytes that they spell. -/
theorem decode_of_spells {digits : List Char} {bytes : Bytes} (h : Spells digits bytes) :
    decode (String.ofList digits) = .ok bytes := by
  have hascii : ∀ c ∈ digits, c.toNat < 0x80 := by
    intro c hc
    obtain ⟨n, hn⟩ := exists_digitValue?_of_spells h c hc
    exact Text.toNat_lt_of_digitValue? hn
  have heven : ¬ (digits.map fun c => UInt8.ofNat c.toNat).length % 2 = 1 := by
    rw [List.length_map, length_of_spells h]
    omega
  rw [decode, Utf8.encode, String.toList_ofList, Utf8.encodeChars_ascii hascii]
  rw [if_neg heven]
  exact decodePairs_of_spells h 0

/-! ## What is read -/

/-- Digits of either case, an even number of them. -/
structure IsDigits (s : List Char) : Prop where
  even : s.length % 2 = 0
  digits : ∀ c ∈ s, c ∈ "0123456789abcdefABCDEF".toList

/-- The characters that have a value are the digits. -/
theorem exists_digitValue?_iff {c : Char} :
    (∃ n, Text.digitValue? c = some n) ↔ c ∈ "0123456789abcdefABCDEF".toList := by
  have hvalues : ∀ m < 128, (Text.digitValue? (Char.ofNat m)).isSome = true →
      Char.ofNat m ∈ "0123456789abcdefABCDEF".toList := by decide +kernel
  have hdigits : "0123456789abcdefABCDEF".toList.all (fun d => (Text.digitValue? d).isSome) := by
    decide
  constructor
  · rintro ⟨n, hn⟩
    have hc := hvalues c.toNat (Text.toNat_lt_of_digitValue? hn)
    rw [Char.ofNat_toNat, hn] at hc
    exact hc rfl
  · intro h
    exact Option.isSome_iff_exists.1 (List.all_eq_true.1 hdigits c h)

/-- A digit in upper case is the one that is written for its value. -/
theorem toUpper_of_digitValue? {c : Char} {n : Nat} (h : Text.digitValue? c = some n) :
    n < 16 ∧ c.toUpper = digit .upper n := by
  have hall : ∀ m < 128, ∀ n ∈ Text.digitValue? (Char.ofNat m),
      n < 16 ∧ (Char.ofNat m).toUpper = digit .upper n := by decide
  have hc := hall c.toNat (Text.toNat_lt_of_digitValue? h) n
  rw [Char.ofNat_toNat] at hc
  exact hc h

/-- Two digits in front of others are a byte in front of others. -/
theorem Spells.cons {high low : Char} {h l : Nat} {digits : List Char} {bytes : Bytes}
    (hhigh : Text.digitValue? high = some h) (hlow : Text.digitValue? low = some l)
    (hrest : Spells digits bytes) :
    Spells (high :: low :: digits) (UInt8.ofNat (16 * h + l) :: bytes) := by
  obtain ⟨hh, hupper⟩ := toUpper_of_digitValue? hhigh
  obtain ⟨hl, hupper'⟩ := toUpper_of_digitValue? hlow
  have hbyte : (UInt8.ofNat (16 * h + l)).toNat = 16 * h + l :=
    UInt8.toNat_ofNat_of_lt' (by simp [UInt8.size]; omega)
  have hdiv : (16 * h + l) / 16 = h := by omega
  have hmod : (16 * h + l) % 16 = l := by omega
  rw [Spells] at hrest ⊢
  simp only [encodeChars, List.flatMap_cons, pair, hbyte, hdiv, hmod, List.map_cons, hupper,
    hupper', List.cons_append, List.nil_append] at hrest ⊢
  rw [hrest]

/-- Digits spell something exactly if there is an even number of them. -/
theorem exists_spells_iff {s : List Char} : (∃ bytes, Spells s bytes) ↔ IsDigits s := by
  constructor
  · rintro ⟨bytes, h⟩
    refine ⟨by rw [length_of_spells h]; omega, fun c hc => ?_⟩
    exact exists_digitValue?_iff.1 (exists_digitValue?_of_spells h c hc)
  · rintro ⟨heven, hdigits⟩
    induction s using List.twoStepInduction with
    | nil => exact ⟨[], rfl⟩
    | singleton c => exact absurd heven (by simp)
    | cons_cons high low s ih _ =>
        obtain ⟨h, hhigh⟩ := exists_digitValue?_iff.2 (hdigits high (by simp))
        obtain ⟨l, hlow⟩ := exists_digitValue?_iff.2 (hdigits low (by simp))
        simp only [List.length_cons] at heven
        obtain ⟨bytes, hbytes⟩ := ih (by omega) fun c hc => hdigits c (by simp [hc])
        exact ⟨_, hbytes.cons hhigh hlow⟩

/-- Pairs that are read are characters of ASCII, and they spell what they are read as. -/
theorem spells_of_decodePairs {s bytes : Bytes} {index : Nat}
    (h : decodePairs index s = .ok bytes) :
    (∀ b ∈ s, b.toNat < 0x80) ∧ Spells (s.map fun b => Char.ofNat b.toNat) bytes := by
  induction s using List.twoStepInduction generalizing index bytes with
  | nil =>
      cases h
      exact ⟨by simp, rfl⟩
  | singleton b => cases h
  | cons_cons a b s ih _ =>
      have hascii {b : UInt8} {n : Nat} (hn : Text.digitValue? (Char.ofNat b.toNat) = some n) :
          b.toNat < 0x80 := by
        rw [← Utf8.toNat_ofNat_byte]
        exact Text.toNat_lt_of_digitValue? hn
      unfold decodePairs at h
      dsimp only at h
      split at h
      · cases h
      · cases h
      · rename_i high low hhigh hlow
        obtain ⟨rest, hrest, rfl⟩ : ∃ rest, decodePairs (index + 2) s = .ok rest ∧
            bytes = UInt8.ofNat (16 * high + low) :: rest := by
          cases hdecode : decodePairs (index + 2) s with
          | error e => simp [hdecode, Except.map] at h
          | ok rest =>
              rw [hdecode] at h
              exact ⟨rest, rfl, (Except.ok.inj h).symm⟩
        obtain ⟨hsmall, hspells⟩ := ih hrest
        refine ⟨?_, hspells.cons hhigh hlow⟩
        intro c hc
        rcases List.mem_cons.1 hc with rfl | hc
        · exact hascii hhigh
        rcases List.mem_cons.1 hc with rfl | hc
        · exact hascii hlow
        · exact hsmall c hc

/-- A text is read exactly as the bytes that it spells. -/
theorem decode_eq_ok_iff {s : String} {bytes : Bytes} :
    decode s = .ok bytes ↔ Spells s.toList bytes := by
  constructor
  · intro h
    unfold decode at h
    dsimp only at h
    split at h
    · cases h
    · obtain ⟨hsmall, hspells⟩ := spells_of_decodePairs h
      have hascii : ∀ c ∈ s.toList, c.toNat < 0x80 := Utf8.ascii_of_encodeChars hsmall
      have hsame : (Utf8.encode s).map (fun b => Char.ofNat b.toNat) = s.toList := by
        rw [Utf8.encode, Utf8.encodeChars_ascii hascii, List.map_map]
        refine (List.map_congr_left fun c hc => ?_).trans (List.map_id _)
        have hlt := hascii c hc
        rw [Function.comp_apply, UInt8.toNat_ofNat_of_lt' (by simp [UInt8.size]; omega),
          Char.ofNat_toNat, id_eq]
      rwa [hsame] at hspells
  · intro h
    have hdecode := decode_of_spells h
    rwa [String.ofList_toList] at hdecode

/-- What was written is read back. -/
@[simp] theorem decode_encode (case : Case) (bytes : Bytes) :
    decode (encode case bytes) = .ok bytes :=
  decode_of_spells (spells_encodeChars case bytes)

/-- No two byte strings have the same digits. -/
theorem encode_injective (case : Case) : Function.Injective (encode case) := by
  intro a b h
  have hdecode := congrArg decode h
  simpa using hdecode

end Hex

end SqlppBench
