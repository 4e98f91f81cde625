import Mathlib.Computability.Language
import SqlppBench.Config.Validation

/-! # The language of names

The names of scopes and relations are the words of a regular language: a letter, which may be
followed by letters, digits and underscores that end in a letter or digit
(`isValidName_iff_mem_names`). A name is the whole of its text, so nothing stands in front of it or
behind it, no line feed either.
-/

namespace SqlppBench

open scoped Computability

/-- A letter of ASCII. -/
def IsLetter (c : Char) : Prop :=
  'A' ≤ c ∧ c ≤ 'Z' ∨ 'a' ≤ c ∧ c ≤ 'z'

/-- A digit of ASCII. -/
def IsDigit (c : Char) : Prop :=
  '0' ≤ c ∧ c ≤ '9'

/-- The texts of one character of a kind. -/
def characters (kind : Char → Prop) : Language Char :=
  {s | ∃ c, s = [c] ∧ kind c}

/-- What may be behind the first letter of a name. -/
def nameTails : Language Char :=
  (characters fun c => IsLetter c ∨ IsDigit c ∨ c = '_')∗ *
    characters fun c => IsLetter c ∨ IsDigit c

/-- The names of scopes and relations. -/
def names : Language Char :=
  characters IsLetter * (1 + nameTails)

theorem isAlpha_iff {c : Char} : c.isAlpha = true ↔ IsLetter c := by
  have hupper : c.isUpper = true ↔ 'A' ≤ c ∧ c ≤ 'Z' := decide_eq_true_iff
  have hlower : c.isLower = true ↔ 'a' ≤ c ∧ c ≤ 'z' :=
    Bool.and_eq_true_iff.trans (and_congr decide_eq_true_iff decide_eq_true_iff)
  exact Bool.or_eq_true_iff.trans (or_congr hupper hlower)

theorem isAlphanum_iff {c : Char} : c.isAlphanum = true ↔ IsLetter c ∨ IsDigit c := by
  simp only [Char.isAlphanum, Bool.or_eq_true, isAlpha_iff, Char.isDigit, IsDigit, Bool.and_eq_true,
    decide_eq_true_eq, Char.le_def, ge_iff_le]

/-- The repetitions of characters of a kind are the texts of such characters. -/
theorem mem_kstar_characters {kind : Char → Prop} {s : List Char} :
    s ∈ (characters kind)∗ ↔ ∀ c ∈ s, kind c := by
  constructor
  · rintro ⟨parts, rfl, hparts⟩ c hc
    obtain ⟨part, hpart, hmem⟩ := List.mem_flatten.1 hc
    obtain ⟨d, rfl, hd⟩ := hparts part hpart
    obtain rfl := List.mem_singleton.1 hmem
    exact hd
  · intro h
    have hsingles : s = (s.map fun c => [c]).flatten := (List.flatMap_singleton' s).symm
    rw [hsingles]
    refine Language.join_mem_kstar fun part hpart => ?_
    obtain ⟨c, hc, rfl⟩ := List.mem_map.1 hpart
    exact ⟨c, rfl, h c hc⟩

/-- What is behind the first letter is made of letters, digits and underscores, and does not end in
an underscore. -/
theorem mem_nameTails_iff {s : List Char} :
    s ∈ 1 + nameTails ↔ (∀ c ∈ s, IsLetter c ∨ IsDigit c ∨ c = '_') ∧ s.getLast? ≠ some '_' := by
  have notUnderscore : ¬ (IsLetter '_' ∨ IsDigit '_') := by
    rw [← isAlphanum_iff]
    decide
  rw [Language.mem_add, Language.mem_one, nameTails, Language.mem_mul]
  constructor
  · rintro (rfl | ⟨init, hinit, -, ⟨last, rfl, hlast⟩, rfl⟩)
    · exact ⟨nofun, nofun⟩
    · refine ⟨fun c hc => ?_, fun h => ?_⟩
      · rcases List.mem_append.1 hc with hc | hc
        · exact mem_kstar_characters.1 hinit c hc
        · obtain rfl := List.mem_singleton.1 hc
          exact or_assoc.1 (.inl hlast)
      · obtain rfl : last = '_' := by simpa using h
        exact notUnderscore hlast
  · rintro ⟨hall, hlast⟩
    rcases List.eq_nil_or_concat s with rfl | ⟨init, last, rfl⟩
    · exact .inl rfl
    rw [List.concat_eq_append] at hall hlast ⊢
    refine .inr ⟨init, mem_kstar_characters.2 fun c hc => hall c (List.mem_append_left _ hc),
      [last], ⟨last, rfl, ?_⟩, rfl⟩
    have hkind := or_assoc.2 (hall last (List.mem_append_right _ (List.mem_singleton_self last)))
    exact hkind.resolve_right fun h => hlast (by simp [h])

/-- The check of names accepts the words of the language and nothing else. -/
theorem isValidName_iff_mem_names {name : String} :
    isValidName name = true ↔ name.toList ∈ names := by
  rw [names, Language.mem_mul]
  unfold isValidName
  cases name.toList with
  | nil =>
      refine iff_of_false nofun ?_
      rintro ⟨-, ⟨c, rfl, -⟩, tail, -, h⟩
      cases h
  | cons c rest =>
      have htail : (rest.all (fun c => c.isAlphanum || c == '_') &&
          rest.getLast?.all fun c => c != '_') = true ↔ rest ∈ 1 + nameTails := by
        rw [mem_nameTails_iff, Bool.and_eq_true, List.all_eq_true]
        refine and_congr (forall₂_congr fun d _ => ?_) ?_
        · rw [Bool.or_eq_true, isAlphanum_iff, beq_iff_eq, or_assoc]
        · cases rest.getLast? <;> simp
      dsimp only
      rw [Bool.and_assoc, Bool.and_eq_true, isAlpha_iff, htail]
      constructor
      · rintro ⟨hc, hrest⟩
        exact ⟨[c], ⟨c, rfl, hc⟩, rest, hrest, rfl⟩
      · rintro ⟨-, ⟨d, rfl, hd⟩, tail, hmem, h⟩
        obtain ⟨rfl, rfl⟩ := List.cons.inj h
        exact ⟨hd, hmem⟩

example : isValidName "usertable\n" = false := by decide

end SqlppBench
