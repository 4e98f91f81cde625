import Mathlib.Data.List.DropRight
import SqlppBench.Text.Blank

/-! # Trimming

Blanks around a text make no difference to what it is trimmed to, and a text that neither begins nor
ends with a blank is left as it is.
-/

namespace SqlppBench.Text

/-- Nothing but blanks. -/
def AllBlank (s : List Char) : Prop := ∀ c ∈ s, isBlank c = true

/-- No blank at either end. -/
def Tight (s : List Char) : Prop :=
  (∀ c, s.head? = some c → isBlank c = false) ∧ ∀ c, s.getLast? = some c → isBlank c = false

theorem allBlank_nil : AllBlank [] := by simp [AllBlank]

/-! ## Ends -/

section Ends

variable {α : Type} {p : α → Bool}

/-- What is to be dropped at the end makes no difference. -/
theorem dropEndWhile_append {t : List α} (h : ∀ a ∈ t, p a = true) (s : List α) :
    dropEndWhile p (s ++ t) = dropEndWhile p s := by
  have hreverse : ∀ a ∈ t.reverse, p a = true := fun a ha => h a (List.mem_reverse.1 ha)
  rw [dropEndWhile, List.reverse_append, List.dropWhile_append_of_pos hreverse, dropEndWhile]

/-- Nothing is dropped behind what is to stay. -/
theorem dropEndWhile_of_getLast {s : List α} (h : ∀ a, s.getLast? = some a → p a = false) :
    dropEndWhile p s = s := by
  rcases List.eq_nil_or_concat s with rfl | ⟨s, a, rfl⟩
  · rfl
  · have ha : p a = false := h a (by simp)
    simp [dropEndWhile, ha]

/-- What is to be taken is taken, up to what is not. -/
theorem takeWhile_append_of_head {s t : List α} (hs : ∀ a ∈ s, p a = true)
    (ht : ∀ a, t.head? = some a → p a = false) : (s ++ t).takeWhile p = s := by
  rw [List.takeWhile_append_of_pos hs]
  cases t with
  | nil => rw [List.takeWhile_nil, List.append_nil]
  | cons a t => rw [List.takeWhile_cons_of_neg (by simp [ht a rfl]), List.append_nil]

theorem dropWhile_append_of_head {s t : List α} (hs : ∀ a ∈ s, p a = true)
    (ht : ∀ a, t.head? = some a → p a = false) : (s ++ t).dropWhile p = t := by
  rw [List.dropWhile_append_of_pos hs]
  cases t with
  | nil => rfl
  | cons a t => exact List.dropWhile_cons_of_neg (by simp [ht a rfl])

end Ends

/-! ## Letters and digits -/

theorem toNat_of_isAlpha {c : Char} (h : c.isAlpha = true) :
    (65 ≤ c.toNat ∧ c.toNat ≤ 90) ∨ (97 ≤ c.toNat ∧ c.toNat ≤ 122) := by
  rcases Bool.or_eq_true_iff.1 h with hupper | hlower
  · exact .inl (of_decide_eq_true hupper)
  · obtain ⟨hlow, hhigh⟩ := Bool.and_eq_true_iff.1 hlower
    exact .inr ⟨of_decide_eq_true hlow, of_decide_eq_true hhigh⟩

theorem toNat_of_isDigit {c : Char} (h : c.isDigit = true) : 48 ≤ c.toNat ∧ c.toNat ≤ 57 := by
  obtain ⟨hlow, hhigh⟩ := Bool.and_eq_true_iff.1 h
  exact ⟨of_decide_eq_true hlow, of_decide_eq_true hhigh⟩

/-- Letters and digits are no blanks. -/
theorem isBlank_of_isAlphanum {c : Char} (h : c.isAlphanum = true) : isBlank c = false := by
  have range : (48 ≤ c.toNat ∧ c.toNat ≤ 57) ∨ (65 ≤ c.toNat ∧ c.toNat ≤ 122) := by
    rcases Bool.or_eq_true_iff.1 h with h | h
    · have hletter := toNat_of_isAlpha h
      omega
    · exact .inl (toNat_of_isDigit h)
  simp only [isBlank, Bool.or_eq_false_iff, Bool.and_eq_false_iff, decide_eq_false_iff_not,
    beq_eq_false_iff_ne]
  omega

theorem tight_of_isAlphanum {s : List Char} (h : ∀ c ∈ s, c.isAlphanum = true) : Tight s :=
  ⟨fun c hc => isBlank_of_isAlphanum (h c (List.mem_of_head? hc)),
    fun c hc => isBlank_of_isAlphanum (h c (List.mem_of_getLast? hc))⟩

/-! ## Blanks -/

/-- Blanks at the front are dropped. -/
theorem dropBlanks_append {blanks : List Char} (h : AllBlank blanks) (s : List Char) :
    dropBlanks (blanks ++ s) = dropBlanks s :=
  List.dropWhile_append_of_pos h

theorem dropBlanks_cons {c : Char} (h : isBlank c = false) (s : List Char) :
    dropBlanks (c :: s) = c :: s := by
  simp [dropBlanks, h]

/-- Without a blank at the front nothing is dropped there. -/
theorem dropBlanks_of_head {s : List Char} (h : ∀ c, s.head? = some c → isBlank c = false) :
    dropBlanks s = s :=
  dropWhile_append_of_head (s := []) nofun h

/-- What is dropped at the front are blanks. -/
theorem exists_eq_append_dropBlanks (s : List Char) :
    ∃ blanks, AllBlank blanks ∧ s = blanks ++ dropBlanks s :=
  ⟨s.takeWhile isBlank, fun _ hc => List.mem_takeWhile_imp hc, List.takeWhile_append_dropWhile.symm⟩

/-- Without a blank at the end nothing is dropped there. -/
theorem dropBlanksEnd_of_getLast {s : List Char}
    (h : ∀ c, s.getLast? = some c → isBlank c = false) : dropBlanksEnd s = s :=
  dropEndWhile_of_getLast h

/-- What is dropped at the end are blanks. -/
theorem exists_eq_dropBlanksEnd_append (s : List Char) :
    ∃ blanks, AllBlank blanks ∧ s = dropBlanksEnd s ++ blanks := by
  refine ⟨(s.reverse.takeWhile isBlank).reverse, ?_, ?_⟩
  · intro c hc
    exact List.mem_takeWhile_imp (List.mem_reverse.1 hc)
  · rw [dropBlanksEnd, dropEndWhile, ← List.reverse_append, List.takeWhile_append_dropWhile,
      List.reverse_reverse]

/-- Nothing is dropped at the end in front of a character that is no blank. -/
theorem dropBlanksEnd_append_cons {c : Char} (h : isBlank c = false) (s t : List Char) :
    dropBlanksEnd (s ++ c :: t) = s ++ c :: dropBlanksEnd t := by
  simp only [dropBlanksEnd, dropEndWhile, List.reverse_append, List.reverse_cons,
    List.append_assoc, List.singleton_append]
  rw [List.dropWhile_append]
  split
  · rename_i hempty
    have hnone : t.reverse.dropWhile isBlank = [] := by simpa using hempty
    simp [hnone, h]
  · simp

/-- Blanks at the end make no difference. -/
theorem trimChars_append {blanks : List Char} (h : AllBlank blanks) (s : List Char) :
    trimChars (s ++ blanks) = trimChars s := by
  rw [trimChars, trimChars, dropBlanks, List.dropWhile_append]
  split
  · rename_i hempty
    have hnone : s.dropWhile isBlank = [] := by simpa using hempty
    have hblank : blanks.dropWhile isBlank = [] := List.dropWhile_eq_nil_iff.2 h
    rw [hblank, dropBlanks, hnone]
  · exact dropEndWhile_append h _

/-- What is dropped at the end makes no difference. -/
theorem trimChars_dropBlanksEnd (s : List Char) : trimChars (dropBlanksEnd s) = trimChars s := by
  obtain ⟨blanks, hblanks, hs⟩ := exists_eq_dropBlanksEnd_append s
  have htrim := trimChars_append hblanks (dropBlanksEnd s)
  rw [← hs] at htrim
  exact htrim.symm

/-- A trimmed text is left as it is. -/
theorem trimChars_trimChars (s : List Char) : trimChars (trimChars s) = trimChars s := by
  have hfront : dropBlanks (dropBlanks s) = dropBlanks s := List.dropWhile_idempotent isBlank s
  rw [trimChars.eq_def s, trimChars_dropBlanksEnd, trimChars, hfront]

/-- Nothing is lost but the blanks around a text. -/
theorem trimChars_of_tight {s before after : List Char} (h : Tight s) (hbefore : AllBlank before)
    (hafter : AllBlank after) : trimChars (before ++ s ++ after) = s := by
  rw [trimChars_append hafter, trimChars, dropBlanks_append hbefore, dropBlanks_of_head h.1,
    dropBlanksEnd_of_getLast h.2]

/-! ## Beginnings -/

/-- What follows a beginning is found. -/
theorem after?_append (start s : List Char) : after? start (start ++ s) = some s := by
  induction start with
  | nil => cases s <;> rfl
  | cons c start ih => simp [after?, ih]

theorem eq_append_of_after? {start s rest : List Char} (h : after? start s = some rest) :
    s = start ++ rest := by
  induction start generalizing s with
  | nil => simpa [after?] using h
  | cons c start ih =>
      cases s with
      | nil => simp [after?] at h
      | cons d s =>
          simp only [after?] at h
          split at h
          · rename_i hcd
            rw [← eq_of_beq hcd, ih h, List.cons_append]
          · simp at h

/-- Nothing follows what is no beginning. -/
theorem after?_eq_none_iff {start s : List Char} : after? start s = none ↔ ¬ start <+: s := by
  constructor
  · rintro hnone ⟨rest, rfl⟩
    simp [after?_append] at hnone
  · intro hbegins
    rw [Option.eq_none_iff_forall_ne_some]
    intro rest hrest
    exact hbegins ⟨rest, (eq_append_of_after? hrest).symm⟩

end SqlppBench.Text
