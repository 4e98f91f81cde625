import Mathlib.Data.List.Infix
import SqlppBench.Proofs.Text.Trimming

/-! # Pieces of a text

A text is divided by every mark in it, or by the first one. A mark of several characters that does
not overlap itself (`Borderless`) is found where it is written, if it was not there before
(`splitAtFirst?_append`).
-/

namespace SqlppBench.Text

/-! ## Marks of one character -/

/-- A list without marks is one piece. -/
theorem piecesBy_of_forall {α : Type} {p : α → Bool} {s : List α} (h : ∀ a ∈ s, p a = false) :
    piecesBy p s = [s] := by
  induction s with
  | nil => rfl
  | cons a s ih =>
      rw [piecesBy, ih fun b hb => h b (List.mem_cons_of_mem a hb)]
      simp [h a (by simp)]

/-- There is a piece in front of the first mark. -/
theorem exists_piecesBy {α : Type} (p : α → Bool) (s : List α) :
    ∃ piece pieces, piecesBy p s = piece :: pieces := by
  induction s with
  | nil => exact ⟨_, _, rfl⟩
  | cons a s ih =>
      obtain ⟨piece, pieces, hpieces⟩ := ih
      rw [piecesBy, hpieces]
      by_cases ha : p a = true <;> simp [ha]

/-- What is in front of the first mark is the first piece. -/
theorem piecesBy_append_cons {α : Type} {p : α → Bool} {s : List α} {mark : α}
    (h : ∀ a ∈ s, p a = false) (hmark : p mark = true) (rest : List α) :
    piecesBy p (s ++ mark :: rest) = s :: piecesBy p rest := by
  induction s with
  | nil =>
      obtain ⟨piece, pieces, hpieces⟩ := exists_piecesBy p rest
      simp [piecesBy, hpieces, hmark]
  | cons a s ih =>
      rw [List.cons_append, piecesBy, ih fun b hb => h b (List.mem_cons_of_mem a hb)]
      simp [h a (by simp)]

/-- Pieces on the two sides of a mark. -/
theorem piecesBy_append_mark {α : Type} {p : α → Bool} {mark : α} (hmark : p mark = true)
    (s rest : List α) : piecesBy p (s ++ mark :: rest) = piecesBy p s ++ piecesBy p rest := by
  induction s with
  | nil =>
      obtain ⟨piece, pieces, hpieces⟩ := exists_piecesBy p rest
      simp [piecesBy, hpieces, hmark]
  | cons a s ih =>
      obtain ⟨piece, pieces, hpieces⟩ := exists_piecesBy p s
      rw [List.cons_append, piecesBy, ih, piecesBy, hpieces]
      by_cases ha : p a = true <;> simp [ha]

/-- The first piece is the beginning of the text, and the others are parts of it. -/
theorem prefix_and_infix_of_piecesBy {α : Type} {p : α → Bool} {s piece : List α}
    {pieces : List (List α)} (h : piecesBy p s = piece :: pieces) :
    piece <+: s ∧ ∀ other ∈ pieces, other <:+: s := by
  induction s generalizing piece pieces with
  | nil =>
      obtain ⟨rfl, rfl⟩ := List.cons.inj h
      exact ⟨List.prefix_rfl, by simp⟩
  | cons a s ih =>
      obtain ⟨first, others, hfirst⟩ := exists_piecesBy p s
      obtain ⟨hbegins, hwithin⟩ := ih hfirst
      rw [piecesBy, hfirst] at h
      dsimp only at h
      split at h
      · obtain ⟨rfl, rfl⟩ := List.cons.inj h
        refine ⟨List.nil_prefix, fun other hother => ?_⟩
        rcases List.mem_cons.1 hother with rfl | hother
        · exact List.infix_cons hbegins.isInfix
        · exact List.infix_cons (hwithin other hother)
      · obtain ⟨rfl, rfl⟩ := List.cons.inj h
        refine ⟨List.cons_prefix_cons.2 ⟨rfl, hbegins⟩, fun other hother => ?_⟩
        exact List.infix_cons (hwithin other hother)

/-- A piece is a part of the text. -/
theorem infix_of_mem_piecesBy {α : Type} {p : α → Bool} {s piece : List α}
    (h : piece ∈ piecesBy p s) : piece <:+: s := by
  obtain ⟨first, others, hfirst⟩ := exists_piecesBy p s
  obtain ⟨hbegins, hwithin⟩ := prefix_and_infix_of_piecesBy hfirst
  rw [hfirst] at h
  rcases List.mem_cons.1 h with rfl | hother
  · exact hbegins.isInfix
  · exact hwithin piece hother

/-- What stands between two marks is a piece, and those before it are parts of what is before. -/
theorem exists_piecesBy_of_between {α : Type} {p : α → Bool} {earlier piece later : List α}
    (hpiece : ∀ a ∈ piece, p a = false)
    (hearlier : earlier = [] ∨ ∃ s mark, earlier = s ++ [mark] ∧ p mark = true)
    (hlater : later = [] ∨ ∃ mark s, later = mark :: s ∧ p mark = true) :
    ∃ before others, piecesBy p (earlier ++ (piece ++ later)) = before ++ piece :: others ∧
      ∀ other ∈ before, other <:+: earlier := by
  obtain ⟨others, hothers⟩ : ∃ others, piecesBy p (piece ++ later) = piece :: others := by
    rcases hlater with rfl | ⟨mark, s, rfl, hmark⟩
    · exact ⟨[], by rw [List.append_nil, piecesBy_of_forall hpiece]⟩
    · exact ⟨_, piecesBy_append_cons hpiece hmark s⟩
  rcases hearlier with rfl | ⟨s, mark, rfl, hmark⟩
  · exact ⟨[], others, hothers, by simp⟩
  · refine ⟨piecesBy p s, others, ?_, fun other hother => ?_⟩
    · rw [List.append_assoc, List.singleton_append, piecesBy_append_mark hmark, hothers]
    · exact (infix_of_mem_piecesBy hother).trans (List.prefix_append s _).isInfix

/-- What is no mark is in a piece. -/
theorem exists_mem_piecesBy {α : Type} {p : α → Bool} {s : List α} {a : α} (h : a ∈ s)
    (ha : p a = false) : ∃ piece ∈ piecesBy p s, a ∈ piece := by
  induction s with
  | nil => cases h
  | cons b s ih =>
      obtain ⟨first, others, hpieces⟩ := exists_piecesBy p s
      rw [hpieces] at ih
      rw [piecesBy, hpieces]
      dsimp only
      rcases List.mem_cons.1 h with rfl | hmem
      · rw [if_neg (by simp [ha])]
        exact ⟨_, List.mem_cons_self, List.mem_cons_self⟩
      · obtain ⟨piece, hpiece, ha⟩ := ih hmem
        split
        · exact ⟨piece, List.mem_cons_of_mem _ hpiece, ha⟩
        · rcases List.mem_cons.1 hpiece with rfl | hpiece
          · exact ⟨_, List.mem_cons_self, List.mem_cons_of_mem b ha⟩
          · exact ⟨piece, List.mem_cons_of_mem _ hpiece, ha⟩

/-! ## Marks of several characters -/

/-- No proper part of the mark is both its beginning and its end. -/
def Borderless (mark : List Char) : Prop :=
  ∀ part, part <:+ mark → part <+: mark → part = [] ∨ part = mark

variable {mark s : List Char}

/-- A text without the mark is not split. -/
theorem splitAtFirst?_of_not_infix (h : ¬ mark <:+: s) : splitAtFirst? mark s = none := by
  have hnone : after? mark s = none := after?_eq_none_iff.2 fun hbegins => h hbegins.isInfix
  induction s with
  | nil => rw [splitAtFirst?, hnone]
  | cons c s ih =>
      have hrest : ¬ mark <:+: s := fun hwithin => h (List.infix_cons hwithin)
      have hnone' : after? mark s = none :=
        after?_eq_none_iff.2 fun hbegins => hrest hbegins.isInfix
      simp only [splitAtFirst?, hnone, ih hrest hnone', Option.map_none]

/-- Such a mark does not begin in front of where it is written. -/
theorem Borderless.not_prefix (hmark : Borderless mark) (h : ¬ mark <:+: s) (hs : s ≠ [])
    (rest : List Char) : ¬ mark <+: s ++ (mark ++ rest) := by
  intro hbegins
  rcases List.prefix_or_prefix_of_prefix hbegins (List.prefix_append s _) with hinside | hover
  · exact h hinside.isInfix
  · -- the mark would reach from the text into itself
    obtain ⟨part, hpart⟩ := hover
    have hinto : part <+: mark ++ rest := by
      rw [← hpart, List.prefix_append_right_inj] at hbegins
      rwa [hpart] at hbegins
    have hlength : s.length + part.length = mark.length := by rw [← List.length_append, hpart]
    have hfits : part <+: mark :=
      List.prefix_of_prefix_length_le hinto (List.prefix_append mark rest) (by omega)
    rcases hmark part ⟨s, hpart⟩ hfits with rfl | rfl
    · rw [List.append_nil] at hpart
      exact h (hpart ▸ List.infix_rfl)
    · exact hs (List.length_eq_zero_iff.1 (by omega))

/-- A text is split at a mark that is not in front of it. -/
theorem splitAtFirst?_append (hmark : Borderless mark) (h : ¬ mark <:+: s) (rest : List Char) :
    splitAtFirst? mark (s ++ (mark ++ rest)) = some (s, rest) := by
  induction s with
  | nil =>
      have hafter := after?_append mark rest
      rw [List.nil_append, splitAtFirst?.eq_def, hafter]
  | cons c s ih =>
      have hrest : ¬ mark <:+: s := fun hwithin => h (List.infix_cons hwithin)
      have hnone : after? mark (c :: (s ++ (mark ++ rest))) = none :=
        after?_eq_none_iff.2 (hmark.not_prefix h (by simp) rest)
      rw [List.cons_append, splitAtFirst?, hnone]
      simp only [ih hrest, Option.map_some]

/-- What a text is split into. -/
theorem eq_append_of_splitAtFirst? {front rest : List Char}
    (h : splitAtFirst? mark s = some (front, rest)) : s = front ++ (mark ++ rest) := by
  induction s generalizing front with
  | nil =>
      rw [splitAtFirst?.eq_def] at h
      split at h
      · rename_i hafter
        cases h
        rw [List.nil_append]
        exact eq_append_of_after? hafter
      · cases h
  | cons c s ih =>
      rw [splitAtFirst?.eq_def] at h
      split at h
      · rename_i hafter
        cases h
        rw [List.nil_append]
        exact eq_append_of_after? hafter
      · obtain ⟨⟨front', rest'⟩, hsplit, heq⟩ := Option.map_eq_some_iff.1 h
        cases heq
        rw [ih hsplit, List.cons_append]

theorem borderless_singleton (c : Char) : Borderless [c] := by
  intro part hsuffix hbegins
  rcases List.suffix_cons_iff.1 hsuffix with rfl | hnil
  · exact .inr rfl
  · exact .inl (List.suffix_nil.1 hnil)

/-- A text is split at a character that is not in front. -/
theorem splitAtFirst?_append_cons {c : Char} (h : c ∉ s) (rest : List Char) :
    splitAtFirst? [c] (s ++ c :: rest) = some (s, rest) := by
  have hnot : ¬ [c] <:+: s := fun hwithin => h (hwithin.subset (List.mem_singleton_self c))
  exact splitAtFirst?_append (borderless_singleton c) hnot rest

end SqlppBench.Text
