import Mathlib.Data.List.Nodup
import SqlppBench.Environment.Placeholder
import SqlppBench.Proofs.Text.Trimming

/-! # Placeholders

What a placeholder is can be said without reading one: braces, blanks, `env.`, the name of a
variable, blanks and braces. A text then has one cut at its placeholders, where each mark is the
first placeholder behind the mark before it. Filling a text in is putting values in place of the
marks of its cut (`placeholders_are_filled`). The values themselves are never cut.
-/

namespace SqlppBench

open Text

namespace Placeholder

/-- Whether these are the characters of a variable's name: a letter or an underscore, and then
letters, digits and underscores, all of ASCII. -/
def IsVariable (name : List Char) : Prop :=
  ∃ c rest, name = c :: rest ∧ (c.isAlpha = true ∨ c = '_') ∧
    ∀ d ∈ rest, d.isAlphanum = true ∨ d = '_'

/-- How a placeholder for a variable may be written. -/
structure IsWritten (name : String) (written : List Char) : Prop where
  isVariable : IsVariable name.toList
  braces : ∃ before after, AllBlank before ∧ AllBlank after ∧ written =
    "\x7b\x7b".toList ++ before ++ "env.".toList ++ name.toList ++ after ++ "\x7d\x7d".toList

/-- A placeholder somewhere in a text, between what is in front of it and what is behind it. -/
structure Occurs (s front : List Char) (name : String) (written back : List Char) : Prop where
  split : s = front ++ written ++ back
  isWritten : IsWritten name written

/-! ## Names -/

theorem isNameChar_iff {c : Char} : isNameChar c = true ↔ c.isAlphanum = true ∨ c = '_' := by
  simp only [isNameChar, Bool.or_eq_true, beq_iff_eq]

/-- A character of a name is no blank. -/
theorem isBlank_of_isNameChar {c : Char} (h : isNameChar c = true) : isBlank c = false := by
  rcases isNameChar_iff.1 h with h | rfl
  · exact isBlank_of_isAlphanum h
  · rfl

/-- A name begins with what is no digit. -/
theorem isName_eq_true_iff {name : List Char} : isName name = true ↔ IsVariable name := by
  constructor
  · intro h
    simp only [isName, Bool.and_eq_true, List.all_eq_true, Option.any_eq_true, Bool.not_eq_true',
      isNameChar_iff] at h
    obtain ⟨hall, c, hc, hdigit⟩ := h
    obtain ⟨rest, rfl⟩ := List.head?_eq_some_iff.1 hc
    refine ⟨c, rest, rfl, ?_, fun d hd => hall d (List.mem_cons_of_mem c hd)⟩
    have hfirst := hall c List.mem_cons_self
    rwa [Char.isAlphanum, hdigit, Bool.or_false] at hfirst
  · rintro ⟨c, rest, rfl, hfirst, hrest⟩
    have hdigit : c.isDigit = false := by
      rcases hfirst with hfirst | rfl
      · apply Bool.eq_false_iff.2
        intro hdigit
        have hletter := toNat_of_isAlpha hfirst
        have hnumber := toNat_of_isDigit hdigit
        omega
      · rfl
    have hname : isNameChar c = true := by
      rw [isNameChar_iff, Char.isAlphanum, hdigit, Bool.or_false]
      exact hfirst
    simp only [isName, List.all_cons, List.head?_cons, Option.any_some, hname, hdigit,
      Bool.not_false, Bool.and_true, Bool.true_and, List.all_eq_true, isNameChar_iff]
    exact hrest

/-- All characters of a name are such characters. -/
theorem isNameChar_of_isVariable {name : List Char} (h : IsVariable name) :
    ∀ c ∈ name, isNameChar c = true := by
  have hname := isName_eq_true_iff.2 h
  rw [isName, Bool.and_eq_true, List.all_eq_true] at hname
  exact hname.1

/-! ## Reading -/

/-- A placeholder is read, whatever is behind it. -/
theorem read?_written {name : String} {written : List Char} (h : IsWritten name written)
    (back : List Char) : read? (written ++ back) = some (name.toList, back) := by
  obtain ⟨before, after, hbefore, hafter, rfl⟩ := h.braces
  have hchars := isNameChar_of_isVariable h.isVariable
  -- What ends the name is a blank or a brace, so the whole name is taken and nothing else.
  have hstop (c : Char) :
      (after ++ ("\x7d\x7d".toList ++ back)).head? = some c → isNameChar c = false := by
    intro hc
    cases after with
    | nil =>
        obtain rfl : '\x7d' = c := Option.some.inj hc
        rfl
    | cons d after =>
        obtain rfl : d = c := Option.some.inj hc
        apply Bool.eq_false_iff.2
        intro hname
        have hblank := hafter d List.mem_cons_self
        rw [isBlank_of_isNameChar hname] at hblank
        exact Bool.noConfusion hblank
  have htake : (name.toList ++ (after ++ ("\x7d\x7d".toList ++ back))).takeWhile isNameChar =
      name.toList :=
    takeWhile_append_of_head hchars hstop
  have hdrop : (name.toList ++ (after ++ ("\x7d\x7d".toList ++ back))).dropWhile isNameChar =
      after ++ ("\x7d\x7d".toList ++ back) :=
    dropWhile_append_of_head hchars hstop
  have henv (s : List Char) : dropBlanks ("env.".toList ++ s) = "env.".toList ++ s :=
    dropBlanks_cons rfl _
  have hbraces : dropBlanks ("\x7d\x7d".toList ++ back) = "\x7d\x7d".toList ++ back :=
    dropBlanks_cons rfl _
  simp only [List.append_assoc, read?, Option.bind_eq_bind, after?_append, Option.bind_some,
    dropBlanks_append hbefore, henv, htake, hdrop, dropBlanks_append hafter, hbraces,
    isName_eq_true_iff.2 h.isVariable, if_true]

/-- What is read is a placeholder. -/
theorem exists_written_of_read? {s name back : List Char} (h : read? s = some (name, back)) :
    ∃ written, s = written ++ back ∧ IsWritten (String.ofList name) written := by
  simp only [read?, Option.bind_eq_bind, Option.bind_eq_some_iff] at h
  obtain ⟨s₁, hopen, s₂, henv, s₃, hclose, h⟩ := h
  split at h
  · rename_i hname
    rw [Option.some.injEq, Prod.mk.injEq] at h
    obtain ⟨rfl, rfl⟩ := h
    obtain ⟨before, hbefore, hs₁⟩ := exists_eq_append_dropBlanks s₁
    obtain ⟨after, hafter, hs₂⟩ := exists_eq_append_dropBlanks (s₂.dropWhile isNameChar)
    have hsplit := List.takeWhile_append_dropWhile (p := isNameChar) (l := s₂)
    rw [hs₂, eq_append_of_after? hclose] at hsplit
    rw [eq_append_of_after? henv, ← hsplit] at hs₁
    refine ⟨"\x7b\x7b".toList ++ before ++ "env.".toList ++ s₂.takeWhile isNameChar ++ after ++
      "\x7d\x7d".toList, ?_, ⟨?_, before, after, hbefore, hafter, ?_⟩⟩
    · rw [eq_append_of_after? hopen, hs₁]
      simp only [List.append_assoc]
    · rw [String.toList_ofList]
      exact isName_eq_true_iff.1 hname
    · rw [String.toList_ofList (l := s₂.takeWhile isNameChar)]
  · simp at h

/-- A placeholder begins here if and only if one is read. -/
theorem read?_eq_none_iff {s : List Char} :
    read? s = none ↔ ∀ name written back, ¬ Occurs s [] name written back := by
  constructor
  · intro hnone name written back occurs
    rw [occurs.split, List.nil_append, read?_written occurs.isWritten] at hnone
    exact absurd hnone (Option.some_ne_none _)
  · intro hnone
    rw [Option.eq_none_iff_forall_ne_some]
    rintro ⟨name, back⟩ hread
    obtain ⟨written, hsplit, isWritten⟩ := exists_written_of_read? hread
    exact hnone (String.ofList name) written back ⟨hsplit, isWritten⟩

/-- At one place there is one placeholder at most. -/
theorem Occurs.eq_of_front {s front : List Char} {name name' : String}
    {written written' back back' : List Char} (h : Occurs s front name written back)
    (h' : Occurs s front name' written' back') :
    name = name' ∧ written = written' ∧ back = back' := by
  have hsplit := h.split.symm.trans h'.split
  rw [List.append_assoc, List.append_assoc, List.append_cancel_left_eq] at hsplit
  have hread := read?_written h.isWritten back
  rw [hsplit, read?_written h'.isWritten back', Option.some.injEq, Prod.mk.injEq] at hread
  obtain ⟨hname, rfl⟩ := hread
  exact ⟨String.toList_injective hname.symm, List.append_cancel_right hsplit, rfl⟩

/-- Behind a character there are the placeholders that do not begin with it. -/
theorem Occurs.tail {c d : Char} {s front : List Char} {name : String} {written back : List Char}
    (h : Occurs (c :: s) (d :: front) name written back) :
    c = d ∧ Occurs s front name written back := by
  obtain ⟨rfl, hs⟩ := List.cons.inj h.split
  exact ⟨rfl, hs, h.isWritten⟩

theorem Occurs.cons {s front : List Char} {name : String} {written back : List Char}
    (h : Occurs s front name written back) (c : Char) :
    Occurs (c :: s) (c :: front) name written back :=
  ⟨congrArg (c :: ·) h.split, h.isWritten⟩

end Placeholder

open Placeholder

/-! ## Cuts -/

/-- A text in parts: a placeholder with the text in front of it, and the parts behind it, down to a
last text. -/
inductive Cut where
  | last (rest : List Char)
  | mark (front : List Char) (name : String) (written : List Char) (behind : Cut)

namespace Cut

/-- The text of all parts. -/
def text : Cut → List Char
  | .last rest => rest
  | .mark front _ written behind => front ++ written ++ behind.text

/-- The names in the placeholders. -/
def names : Cut → List String
  | .last _ => []
  | .mark _ name _ behind => name :: behind.names

/-- The text with the values in place of the placeholders. One without a value is left as it is
written. -/
def filled (env : Variables) : Cut → List Char
  | .last rest => rest
  | .mark front name written behind =>
    front ++ ((env.get? name).elim written String.toList ++ behind.filled env)

/-- A character in front of a cut text. -/
def push (c : Char) : Cut → Cut
  | .last rest => .last (c :: rest)
  | .mark front name written behind => .mark (c :: front) name written behind

variable (env : Variables) (c : Char) (cut : Cut)

theorem filled_of_names {cut : Cut} (h : cut.names = []) : cut.filled env = cut.text := by
  cases cut with
  | last => rfl
  | mark => exact absurd h (List.cons_ne_nil _ _)

@[simp] theorem names_push : (cut.push c).names = cut.names := by
  cases cut <;> rfl

@[simp] theorem filled_push : (cut.push c).filled env = c :: cut.filled env := by
  cases cut <;> rfl

end Cut

/-- A text is cut at the first placeholder in it, and what is behind that is cut in the same way,
until there is no placeholder left. -/
inductive IsCut : List Char → Cut → Prop
  | last {rest : List Char}
      (none : ∀ front name written back, ¬ Occurs rest front name written back) :
      IsCut rest (.last rest)
  | mark {s front : List Char} {name : String} {written back : List Char} {behind : Cut}
      (occurs : Occurs s front name written back)
      (first : ∀ front' name' written' back', Occurs s front' name' written' back' →
        front.length ≤ front'.length)
      (rest : IsCut back behind) : IsCut s (.mark front name written behind)

namespace IsCut

variable {s : List Char} {cut cut' : Cut}

/-- Nothing is lost. -/
theorem text_eq (h : IsCut s cut) : cut.text = s := by
  induction h with
  | last => rfl
  | mark occurs _ _ ih => rw [Cut.text, ih, occurs.split]

/-- A text without placeholders is in one part. -/
theorem names_eq_nil_iff (h : IsCut s cut) :
    cut.names = [] ↔ ∀ front name written back, ¬ Occurs s front name written back := by
  cases h with
  | last none => exact iff_of_true rfl none
  | mark occurs => exact iff_of_false (List.cons_ne_nil _ _) fun none => none _ _ _ _ occurs

/-- The place of the first placeholder decides which one it is, so there is one cut only. -/
theorem unique (h : IsCut s cut) (h' : IsCut s cut') : cut = cut' := by
  induction h generalizing cut' with
  | last none =>
      cases h' with
      | last => rfl
      | mark occurs => exact absurd occurs (none _ _ _ _)
  | mark occurs first _ ih =>
      cases h' with
      | last none => exact absurd occurs (none _ _ _ _)
      | mark occurs' first' rest' =>
          have hlength := Nat.le_antisymm (first _ _ _ _ occurs') (first' _ _ _ _ occurs)
          have hsplit := occurs.split.symm.trans occurs'.split
          rw [List.append_assoc, List.append_assoc] at hsplit
          obtain rfl := List.append_inj_left hsplit hlength
          obtain ⟨rfl, rfl, rfl⟩ := occurs.eq_of_front occurs'
          rw [ih rest']

/-- Where no placeholder begins with a character, the first placeholder is behind it. -/
theorem push {c : Char} (hnone : ∀ name written back, ¬ Occurs (c :: s) [] name written back)
    (h : IsCut s cut) : IsCut (c :: s) (cut.push c) := by
  cases h with
  | last none =>
      refine .last fun front name written back occurs => ?_
      cases front with
      | nil => exact hnone _ _ _ occurs
      | cons d front => exact none _ _ _ _ occurs.tail.2
  | mark occurs first rest =>
      refine .mark (occurs.cons c) (fun front' name' written' back' occurs' => ?_) rest
      cases front' with
      | nil => exact absurd occurs' (hnone _ _ _)
      | cons d front' => exact Nat.succ_le_succ (first _ _ _ _ occurs'.tail.2)

end IsCut

/-! ## Pieces -/

/-- The cut that the pieces make. -/
def Cut.ofPieces : List Piece → Cut
  | [] => .last []
  | .char c :: ps => (Cut.ofPieces ps).push c
  | .variable name written :: ps => .mark [] name written (Cut.ofPieces ps)

theorem Cut.names_ofPieces (ps : List Piece) : (ofPieces ps).names = ps.filterMap Piece.name? := by
  induction ps using ofPieces.induct with
  | case1 => rfl
  | case2 c ps ih => rwa [ofPieces, names_push]
  | case3 name written ps ih => rw [ofPieces, names, ih, List.filterMap_cons, Piece.name?]

theorem Cut.filled_ofPieces (env : Variables) (ps : List Piece) :
    (ofPieces ps).filled env = ps.flatMap (Piece.filled env) := by
  induction ps using ofPieces.induct with
  | case1 => rfl
  | case2 c ps ih =>
      rw [ofPieces, filled_push, ih]
      rfl
  | case3 name written ps ih =>
      have hfilled : Piece.filled env (.variable name written) =
          (env.get? name).elim written String.toList := by
        simp only [Piece.filled, Piece.name?, Option.bind_some]
        cases env.get? name <;> rfl
      rw [ofPieces, filled, ih, List.flatMap_cons, hfilled, List.nil_append]

theorem pieces_of_read? {s name back : List Char} (h : read? s = some (name, back)) :
    pieces s =
      .variable (String.ofList name) (s.take (s.length - back.length)) :: pieces back := by
  rw [pieces]
  split
  · rename_i found
    rw [h, Option.some.injEq, Prod.mk.injEq] at found
    obtain ⟨rfl, rfl⟩ := found
    rfl
  · rename_i found
    exact absurd (h.symm.trans found) (Option.some_ne_none _)

theorem pieces_cons {c : Char} {s : List Char} (h : read? (c :: s) = none) :
    pieces (c :: s) = .char c :: pieces s := by
  rw [pieces]
  split
  · rename_i found
    exact absurd (found.symm.trans h) (Option.some_ne_none _)
  · rfl

/-- The pieces of a text are its cut. -/
theorem isCut_pieces (s : List Char) : IsCut s (Cut.ofPieces (pieces s)) := by
  induction s using pieces.induct with
  | case1 s name back hread _ ih =>
      obtain ⟨written, rfl, isWritten⟩ := exists_written_of_read? hread
      have htake : (written ++ back).take ((written ++ back).length - back.length) = written := by
        rw [List.length_append, Nat.add_sub_cancel, List.take_left]
      rw [pieces_of_read? hread, Cut.ofPieces, htake]
      exact .mark ⟨rfl, isWritten⟩ (fun _ _ _ _ _ => Nat.zero_le _) ih
  | case2 hread =>
      rw [pieces.eq_def]
      refine .last fun front name written back occurs => ?_
      obtain ⟨hfront, -⟩ := List.append_eq_nil_iff.1 occurs.split.symm
      obtain ⟨rfl, -⟩ := List.append_eq_nil_iff.1 hfront
      exact read?_eq_none_iff.1 hread name written back occurs
  | case3 c s hread ih =>
      rw [pieces_cons hread]
      exact ih.push (read?_eq_none_iff.1 hread)

/-! ## Missing names -/

/-- The names in a list, each once, in the order in which they come first. -/
structure ListsOnce (names all : List String) : Prop where
  nodup : names.Nodup
  mem_iff : ∀ name, name ∈ names ↔ name ∈ all
  inOrder : names.Pairwise fun a b => all.idxOf a < all.idxOf b

/-- One more name in the list is listed last, if it is new. -/
theorem ListsOnce.addNew {names all : List String} (h : ListsOnce names all) (name : String) :
    ListsOnce (addNew names name) (all ++ [name]) := by
  have hmem (a : String) : a ∈ names → a ∈ all := (h.mem_iff a).1
  have inOrder : names.Pairwise fun a b => (all ++ [name]).idxOf a < (all ++ [name]).idxOf b := by
    refine h.inOrder.imp_of_mem fun {a b} ha hb hlt => ?_
    rw [List.idxOf_append_of_mem (hmem a ha), List.idxOf_append_of_mem (hmem b hb)]
    exact hlt
  by_cases hold : name ∈ names
  · rw [SqlppBench.addNew, if_pos (List.contains_iff_mem.2 hold)]
    refine ⟨h.nodup, fun a => ?_, inOrder⟩
    rw [List.mem_append, List.mem_singleton, h.mem_iff]
    refine ⟨Or.inl, fun ha => ha.elim id ?_⟩
    rintro rfl
    exact hmem a hold
  · rw [SqlppBench.addNew, if_neg (mt List.contains_iff_mem.1 hold)]
    refine ⟨?_, fun a => ?_, ?_⟩
    · rw [← List.concat_eq_append]
      exact h.nodup.concat hold
    · rw [List.mem_append, List.mem_append, h.mem_iff]
    · refine List.pairwise_append.2 ⟨inOrder, List.pairwise_singleton _ _, fun a ha b hb => ?_⟩
      obtain rfl := List.mem_singleton.1 hb
      rw [List.idxOf_append_of_mem (hmem a ha),
        List.idxOf_append_of_notMem (mt (h.mem_iff b).2 hold)]
      exact Nat.lt_add_right _ (List.idxOf_lt_length_of_mem (hmem a ha))

theorem listsOnce_foldl_addNew (all : List String) : ListsOnce (all.foldl addNew []) all := by
  induction all using List.reverseRecOn with
  | nil => exact ⟨List.nodup_nil, fun _ => Iff.rfl, List.Pairwise.nil⟩
  | append_singleton all name ih =>
      rw [List.foldl_append]
      exact ih.addNew name

/-! ## Filling in -/

section Filling

variable {env : Variables} {s : String} {cut : Cut}

theorem fillAll_of_nothing_missing (h : missing env s = []) : fillAll env s = .ok (fill env s) := by
  rw [fillAll, h]

theorem fillAll_of_missing (h : missing env s ≠ []) : fillAll env s =
    .error (.config ("Environment variable not found: " ++ ", ".intercalate (missing env s))) := by
  rw [fillAll]
  split
  · contradiction
  · rfl

theorem hasPlaceholders_iff (h : IsCut s.toList cut) :
    hasPlaceholders s = true ↔ cut.names ≠ [] := by
  obtain rfl := h.unique (isCut_pieces s.toList)
  rw [hasPlaceholders, Cut.names_ofPieces, ne_eq, List.filterMap_eq_nil_iff, List.any_eq_true]
  push Not
  simp only [Option.isSome_iff_ne_none]

/-- Values are put in place of the marks. -/
theorem fill_eq (h : IsCut s.toList cut) : fill env s = String.ofList (cut.filled env) := by
  obtain rfl := h.unique (isCut_pieces s.toList)
  rw [fill, Cut.filled_ofPieces]

/-- What is missing are the names without a value. -/
theorem listsOnce_missing (h : IsCut s.toList cut) :
    ListsOnce (missing env s) (cut.names.filter fun name => (env.get? name).isNone) := by
  obtain rfl := h.unique (isCut_pieces s.toList)
  rw [missing, Cut.names_ofPieces]
  exact listsOnce_foldl_addNew _

theorem missing_eq_nil_iff (h : IsCut s.toList cut) :
    missing env s = [] ↔ ∀ name ∈ cut.names, env.get? name ≠ none := by
  simp only [List.eq_nil_iff_forall_not_mem, (listsOnce_missing h).mem_iff, List.mem_filter,
    not_and, Option.isNone_iff_eq_none, ne_eq]

end Filling

/-- What is said of a text with a cut when values are put in. -/
structure FilledAlong (env : Variables) (s : String) (cut : Cut) : Prop where
  text : cut.text = s.toList
  marked : hasPlaceholders s = true ↔
    ∃ front name written back, Occurs s.toList front name written back
  /-- Every text can be filled in, and the values are not looked at. -/
  filled : fill env s = String.ofList (cut.filled env)
  /-- The same text comes out where all variables must have values, if they have. -/
  filledIfComplete : ∀ t, fillAll env s = .ok t ↔
    (∀ name ∈ cut.names, env.get? name ≠ none) ∧ t = String.ofList (cut.filled env)
  complains : ∀ name ∈ cut.names, env.get? name = none → ∃ names,
    ListsOnce names (cut.names.filter fun name => (env.get? name).isNone) ∧ fillAll env s =
      .error (.config ("Environment variable not found: " ++ ", ".intercalate names))
  untouched : hasPlaceholders s = false → fill env s = s ∧ fillAll env s = .ok s

/-- Every text has one cut at its placeholders, and filling it in is putting values in place of the
marks of this cut. -/
theorem placeholders_are_filled (env : Variables) (s : String) :
    ∃ cut, IsCut s.toList cut ∧ (∀ other, IsCut s.toList other → other = cut) ∧
      FilledAlong env s cut := by
  have isCut := isCut_pieces s.toList
  refine ⟨_, isCut, fun other h => h.unique isCut, isCut.text_eq, ?_, fill_eq isCut, fun t => ?_,
    fun name hname hnone => ?_, fun h => ?_⟩
  · rw [hasPlaceholders_iff isCut, ne_eq, isCut.names_eq_nil_iff]
    push Not
    rfl
  · rw [← missing_eq_nil_iff isCut, ← fill_eq isCut]
    by_cases h : missing env s = []
    · rw [fillAll_of_nothing_missing h, Except.ok.injEq, eq_comm]
      exact (and_iff_right h).symm
    · rw [fillAll_of_missing h]
      exact iff_of_false nofun fun ht => h ht.1
  · refine ⟨missing env s, listsOnce_missing isCut, fillAll_of_missing fun h => ?_⟩
    exact (missing_eq_nil_iff isCut).1 h name hname hnone
  · have nothing : (Cut.ofPieces (pieces s.toList)).names = [] := by
      by_contra hsome
      rw [(hasPlaceholders_iff isCut).2 hsome] at h
      exact Bool.noConfusion h
    have same : fill env s = s := by
      rw [fill_eq isCut, Cut.filled_of_names env nothing, isCut.text_eq, String.ofList_toList]
    have complete : missing env s = [] := by
      rw [missing_eq_nil_iff isCut, nothing]
      exact nofun
    exact ⟨same, (fillAll_of_nothing_missing complete).trans (congrArg _ same)⟩

end SqlppBench
