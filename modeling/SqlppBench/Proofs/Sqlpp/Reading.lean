import SqlppBench.Sqlpp.Literal

/-! # Reading string literals

A reader of SQL++ tells the string literals of a text from what is outside of them. A key that was
quoted is read back as that key and as nothing else (`reads_quoteLiteral`), whatever it is, because
every quote and every backslash within is one of a pair.
-/

namespace SqlppBench.Sqlpp

/-- What a reader finds in a text. -/
structure Reading where
  /-- The characters outside of string literals, with a gap for every literal. -/
  outside : List (Option Char)
  /-- What the literals stand for, in their order. -/
  literals : List String
deriving DecidableEq, Repr

namespace Reading

/-- Nothing. -/
def empty : Reading := ⟨[], []⟩

/-- Characters outside of literals. -/
def plain (s : List Char) : Reading := ⟨s.map some, []⟩

/-- A literal. -/
def literal (value : String) : Reading := ⟨[none], [value]⟩

/-- One reading and then another. -/
def append (r r' : Reading) : Reading :=
  ⟨r.outside ++ r'.outside, r.literals ++ r'.literals⟩

instance : Append Reading := ⟨append⟩

@[simp] theorem outside_append (r r' : Reading) :
    (r ++ r').outside = r.outside ++ r'.outside := rfl

@[simp] theorem literals_append (r r' : Reading) :
    (r ++ r').literals = r.literals ++ r'.literals := rfl

theorem eq_of_parts {r r' : Reading} (houtside : r.outside = r'.outside)
    (hliterals : r.literals = r'.literals) : r = r' := by
  cases r
  cases r'
  simp_all

@[simp] theorem empty_append (r : Reading) : empty ++ r = r := rfl

@[simp] theorem append_empty (r : Reading) : r ++ empty = r :=
  eq_of_parts (List.append_nil _) (List.append_nil _)

theorem append_assoc (r r' r'' : Reading) : r ++ r' ++ r'' = r ++ (r' ++ r'') :=
  eq_of_parts (List.append_assoc _ _ _) (List.append_assoc _ _ _)

@[simp] theorem plain_nil : plain [] = empty := rfl

theorem plain_append (s t : List Char) : plain (s ++ t) = plain s ++ plain t :=
  eq_of_parts List.map_append rfl

theorem plain_cons (c : Char) (s : List Char) : plain (c :: s) = plain [c] ++ plain s :=
  plain_append [c] s

end Reading

/-- Where a reader stands: outside of literals, in a literal of which it has read this much, or in
a part between double quotes. -/
inductive Place where
  | outside
  | literal (value : List Char)
  | unit
deriving DecidableEq, Repr

/-- Reads a text from a place on. In a literal a doubled backslash stands for one backslash and a
doubled quote for one quote; a lone quote closes it. A text that ends within a literal or between
double quotes cannot be read. -/
def readFrom : Place → List Char → Option Reading
  | .outside, [] => some .empty
  | .outside, c :: s =>
    if c = '\x27' then readFrom (.literal []) s
    else (readFrom (if c = '"' then .unit else .outside) s).map (.plain [c] ++ ·)
  | .unit, [] => none
  | .unit, c :: s =>
    (readFrom (if c = '"' then .outside else .unit) s).map (.plain [c] ++ ·)
  | .literal _, [] => none
  | .literal value, '\x27' :: '\x27' :: s => readFrom (.literal (value ++ ['\x27'])) s
  | .literal value, '\\' :: '\\' :: s => readFrom (.literal (value ++ ['\\'])) s
  | .literal value, '\x27' :: s =>
    (readFrom .outside s).map (.literal (String.ofList value) ++ ·)
  | .literal _, '\\' :: _ => none
  | .literal value, c :: s => readFrom (.literal (value ++ [c])) s

/-- Reads a text. -/
def read? (s : String) : Option Reading :=
  readFrom .outside s.toList

/-! ## Parts of a text -/

/-- A text that reads alike wherever it stands outside of literals, unless a quote follows. -/
def Reads (s : String) (r : Reading) : Prop :=
  ∀ rest : List Char, rest.head? ≠ some '\x27' →
    readFrom .outside (s.toList ++ rest) = (readFrom .outside rest).map (r ++ ·)

/-- A text without literals, which may stand in front of one. -/
def IsPlain (s : String) : Prop :=
  ∀ rest : List Char,
    readFrom .outside (s.toList ++ rest) = (readFrom .outside rest).map (.plain s.toList ++ ·)

variable {s t : String} {r r' : Reading}

/-- A whole text reads as what it reads wherever it stands. -/
theorem Reads.read? (h : Reads s r) : read? s = some r := by
  have hall := h [] (by simp)
  simpa [Sqlpp.read?, readFrom] using hall

theorem IsPlain.reads (h : IsPlain s) : Reads s (.plain s.toList) :=
  fun rest _ => h rest

/-- Parts are read one after the other, unless a quote begins the second. -/
theorem Reads.append (hs : Reads s r) (ht : Reads t r') (hquote : t.toList.head? ≠ some '\x27') :
    Reads (s ++ t) (r ++ r') := by
  intro rest hrest
  have hnext : (t.toList ++ rest).head? ≠ some '\x27' := by
    cases htl : t.toList with
    | nil => simpa using hrest
    | cons c u => simpa [htl] using hquote
  rw [String.toList_append, List.append_assoc, hs _ hnext, ht _ hrest, Option.map_map]
  simp [Function.comp_def, Reading.append_assoc]

/-- A plain part may stand in front of anything. -/
theorem IsPlain.append_reads (hs : IsPlain s) (ht : Reads t r) :
    Reads (s ++ t) (.plain s.toList ++ r) := by
  intro rest hrest
  rw [String.toList_append, List.append_assoc, hs, ht _ hrest, Option.map_map]
  simp [Function.comp_def, Reading.append_assoc]

theorem IsPlain.append (hs : IsPlain s) (ht : IsPlain t) : IsPlain (s ++ t) := by
  intro rest
  rw [String.toList_append, List.append_assoc, hs, ht, Option.map_map, Reading.plain_append]
  simp [Function.comp_def, Reading.append_assoc]

/-- A text without quotes of either kind is plain. -/
theorem isPlain_of_no_quotes (h : ∀ c ∈ s.toList, c ≠ '\x27' ∧ c ≠ '"') : IsPlain s := by
  intro rest
  generalize s.toList = chars at h
  induction chars with
  | nil => simp
  | cons c chars ih =>
      obtain ⟨hsingle, hdouble⟩ := h c (by simp)
      have others := ih fun d hd => h d (List.mem_cons_of_mem c hd)
      rw [List.cons_append, readFrom, if_neg hsingle, if_neg hdouble, others, Option.map_map,
        Reading.plain_cons c chars]
      simp [Function.comp_def, Reading.append_assoc]

/-- A text that is checked to have no quotes is plain. -/
theorem isPlain_of_all (h : (s.toList.all fun c => c != '\x27' && c != '"') = true) :
    IsPlain s := by
  refine isPlain_of_no_quotes fun c hc => ?_
  have hchecked := List.all_eq_true.1 h c hc
  rw [Bool.and_eq_true, bne_iff_ne, bne_iff_ne] at hchecked
  exact hchecked

/-- A text of characters of a kind that no quote is of is plain. -/
theorem isPlain_of_forall {p : Char → Prop} (hsingle : ¬ p '\x27') (hdouble : ¬ p '"')
    (h : ∀ c ∈ s.toList, p c) : IsPlain s := by
  refine isPlain_of_no_quotes fun c hc => ⟨?_, ?_⟩
  · rintro rfl
    exact hsingle (h _ hc)
  · rintro rfl
    exact hdouble (h _ hc)

/-- Within double quotes everything is skipped up to the closing one. -/
theorem readFrom_unit {chars : List Char} (h : ∀ c ∈ chars, c ≠ '"') (rest : List Char) :
    readFrom .unit (chars ++ '"' :: rest) =
      (readFrom .outside rest).map (.plain (chars ++ ['"']) ++ ·) := by
  induction chars with
  | nil => simp [readFrom]
  | cons c chars ih =>
      have others := ih fun d hd => h d (List.mem_cons_of_mem c hd)
      rw [List.cons_append, readFrom, if_neg (h c (by simp)), others, Option.map_map,
        List.cons_append, Reading.plain_cons c (chars ++ ['"'])]
      simp [Function.comp_def, Reading.append_assoc]

/-- A part between double quotes is plain, whatever single quotes it holds. -/
theorem isPlain_unit {chars : List Char} (h : ∀ c ∈ chars, c ≠ '"') :
    IsPlain (String.ofList ('"' :: chars ++ ['"'])) := by
  intro rest
  rw [String.toList_ofList]
  simp only [List.cons_append, List.append_assoc, List.nil_append]
  rw [readFrom, if_neg (by decide), if_pos rfl, readFrom_unit h, Option.map_map,
    Reading.plain_cons '"' (chars ++ ['"'])]
  simp [Function.comp_def, Reading.append_assoc]

/-! ## Literals -/

/-- Reading the inside of a quoted text gives the text back. -/
theorem readFrom_literal (key value rest : List Char) :
    readFrom (.literal value) (key.flatMap quoteChar ++ rest) =
      readFrom (.literal (value ++ key)) rest := by
  induction key generalizing value with
  | nil => simp
  | cons c key ih =>
      rw [List.flatMap_cons, List.append_assoc]
      -- a quote or a backslash was doubled, and the pair is read as one; all else stands for itself
      by_cases hquote : c = '\x27'
      · subst hquote
        simp [quoteChar, readFrom, ih]
      by_cases hback : c = '\\'
      · subst hback
        simp [quoteChar, readFrom, ih]
      · have hsame : quoteChar c = [c] := by simp [quoteChar, hquote, hback]
        rw [hsame, List.singleton_append, readFrom, ih] <;> simp_all

/-- A lone quote closes a literal. -/
theorem readFrom_close (value : List Char) {rest : List Char} (h : rest.head? ≠ some '\x27') :
    readFrom (.literal value) ('\x27' :: rest) =
      (readFrom .outside rest).map (.literal (String.ofList value) ++ ·) := by
  cases rest with
  | nil => simp [readFrom]
  | cons c rest =>
      have hc : c ≠ '\x27' := by simpa using h
      conv => lhs; rw [readFrom.eq_def]
      simp [hc]

/-- A key that was quoted is read as that key, unless a quote follows. -/
theorem reads_quoteLiteral (key : String) : Reads (quoteLiteral key) (.literal key) := by
  intro rest hrest
  rw [quoteLiteral, quoteChars, String.toList_ofList]
  simp only [List.cons_append, List.append_assoc, List.nil_append]
  rw [readFrom, if_pos rfl, readFrom_literal, List.nil_append, readFrom_close _ hrest,
    String.ofList_toList]

end SqlppBench.Sqlpp
