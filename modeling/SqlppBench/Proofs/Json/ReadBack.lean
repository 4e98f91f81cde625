import SqlppBench.Json.Print
import SqlppBench.Json.Read
import SqlppBench.Proofs.Text.Hex

/-! # Reading back what was written

A string that was written is read back, whatever its characters are, and so is an object of strings
(`parse_compact`). Where a reader stands in lines and columns matters for faults only, so what is
stated here holds of a reader wherever it stands (`Gives`).
-/

namespace SqlppBench.Json

/-- A reader takes exactly this text off the front of any text that begins with it. -/
def Gives {α : Type} (reader : Cursor → Result α) (s : List Char) (a : α) : Prop :=
  ∀ p rest, ∃ p', reader ⟨s ++ rest, p⟩ = .ok (a, ⟨rest, p'⟩)

/-! ## Strings -/

/-- The characters that have short escapes, with the letters of these. -/
def shortEscapes : List (Char × Char) :=
  [('"', '"'), ('\\', '\\'), ('\x08', 'b'), ('\x0C', 'f'), ('\n', 'n'), ('\x0D', 'r'),
    ('\t', 't')]

theorem mem_shortEscapes {c e : Char} (h : shortEscape? c = some e) : (c, e) ∈ shortEscapes := by
  unfold shortEscape? at h
  repeat' split at h
  all_goals cases h
  all_goals
    rename_i hc
    rw [eq_of_beq hc]
    decide

/-- A short escape stands for the character that is escaped so. -/
theorem unescape?_shortEscape {c e : Char} (h : shortEscape? c = some e) :
    unescape? e = some c := by
  have hall : ∀ pair ∈ shortEscapes, unescape? pair.2 = some pair.1 := by decide
  exact hall (c, e) (mem_shortEscapes h)

/-- Every character takes a byte. -/
theorem length_le_size (s : List Char) : s.length ≤ Utf8.size s := by
  induction s with
  | nil => simp
  | cons c s ih =>
      have hpos := c.utf8Size_pos
      simp only [Utf8.size, List.map_cons, List.foldr_cons, List.length_cons] at ih ⊢
      omega

/-- The digits of a control are read as its number. -/
theorem hexUnit_control {c : Char} (h : c < ' ') (rest : List Char) (p : Position) :
    hexUnit ('0' :: '0' :: (Hex.pair .lower (UInt8.ofNat c.toNat) ++ rest)) p = .ok c.toNat := by
  have hlt : c.toNat < 32 := UInt32.lt_iff_toNat_lt.1 h
  have hall : ∀ n < 32, Text.digits? 16 ('0' :: '0' :: Hex.pair .lower (UInt8.ofNat n)) =
      some n := by decide
  have hdigits := hall c.toNat hlt
  -- `hexUnit` matches four digits, so those of the control must be seen as two
  obtain ⟨high, low, hpair⟩ : ∃ high low,
      Hex.pair .lower (UInt8.ofNat c.toNat) = [high, low] := ⟨_, _, rfl⟩
  rw [hpair] at hdigits ⊢
  have hlong : ¬ Utf8.size ('0' :: '0' :: ([high, low] ++ rest)) < 4 := by
    have hle := length_le_size ('0' :: '0' :: ([high, low] ++ rest))
    simp only [List.cons_append, List.length_cons] at hle ⊢
    omega
  unfold hexUnit
  rw [if_neg hlong]
  simp only [List.cons_append, List.nil_append, hdigits]

/-- An escape is read as the character that it stands for. -/
theorem stringBody_backslash {purpose : Purpose} {s : List Char} {c : Char} {n : Nat}
    (h : ∀ p, escape purpose s p = .ok (c, n)) (p : Position) :
    ∃ p', stringBody purpose ('\\' :: s) p =
      (stringBody purpose (s.drop n) p').map fun (chars, cursor) => (c :: chars, cursor) := by
  refine ⟨(p.after '\\').afterAll (s.take n), ?_⟩
  rw [stringBody, if_neg (by decide), if_pos (by decide), h]
  simp only
  cases stringBody purpose (s.drop n) ((p.after '\\').afterAll (s.take n)) <;> rfl

/-- An escaped character is read as the character. -/
theorem stringBody_escapeChar (c : Char) (rest : List Char) (p : Position) :
    ∃ p', stringBody .keep (escapeChar c ++ rest) p =
      (stringBody .keep rest p').map fun (chars, cursor) => (c :: chars, cursor) := by
  unfold escapeChar
  split
  · rename_i e hshort
    have hescape (p : Position) : escape .keep (e :: rest) p = .ok (c, 1) := by
      simp [escape, unescape?_shortEscape hshort]
    exact stringBody_backslash hescape p
  · rename_i hshort
    split
    · rename_i hcontrol
      have hlt : c.toNat < 32 := UInt32.lt_iff_toNat_lt.1 hcontrol
      have hhigh : isHighSurrogate c.toNat = false := by simp [isHighSurrogate]; omega
      have hlow : isLowSurrogate c.toNat = false := by simp [isLowSurrogate]; omega
      have hescape (p : Position) : escape .keep
          ('u' :: '0' :: '0' :: (Hex.pair .lower (UInt8.ofNat c.toNat) ++ rest)) p =
            .ok (c, 5) := by
        have hnone : unescape? 'u' = none := by decide
        have hu : ('u' != 'u') = false := by decide
        have hskip : ¬ (Purpose.keep = .skip) := by decide
        simp only [escape, hnone, hu, hexUnit_control hcontrol, hskip, hlow, hhigh,
          Bool.false_eq_true, if_false, Char.ofNat_toNat]
      exact stringBody_backslash hescape p
    · rename_i hcontrol
      -- what has no short escape is neither a quote nor a backslash, so it stands for itself
      have hquote : c ≠ '"' := by
        rintro rfl
        simp [shortEscape?] at hshort
      have hback : c ≠ '\\' := by
        rintro rfl
        simp [shortEscape?] at hshort
      refine ⟨p.after c, ?_⟩
      rw [List.singleton_append, stringBody]
      simp only [beq_iff_eq, hquote, hback, hcontrol, if_false]
      cases stringBody .keep rest (p.after c) <;> rfl

/-- The characters of a string are read up to its closing quote. -/
theorem stringBody_flatMap (s : List Char) (rest : List Char) (p : Position) :
    ∃ p', stringBody .keep (s.flatMap escapeChar ++ '"' :: rest) p = .ok (s, ⟨rest, p'⟩) := by
  induction s generalizing p with
  | nil => exact ⟨_, by simp [stringBody]; rfl⟩
  | cons c s ih =>
      obtain ⟨p₁, hfirst⟩ := stringBody_escapeChar c (s.flatMap escapeChar ++ '"' :: rest) p
      obtain ⟨p₂, hothers⟩ := ih p₁
      refine ⟨p₂, ?_⟩
      rw [List.flatMap_cons, List.append_assoc, hfirst, hothers]
      rfl

/-- A string is read back. -/
theorem gives_string (s : String) :
    Gives string (s.toList.flatMap escapeChar ++ ['"']) s := by
  intro p rest
  obtain ⟨p', hbody⟩ := stringBody_flatMap s.toList rest p
  refine ⟨p', ?_⟩
  simp only [string, List.append_assoc, List.singleton_append, hbody, Except.map,
    String.ofList_toList]

/-! ## Objects of strings -/

/-- A reader that skips one character stands behind it. -/
theorem skip_cons (c : Char) (s : List Char) (p : Position) :
    (⟨c :: s, p⟩ : Cursor).skip 1 = ⟨s, p.afterAll [c]⟩ := rfl

/-- A reader that stands before a character that is no blank skips none. -/
theorem skipSpaces_cons {c : Char} (h : Cursor.isSpace c = false) (s : List Char) (p : Position) :
    (⟨c :: s, p⟩ : Cursor).skipSpaces = ⟨c :: s, p⟩ := by
  simp [Cursor.skipSpaces, Cursor.skip, List.takeWhile, h, Position.afterAll]

/-- A string is a value. -/
theorem gives_value (depth : Nat) (s : String) :
    Gives (value depth) (stringChars s.toList) (.string s) := by
  intro p rest
  obtain ⟨p', hstring⟩ := gives_string s (p.afterAll ['"']) rest
  refine ⟨p', ?_⟩
  rw [value.eq_def]
  simp only [stringChars, List.cons_append, skipSpaces_cons (c := '"') (by decide)]
  have hskip : (⟨'"' :: (s.toList.flatMap escapeChar ++ ['"'] ++ rest), p⟩ : Cursor).skip 1 =
      ⟨s.toList.flatMap escapeChar ++ ['"'] ++ rest, p.afterAll ['"']⟩ := rfl
  rw [hskip, hstring]
  rfl

/-- The characters of a member that is a string. -/
def memberChars (m : String × String) : List Char :=
  stringChars m.1.toList ++ ':' :: stringChars m.2.toList

/-- The members of an object of strings. -/
def stringMembers (ms : List (String × String)) : List (String × Value) :=
  ms.map fun (name, s) => (name, .string s)

/-- The first member begins right behind the brace. -/
theorem nextMember_first (m : String × String) (rest : List Char) (p : Position) :
    nextMember true ⟨memberChars m ++ rest, p⟩ = .ok (some ⟨memberChars m ++ rest, p⟩) := by
  simp only [nextMember, memberChars, stringChars, List.cons_append,
    skipSpaces_cons (c := '"') (by decide)]
  rfl

/-- Another member begins behind a comma. -/
theorem nextMember_comma (m : String × String) (rest : List Char) (p : Position) :
    nextMember false ⟨',' :: (memberChars m ++ rest), p⟩ =
      .ok (some ⟨memberChars m ++ rest, p.afterAll [',']⟩) := by
  simp only [nextMember, skipSpaces_cons (c := ',') (by decide), skip_cons, memberChars,
    stringChars, List.cons_append, skipSpaces_cons (c := '"') (by decide)]
  rfl

/-- Where a member comes next and is read, the others are read after it. -/
theorem members_of_nextMember {σ : Type} {member : String → σ → Cursor → Result σ} {first : Bool}
    {gathered gathered' : σ} {c c₁ c₂ c₃ : Cursor} {name : String}
    (hnext : nextMember first c = .ok (some c₁)) (hname : string (c₁.skip 1) = .ok (name, c₂))
    (hread : member name gathered c₂ = .ok (gathered', c₃)) (steps : Nat) :
    members member first gathered c (steps + 1) = members member false gathered' c₃ steps := by
  rw [members, hnext]
  simp only [hname, hread]

section Members

variable {member : String → List (String × Value) → Cursor → Result (List (String × Value))}
  (hmember : ∀ name s gathered, Gives (member name gathered) (':' :: stringChars s.toList)
    (Members.insert name (.string s) gathered))

include hmember

/-- A member is read and joins those before it. -/
theorem members_step {first : Bool} {m : String × String} {c : Cursor} {rest : List Char}
    {p : Position} (hnext : nextMember first c = .ok (some ⟨memberChars m ++ rest, p⟩))
    (gathered : List (String × Value)) (steps : Nat) :
    ∃ p', members member first gathered c (steps + 1) =
      members member false (Members.insert m.1 (.string m.2) gathered) ⟨rest, p'⟩ steps := by
  obtain ⟨p₁, hname⟩ := gives_string m.1 (p.afterAll ['"'])
    (':' :: stringChars m.2.toList ++ rest)
  obtain ⟨p₂, hread⟩ := hmember m.1 m.2 gathered p₁ rest
  have hskip : (⟨memberChars m ++ rest, p⟩ : Cursor).skip 1 =
      ⟨m.1.toList.flatMap escapeChar ++ ['"'] ++ (':' :: stringChars m.2.toList ++ rest),
        p.afterAll ['"']⟩ := by
    simp [memberChars, stringChars, Cursor.skip]
  refine ⟨p₂, members_of_nextMember hnext ?_ hread steps⟩
  rw [hskip]
  exact hname

/-- The members that follow a first one are read, up to the closing brace. -/
theorem members_flatMap (ms : List (String × String)) (gathered : List (String × Value))
    (p : Position) (rest : List Char) {steps : Nat} (hsteps : ms.length < steps) :
    ∃ p', members member false gathered
        ⟨(ms.flatMap fun m => ',' :: memberChars m) ++ '\x7d' :: rest, p⟩ steps =
      .ok ((stringMembers ms).foldl (fun kept (name, v) => Members.insert name v kept) gathered,
        ⟨rest, p'⟩) := by
  induction ms generalizing gathered p steps with
  | nil =>
      obtain ⟨steps, rfl⟩ := Nat.exists_eq_add_one.2 (Nat.zero_lt_of_lt hsteps)
      refine ⟨p.afterAll ['\x7d'], ?_⟩
      simp only [List.flatMap_nil, List.nil_append, members, nextMember,
        skipSpaces_cons (c := '\x7d') (by decide)]
      rfl
  | cons m ms ih =>
      obtain ⟨steps, rfl⟩ := Nat.exists_eq_add_one.2 (Nat.zero_lt_of_lt hsteps)
      have hnext := nextMember_comma m ((ms.flatMap fun m => ',' :: memberChars m) ++
        '\x7d' :: rest) p
      obtain ⟨p₁, hfirst⟩ := members_step hmember hnext gathered steps
      obtain ⟨p₂, hothers⟩ := ih (Members.insert m.1 (.string m.2) gathered) p₁
        (Nat.lt_of_succ_lt_succ hsteps)
      refine ⟨p₂, ?_⟩
      rw [List.flatMap_cons, List.cons_append, List.cons_append, List.append_assoc, hfirst,
        hothers]
      rfl

end Members

/-- The characters of an object of strings. -/
def objectChars : List (String × String) → List Char
  | [] => ['\x7b', '\x7d']
  | m :: ms => '\x7b' :: (memberChars m ++ ((ms.flatMap fun m => ',' :: memberChars m) ++ ['\x7d']))

/-- The reader of the members of a value. -/
def valueMember (depth : Nat) (name : String) (gathered : List (String × Value)) (c : Cursor) :
    Result (List (String × Value)) :=
  match colon c with
  | .error e => .error e
  | .ok c => (value depth c).map fun (v, c) => (Members.insert name v gathered, c)

theorem gives_valueMember (depth : Nat) (name s : String) (gathered : List (String × Value)) :
    Gives (valueMember depth name gathered) (':' :: stringChars s.toList)
      (Members.insert name (.string s) gathered) := by
  intro p rest
  obtain ⟨p', hvalue⟩ := gives_value depth s (p.afterAll [':']) rest
  refine ⟨p', ?_⟩
  simp only [valueMember, colon, List.cons_append, skipSpaces_cons (c := ':') (by decide),
    skip_cons, hvalue]
  rfl

/-- Each item behind a comma takes a character at least. -/
theorem length_le_flatMap_commas {α : Type} (chars : α → List Char) (items : List α) :
    items.length ≤ (items.flatMap fun item => ',' :: chars item).length := by
  induction items with
  | nil => simp
  | cons item items ih =>
      simp only [List.flatMap_cons, List.length_append, List.length_cons]
      omega

/-- An object of strings is a value. -/
theorem gives_object (depth : Nat) (ms : List (String × String)) :
    Gives (value (depth + 1)) (objectChars ms) (.object (Members.ofList (stringMembers ms))) := by
  intro p rest
  -- the braces are left to the reader of the members
  have hvalue (t : List Char) : value (depth + 1) ⟨'\x7b' :: t, p⟩ =
      (members (valueMember depth) true [] ⟨t, p.afterAll ['\x7b']⟩ (t.length + 2)).map
        fun read => (.object read.1, read.2) := by
    rw [value.eq_def]
    simp only [skipSpaces_cons (c := '\x7b') (by decide), skip_cons]
    rfl
  cases ms with
  | nil =>
      refine ⟨(p.afterAll ['\x7b']).afterAll ['\x7d'], ?_⟩
      simp only [objectChars, List.cons_append, List.nil_append, hvalue, members, nextMember,
        skipSpaces_cons (c := '\x7d') (by decide)]
      rfl
  | cons m ms =>
      have hgives := gives_valueMember depth
      -- the reader may take a step for each character, and a member has one at least
      have hsteps : ms.length < (memberChars m ++ ((ms.flatMap fun m => ',' :: memberChars m) ++
          '\x7d' :: rest)).length + 1 := by
        have hlength := length_le_flatMap_commas memberChars ms
        simp only [List.length_append]
        omega
      obtain ⟨p₁, hfirst⟩ := members_step hgives (nextMember_first m
        ((ms.flatMap fun m => ',' :: memberChars m) ++ '\x7d' :: rest) (p.afterAll ['\x7b'])) []
        ((memberChars m ++ ((ms.flatMap fun m => ',' :: memberChars m) ++
          '\x7d' :: rest)).length + 1)
      obtain ⟨p₂, hothers⟩ := members_flatMap hgives ms [(m.1, .string m.2)] p₁ rest hsteps
      refine ⟨p₂, ?_⟩
      simp only [objectChars, List.cons_append, List.append_assoc, List.nil_append, hvalue]
      rw [hfirst, Members.insert, hothers]
      rfl

/-- Items with a separator between them: the first, and then each behind its separator. -/
theorem toList_intercalate_cons (separator item : String) (items : List String) :
    (separator.intercalate (item :: items)).toList =
      item.toList ++ items.flatMap fun item => separator.toList ++ item.toList := by
  induction items generalizing item with
  | nil => simp
  | cons next items ih =>
      rw [String.intercalate_cons_cons, String.toList_append, String.toList_append, ih next]
      simp

/-- The members of an object of strings are pairs of strings. -/
theorem compactMembers_stringMembers (ms : List (String × String)) :
    compactMembers (stringMembers ms) =
      ms.map fun m => stringText m.1 ++ ":" ++ stringText m.2 := by
  induction ms with
  | nil => rfl
  | cons m ms ih =>
      rw [List.map_cons, ← ih]
      rfl

/-- What is written for an object of strings. -/
theorem toList_compact (ms : List (String × String)) :
    (Value.object (stringMembers ms)).compact.toList = objectChars ms := by
  have hitem (m : String × String) :
      (stringText m.1 ++ ":" ++ stringText m.2).toList = memberChars m := by
    simp [memberChars, stringText]
  rw [Value.compact, compactMembers_stringMembers, joined]
  cases ms with
  | nil => rfl
  | cons m ms =>
      rw [String.toList_append, String.toList_append, List.map_cons,
        toList_intercalate_cons]
      simp only [List.flatMap_map, hitem]
      simp [objectChars]

/-- An object of strings is read back: of two members with one name the later one counts. -/
theorem parse_compact (ms : List (String × String)) :
    parse (Value.object (stringMembers ms)).compact =
      .ok (.object (Members.ofList (stringMembers ms))) := by
  obtain ⟨p, hvalue⟩ := gives_object 126 ms .start []
  have hdepth : depthLimit = 126 + 1 := rfl
  rw [List.append_nil] at hvalue
  simp only [parse, readAll, Cursor.ofString, toList_compact, hdepth, hvalue]
  rfl

/-! ## What a text is made of -/

/-- Digits need no escape. -/
theorem escapeChar_of_digit {c : Char} {n : Nat} (h : Text.digitValue? c = some n) :
    escapeChar c = [c] := by
  have hall : ∀ n < 128, (Text.digitValue? (Char.ofNat n)).isSome →
      escapeChar (Char.ofNat n) = [Char.ofNat n] := by decide
  have hc := hall c.toNat (Text.toNat_lt_of_digitValue? h)
  rw [Char.ofNat_toNat, h] at hc
  exact hc rfl

/-- Digits stand for themselves between the quotes of a string. -/
theorem stringText_of_spells {digits : List Char} {bytes : Bytes} (h : Hex.Spells digits bytes) :
    stringText (String.ofList digits) = "\"" ++ String.ofList digits ++ "\"" := by
  have hescape : digits.flatMap escapeChar = digits := by
    have hdigits := Hex.exists_digitValue?_of_spells h
    clear h
    induction digits with
    | nil => rfl
    | cons c digits ih =>
        obtain ⟨n, hn⟩ := hdigits c (by simp)
        rw [List.flatMap_cons, escapeChar_of_digit hn,
          ih fun d hd => hdigits d (List.mem_cons_of_mem c hd)]
        rfl
  rw [← String.toList_inj]
  simp [stringText, stringChars, hescape]

/-- No control stands among the characters of a string. -/
theorem not_lt_of_mem_escapeChar {c d : Char} (h : d ∈ escapeChar c) : ¬ d < ' ' := by
  unfold escapeChar at h
  split at h
  · rename_i e hshort
    have hall : ∀ pair ∈ shortEscapes, ['\\', pair.2].all (' ' ≤ ·) = true := by decide
    have hle := List.all_eq_true.1 (hall (c, e) (mem_shortEscapes hshort)) d h
    exact Char.not_lt.2 (of_decide_eq_true hle)
  · rename_i hshort
    split at h
    · rename_i hcontrol
      have hall : ∀ n < 32, (['\\', 'u', '0', '0'] ++ Hex.pair .lower (UInt8.ofNat n)).all
          (' ' ≤ ·) = true := by decide
      have hle := List.all_eq_true.1 (hall c.toNat (UInt32.lt_iff_toNat_lt.1 hcontrol)) d h
      exact Char.not_lt.2 (of_decide_eq_true hle)
    · rename_i hcontrol
      rw [List.mem_singleton.1 h]
      exact hcontrol

/-- No control stands in a string. -/
theorem not_lt_of_mem_stringChars {s : List Char} {d : Char} (h : d ∈ stringChars s) :
    ¬ d < ' ' := by
  simp only [stringChars, List.cons_append, List.mem_cons, List.mem_append, List.mem_flatMap,
    List.not_mem_nil, or_false] at h
  rcases h with rfl | ⟨c, -, hd⟩ | rfl
  · decide
  · exact not_lt_of_mem_escapeChar hd
  · decide

theorem newline_not_mem_memberChars (m : String × String) : '\n' ∉ memberChars m := by
  have hstring (s : String) : '\n' ∉ stringChars s.toList :=
    fun hmem => not_lt_of_mem_stringChars hmem (by decide)
  simp only [memberChars, List.mem_append, List.mem_cons, not_or]
  exact ⟨hstring m.1, by decide, hstring m.2⟩

end SqlppBench.Json
