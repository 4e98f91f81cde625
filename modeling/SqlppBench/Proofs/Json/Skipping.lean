import SqlppBench.Proofs.Json.Grammar

/-! # Values that are passed over

A value without meaning is passed over, and of this only its notation is looked at: a numeral may be
out of every range, a string may hold half a surrogate pair, two members of an object may have one
name, and brackets may nest without limit (`IsSkipped`). What is passed over is exactly such a text,
with blanks in front of it (`exists_of_skipValue`, `skipValue_append`).
-/

namespace SqlppBench.Json

/-! ## Numerals -/

/-- Digits, and at least one. -/
def IsDigits (ds : List Char) : Prop :=
  ds ≠ [] ∧ ∀ d ∈ ds, d.isDigit = true

/-- The whole digits of a numeral. A zero comes first only if it is the only digit. -/
def IsWhole (ds : List Char) : Prop :=
  IsDigits ds ∧ (ds.head? = some '0' → ds = ['0'])

/-- The places of a numeral, with the point in front of them, or none. -/
inductive IsPlaces : List Char → Prop
  | absent : IsPlaces []
  | given {ds : List Char} : IsDigits ds → IsPlaces ('.' :: ds)

/-- The sign that an exponent may have. -/
def IsSign (sign : List Char) : Prop :=
  sign = [] ∨ sign = ['+'] ∨ sign = ['-']

/-- The exponent of a numeral, or none. -/
inductive IsExponent : List Char → Prop
  | absent : IsExponent []
  | given {letter : Char} {sign ds : List Char} : letter = 'e' ∨ letter = 'E' → IsSign sign →
      IsDigits ds → IsExponent (letter :: (sign ++ ds))

/-- What may stand behind the whole digits. -/
def IsRemainder (t : List Char) : Prop :=
  ∃ places power, t = places ++ power ∧ IsPlaces places ∧ IsExponent power

/-- The numerals without a sign. -/
def IsUnsigned (t : List Char) : Prop :=
  ∃ whole remainder, t = whole ++ remainder ∧ IsWhole whole ∧ IsRemainder remainder

/-- What is skipped of a text is of a kind, and a text of this kind is skipped wherever no numeral
is continued behind it. -/
structure Skips (skipper : Cursor → Except Error Cursor) (kind : List Char → Prop) : Prop where
  exists_of_ok : ∀ ⦃c c'⦄, skipper c = .ok c' → ∃ t, c.rest = t ++ c'.rest ∧ kind t
  skips : ∀ ⦃t⦄, kind t → ∀ p rest, EndsNumeral rest →
    ∃ p', skipper ⟨t ++ rest, p⟩ = .ok ⟨rest, p'⟩

/-- Behind the sign, if there is one. -/
def Cursor.skipSign (c : Cursor) : Cursor :=
  if c.rest.head? == some '+' || c.rest.head? == some '-' then c.skip 1 else c

theorem exists_sign (c : Cursor) : ∃ sign, IsSign sign ∧ c.rest = sign ++ c.skipSign.rest := by
  unfold Cursor.skipSign
  split
  · rename_i hsign
    simp only [Bool.or_eq_true, beq_iff_eq] at hsign
    rcases hsign with hsign | hsign
    all_goals
      obtain ⟨s, hrest⟩ := List.head?_eq_some_iff.1 hsign
      simp [IsSign, Cursor.skip, hrest]
  · exact ⟨[], .inl rfl, rfl⟩

/-- A sign is skipped in front of digits. -/
theorem skipSign_append {sign ds : List Char} (hsign : IsSign sign) (hds : IsDigits ds)
    (rest : List Char) (p : Position) :
    ∃ p', (⟨sign ++ (ds ++ rest), p⟩ : Cursor).skipSign = ⟨ds ++ rest, p'⟩ := by
  rcases hsign with rfl | rfl | rfl
  · obtain ⟨hsome, hdigits⟩ := hds
    obtain ⟨d, ds, rfl⟩ := List.exists_cons_of_ne_nil hsome
    have hd := hdigits d List.mem_cons_self
    have hplus : d ≠ '+' := by
      rintro rfl
      exact absurd hd (by decide)
    have hminus : d ≠ '-' := by
      rintro rfl
      exact absurd hd (by decide)
    exact ⟨p, by simp [Cursor.skipSign, hplus, hminus]⟩
  all_goals exact ⟨_, rfl⟩

/-- Digits that are read where there are any are all that stand there. -/
theorem isDigits_of_digits {c : Cursor} (h : c.digits.1.isEmpty = false) :
    IsDigits c.digits.1 ∧ c.rest = c.digits.1 ++ c.digits.2.rest := by
  obtain ⟨hsplit, hdigits, -⟩ := exists_digits c
  exact ⟨⟨by simpa using h, hdigits⟩, hsplit⟩

/-- An exponent is its letter, its sign and its digits. -/
theorem skipExponent_of_letter {c : Cursor} {letter : Char} {s : List Char}
    (hletter : letter = 'e' ∨ letter = 'E') (hrest : c.rest = letter :: s) :
    skipExponent c =
      let read := (c.skip 1).skipSign.digits
      if read.1.isEmpty then (c.skip 1).skipSign.failPeek .invalidNumber else .ok read.2 := by
  rw [skipExponent, hrest]
  rcases hletter with rfl | rfl <;> rfl

theorem skips_exponent : Skips skipExponent IsExponent where
  exists_of_ok c c' h := by
    by_cases hletter : ∃ letter s, c.rest = letter :: s ∧ (letter = 'e' ∨ letter = 'E')
    · obtain ⟨letter, s, hrest, hletter⟩ := hletter
      rw [skipExponent_of_letter hletter hrest] at h
      dsimp only at h
      split at h
      · cases h
      · rename_i hsome
        cases h
        obtain ⟨sign, hsign, hs⟩ := exists_sign (c.skip 1)
        obtain ⟨hdigits, hds⟩ := isDigits_of_digits (by simpa using hsome)
        refine ⟨_, ?_, .given hletter hsign hdigits⟩
        rw [hrest, ← rest_skip_one hrest, hs, hds]
        simp
    · unfold skipExponent at h
      split at h
      · rename_i hhead
        simp only [Bool.or_eq_true, beq_iff_eq, List.head?_eq_some_iff] at hhead
        refine absurd ?_ hletter
        rcases hhead with ⟨s, hrest⟩ | ⟨s, hrest⟩
        · exact ⟨_, s, hrest, .inl rfl⟩
        · exact ⟨_, s, hrest, .inr rfl⟩
      · cases h
        exact ⟨[], rfl, .absent⟩
  skips t ht p rest hrest := by
    cases ht with
    | absent =>
        have hletter (letter : Char) (h : letter = 'e' ∨ letter = 'E') :
            (rest.head? == some letter) = false := by
          rw [beq_eq_false_iff_ne]
          intro hhead
          rcases h with rfl | rfl
          · exact (hrest _ hhead).2.2.1 rfl
          · exact (hrest _ hhead).2.2.2 rfl
        refine ⟨p, ?_⟩
        rw [List.nil_append, skipExponent, hletter 'e' (.inl rfl), hletter 'E' (.inr rfl)]
        rfl
    | @given letter sign ds hletter hsign hds =>
        obtain ⟨p₁, hskip⟩ := skipSign_append hsign hds rest (p.afterAll [letter])
        obtain ⟨p₂, hdigits⟩ := digits_append hds.2 hrest.noDigit p₁
        have hopened : (⟨letter :: (sign ++ ds) ++ rest, p⟩ : Cursor).skip 1 =
            ⟨sign ++ (ds ++ rest), p.afterAll [letter]⟩ := by
          simp [Cursor.skip]
        refine ⟨p₂, ?_⟩
        rw [skipExponent_of_letter hletter (List.cons_append ..), hopened, hskip, hdigits]
        exact if_neg (by simpa using hds.1)

/-- Behind a point come the places and the exponent. -/
theorem places_of_point {c : Cursor} {s : List Char} (hrest : c.rest = '.' :: s) :
    skipNumber.places c =
      if (c.skip 1).digits.1.isEmpty then (c.skip 1).digits.2.failPeek .invalidNumber
      else skipExponent (c.skip 1).digits.2 := by
  rw [skipNumber.places]
  split
  · rfl
  · rename_i hpoint
    exact absurd hrest (hpoint s)

theorem places_of_ne_point {c : Cursor} (h : ∀ s, c.rest ≠ '.' :: s) :
    skipNumber.places c = skipExponent c := by
  rw [skipNumber.places]
  split
  · rename_i s hrest
    exact absurd hrest (h s)
  · rfl

/-- An exponent does not begin with a point or a digit, and neither does what ends a numeral. -/
theorem IsExponent.head_append {power rest : List Char} (h : IsExponent power)
    (hrest : EndsNumeral rest) {x : Char} (hx : (power ++ rest).head? = some x) :
    x.isDigit = false ∧ x ≠ '.' := by
  cases h with
  | absent => exact ⟨(hrest x hx).1, (hrest x hx).2.1⟩
  | given hletter _ _ =>
      obtain rfl : _ = x := Option.some.inj hx
      rcases hletter with rfl | rfl <;> decide

theorem skips_places : Skips skipNumber.places IsRemainder where
  exists_of_ok c c' h := by
    by_cases hpoint : ∃ s, c.rest = '.' :: s
    · obtain ⟨s, hrest⟩ := hpoint
      rw [places_of_point hrest] at h
      split at h
      · cases h
      · rename_i hsome
        obtain ⟨hdigits, hds⟩ := isDigits_of_digits (by simpa using hsome)
        obtain ⟨power, hpower, hexponent⟩ := skips_exponent.exists_of_ok h
        refine ⟨_, ?_, _, power, rfl, .given hdigits, hexponent⟩
        rw [hrest, ← rest_skip_one hrest, hds, hpower]
        simp
    · rw [places_of_ne_point fun s hs => hpoint ⟨s, hs⟩] at h
      obtain ⟨power, hpower, hexponent⟩ := skips_exponent.exists_of_ok h
      exact ⟨power, hpower, [], power, rfl, .absent, hexponent⟩
  skips t ht p rest hrest := by
    obtain ⟨places, power, rfl, hplaces, hpower⟩ := ht
    cases hplaces with
    | absent =>
        have hpoint (s : List Char) : power ++ rest ≠ '.' :: s := fun heq =>
          (hpower.head_append hrest (by rw [heq]; rfl)).2 rfl
        rw [List.nil_append, places_of_ne_point hpoint]
        exact skips_exponent.skips hpower p rest hrest
    | @given ds hds =>
        have hend : NoDigit (power ++ rest) := fun x hx => (hpower.head_append hrest hx).1
        obtain ⟨p₁, hdigits⟩ := digits_append hds.2 hend (p.afterAll ['.'])
        obtain ⟨p₂, hexponent⟩ := skips_exponent.skips hpower p₁ rest hrest
        have hopened : (⟨'.' :: ds ++ power ++ rest, p⟩ : Cursor).skip 1 =
            ⟨ds ++ (power ++ rest), p.afterAll ['.']⟩ := by
          simp [Cursor.skip]
        refine ⟨p₂, ?_⟩
        rw [places_of_point (c := ⟨'.' :: ds ++ power ++ rest, p⟩) rfl, hopened, hdigits,
          if_neg (by simpa using hds.1)]
        exact hexponent

/-- The whole digits are skipped up to what is none. -/
theorem skipNumber_append {whole rest : List Char} (hwhole : IsWhole whole) (hrest : NoDigit rest)
    (p : Position) :
    ∃ p', skipNumber ⟨whole ++ rest, p⟩ = skipNumber.places ⟨rest, p'⟩ := by
  obtain ⟨⟨hsome, hds⟩, hzero⟩ := hwhole
  obtain ⟨p', hdigits⟩ := digits_append hds hrest p
  unfold skipNumber
  split
  · rename_i d s heq
    -- a zero in front is all there is of digits
    obtain rfl : whole = ['0'] := by
      obtain ⟨x, ds, rfl⟩ := List.exists_cons_of_ne_nil hsome
      obtain rfl : x = '0' := (List.cons.inj heq).1
      exact hzero rfl
    obtain rfl : rest = d :: s := (List.cons.inj heq).2
    rw [hrest d rfl]
    exact ⟨p.afterAll ['0'], rfl⟩
  · rw [hdigits, if_neg (by simpa using hsome)]
    exact ⟨p', rfl⟩

theorem exists_of_skipNumber {c c' : Cursor} (h : skipNumber c = .ok c') :
    ∃ whole d, IsWhole whole ∧ c.rest = whole ++ d.rest ∧ skipNumber.places d = .ok c' := by
  unfold skipNumber at h
  split at h
  · rename_i d s hrest
    split at h
    · cases h
    · refine ⟨['0'], c.skip 1, ⟨by simp [IsDigits], fun _ => rfl⟩, ?_, h⟩
      rw [rest_skip_one hrest]
      exact hrest
  · rename_i hzero
    split at h
    · cases h
    · rename_i hsome
      obtain ⟨hdigits, hrest⟩ := isDigits_of_digits (by simpa using hsome)
      refine ⟨c.digits.1, c.digits.2, ⟨hdigits, fun hhead => ?_⟩, hrest, h⟩
      -- the zero is the last character, since no other follows it
      obtain ⟨ds, hds⟩ := List.head?_eq_some_iff.1 hhead
      rw [hds, List.cons_append] at hrest
      cases ds with
      | nil => exact hds
      | cons d ds => exact absurd hrest (hzero d _)

/-- Behind the whole digits there is no other digit. -/
theorem IsRemainder.noDigit {t rest : List Char} (h : IsRemainder t) (hrest : EndsNumeral rest) :
    NoDigit (t ++ rest) := by
  obtain ⟨places, power, rfl, hplaces, hpower⟩ := h
  cases hplaces with
  | absent => exact fun x hx => (hpower.head_append hrest hx).1
  | given _ =>
      rintro x ⟨⟩
      rfl

theorem skips_number : Skips skipNumber IsUnsigned where
  exists_of_ok c c' h := by
    obtain ⟨whole, d, hwhole, hrest, h⟩ := exists_of_skipNumber h
    obtain ⟨remainder, hd, hremainder⟩ := skips_places.exists_of_ok h
    exact ⟨_, by rw [hrest, hd, List.append_assoc], whole, remainder, rfl, hwhole, hremainder⟩
  skips t ht p rest hrest := by
    obtain ⟨whole, remainder, rfl, hwhole, hremainder⟩ := ht
    obtain ⟨p₁, hskip⟩ := skipNumber_append hwhole (hremainder.noDigit hrest) p
    rw [List.append_assoc, hskip]
    exact skips_places.skips hremainder p₁ rest hrest

theorem IsUnsigned.exists_cons {t : List Char} (h : IsUnsigned t) :
    ∃ d s, t = d :: s ∧ d.isDigit = true := by
  obtain ⟨whole, remainder, rfl, ⟨⟨hsome, hds⟩, -⟩, -⟩ := h
  obtain ⟨d, ds, rfl⟩ := List.exists_cons_of_ne_nil hsome
  exact ⟨d, _, rfl, hds d List.mem_cons_self⟩

/-! ## The grammar -/

/-- The texts of a string that is skipped. -/
def IsSkippedString (t : List Char) : Prop :=
  ∃ body cs, t = '"' :: (body ++ ['"']) ∧ IsBody .skip body cs

/-- The texts of the skipped values that hold no others. -/
inductive IsSkippedPlain : List Char → Prop
  | null : IsSkippedPlain "null".toList
  | yes : IsSkippedPlain "true".toList
  | no : IsSkippedPlain "false".toList
  | positive {t : List Char} : IsUnsigned t → IsSkippedPlain t
  | negative {t : List Char} : IsUnsigned t → IsSkippedPlain ('-' :: t)
  | string {t : List Char} : IsSkippedString t → IsSkippedPlain t

/-- The opening bracket. -/
def Bracket.opening : Bracket → Char
  | .list => '['
  | .object => '\x7b'

/-- What stands in front of an item inside of a bracket: blanks, and in an object the name of the
item and a colon. -/
def Introduces : Bracket → List Char → Prop
  | .list, s => IsSpaces s
  | .object, s => ∃ ws t ws' ws'', s = ws ++ (t ++ (ws' ++ ':' :: ws'')) ∧ IsSpaces ws ∧
      IsSkippedString t ∧ IsSpaces ws' ∧ IsSpaces ws''

/-- The part of a value that is skipped: all of it, or what stands behind an opening bracket or
behind an item, up to the closing bracket. -/
inductive Part where
  | value
  | inside (bracket : Bracket) (first : Bool)

/-- The texts that are skipped. -/
inductive IsSkipped : Part → List Char → Prop
  | plain {t : List Char} : IsSkippedPlain t → IsSkipped .value t
  | nested {bracket : Bracket} {s : List Char} : IsSkipped (.inside bracket true) s →
      IsSkipped .value (bracket.opening :: s)
  | close {bracket : Bracket} {first : Bool} {ws : List Char} : IsSpaces ws →
      IsSkipped (.inside bracket first) (ws ++ [bracket.closing])
  | first {bracket : Bracket} {name t s : List Char} : Introduces bracket name →
      IsSkipped .value t → IsSkipped (.inside bracket false) s →
      IsSkipped (.inside bracket true) (name ++ (t ++ s))
  | next {bracket : Bracket} {ws name t s : List Char} : IsSpaces ws → Introduces bracket name →
      IsSkipped .value t → IsSkipped (.inside bracket false) s →
      IsSkipped (.inside bracket false) (ws ++ ',' :: (name ++ (t ++ s)))

/-- A skipped value begins with a character of its own. -/
theorem IsSkipped.opens {t : List Char} (h : IsSkipped .value t) : Opens t := by
  cases h with
  | plain hplain =>
      cases hplain with
      | null => exact ⟨'n', _, rfl, by decide⟩
      | yes => exact ⟨'t', _, rfl, by decide⟩
      | no => exact ⟨'f', _, rfl, by decide⟩
      | positive hnumeral =>
          obtain ⟨d, s, rfl, hd⟩ := hnumeral.exists_cons
          exact opens_of_digit hd s
      | negative _ => exact ⟨'-', _, rfl, by decide⟩
      | string hstring =>
          obtain ⟨body, cs, rfl, -⟩ := hstring
          exact ⟨'"', _, rfl, by decide⟩
  | @nested bracket s _ => cases bracket <;> exact ⟨_, s, rfl, by decide⟩

/-- What stands behind an item does not continue a numeral. -/
theorem IsSkipped.endsNumeral {bracket : Bracket} {s : List Char}
    (h : IsSkipped (.inside bracket false) s) (rest : List Char) : EndsNumeral (s ++ rest) := by
  cases h with
  | close hws =>
      rw [List.append_assoc]
      exact endsNumeral_append hws (by cases bracket <;> exact endsNumeral_cons (by decide) _)
  | next hws _ _ _ =>
      rw [List.append_assoc]
      exact endsNumeral_append hws (endsNumeral_cons (by decide) _)

theorem Introduces.append {bracket : Bracket} {name ws : List Char} (h : Introduces bracket name)
    (hws : IsSpaces ws) : Introduces bracket (name ++ ws) := by
  cases bracket with
  | list => exact IsSpaces.append h hws
  | object =>
      obtain ⟨ws₁, t, ws₂, ws₃, rfl, h₁, ht, h₂, h₃⟩ := h
      exact ⟨ws₁, t, ws₂, ws₃ ++ ws, by simp, h₁, ht, h₂, h₃.append hws⟩

theorem Introduces.spaces {bracket : Bracket} {name ws : List Char} (h : Introduces bracket name)
    (hws : IsSpaces ws) : Introduces bracket (ws ++ name) := by
  cases bracket with
  | list => exact hws.append h
  | object =>
      obtain ⟨ws₁, t, ws₂, ws₃, rfl, h₁, ht, h₂, h₃⟩ := h
      exact ⟨ws ++ ws₁, t, ws₂, ws₃, by simp, hws.append h₁, ht, h₂, h₃⟩

/-- Behind its blanks, what is in front of an item begins like an item. -/
theorem Introduces.exists_spaces {bracket : Bracket} {name t : List Char}
    (h : Introduces bracket name) (ht : Opens t) :
    ∃ ws name', name = ws ++ name' ∧ IsSpaces ws ∧ Introduces bracket name' ∧
      Opens (name' ++ t) := by
  cases bracket with
  | list => exact ⟨name, [], by simp, h, isSpaces_nil, ht⟩
  | object =>
      obtain ⟨ws, key, ws', ws'', rfl, hws, hkey, hws', hws''⟩ := h
      refine ⟨ws, _, rfl, hws, ⟨[], key, ws', ws'', rfl, isSpaces_nil, hkey, hws', hws''⟩, ?_⟩
      obtain ⟨body, cs, rfl, -⟩ := hkey
      exact ⟨'"', _, rfl, by decide⟩

/-- Blanks in front of what is inside of a bracket belong to it. -/
theorem IsSkipped.spaces {bracket : Bracket} {first : Bool} {s ws : List Char}
    (h : IsSkipped (.inside bracket first) s) (hws : IsSpaces ws) :
    IsSkipped (.inside bracket first) (ws ++ s) := by
  cases h with
  | close hws' =>
      rw [← List.append_assoc]
      exact .close (hws.append hws')
  | first hname ht hs =>
      rw [← List.append_assoc]
      exact .first (hname.spaces hws) ht hs
  | next hws' hname ht hs =>
      rw [← List.append_assoc]
      exact .next (hws.append hws') hname ht hs

/-! ## What is in front of an item -/

/-- Skips what is in front of an item. -/
def skipIntroduction (bracket : Bracket) (c : Cursor) : Except Error Cursor :=
  match bracket with
  | .list => .ok c
  | .object => skipName c

theorem exists_of_skipName {c c' : Cursor} (h : skipName c = .ok c') :
    ∃ name, Introduces .object name ∧ c.rest = name ++ c'.rest := by
  obtain ⟨ws, hws, hc, -⟩ := exists_skipSpaces c
  unfold skipName at h
  dsimp only at h
  split at h
  · cases h
  · rename_i s hquote
    split at h
    · cases h
    · rename_i cs c₁ hread
      obtain ⟨body, hbody, hchars⟩ := isBody_of_stringBody hread
      obtain ⟨ws', hws', hcolon⟩ := exists_of_colon h
      refine ⟨_, ⟨ws, _, ws', [], rfl, hws, ⟨body, cs, rfl, hchars⟩, hws', isSpaces_nil⟩, ?_⟩
      rw [rest_skip_one hquote] at hbody
      obtain rfl : s = body ++ '"' :: c₁.rest := hbody
      rw [hc, hquote, hcolon]
      simp
  · cases h

theorem exists_of_skipIntroduction {bracket : Bracket} {c c' : Cursor}
    (h : skipIntroduction bracket c = .ok c') :
    ∃ name, Introduces bracket name ∧ c.rest = name ++ c'.rest := by
  cases bracket with
  | list =>
      cases h
      exact ⟨[], isSpaces_nil, rfl⟩
  | object => exact exists_of_skipName h

theorem skipIntroduction_append {bracket : Bracket} {name : List Char}
    (h : Introduces bracket name) (u : List Char) (p : Position) :
    ∃ ws p', IsSpaces ws ∧ skipIntroduction bracket ⟨name ++ u, p⟩ = .ok ⟨ws ++ u, p'⟩ := by
  cases bracket with
  | list => exact ⟨name, p, h, rfl⟩
  | object =>
      obtain ⟨ws, key, ws', ws'', rfl, hws, ⟨body, cs, rfl, hbody⟩, hws', hws''⟩ := h
      obtain ⟨p₁, hskip⟩ := skipSpaces_append hws
        (noSpace_cons (c := '"') (by decide) (body ++ '"' :: (ws' ++ ':' :: (ws'' ++ u)))) p
      obtain ⟨p₂, hstring⟩ := stringBody_of_isBody hbody (ws' ++ ':' :: (ws'' ++ u))
        (p₁.afterAll ['"'])
      obtain ⟨p₃, hcolon⟩ := colon_append hws' (ws'' ++ u) p₂
      refine ⟨ws'', p₃, hws'', ?_⟩
      have hopened : (⟨'"' :: (body ++ '"' :: (ws' ++ ':' :: (ws'' ++ u))), p₁⟩ : Cursor).skip 1 =
          ⟨body ++ '"' :: (ws' ++ ':' :: (ws'' ++ u)), p₁.afterAll ['"']⟩ := rfl
      have htext : ws ++ ('"' :: (body ++ ['"']) ++ (ws' ++ ':' :: ws'')) ++ u =
          ws ++ '"' :: (body ++ '"' :: (ws' ++ ':' :: (ws'' ++ u))) := by
        simp
      simp only [skipIntroduction, skipName, htext, hskip, hopened, hstring, hcolon]

/-! ## One step -/

/-- The state in front of a part, inside of the brackets around it. -/
def Part.state (brackets : List Bracket) : Part → SkipState
  | .value => .before brackets
  | .inside bracket first => .after first (bracket :: brackets)

section Steps

variable {bracket : Bracket} {brackets : List Bracket} {c : Cursor}
  {next : Cursor ⊕ (SkipState × Cursor)}

/-- Inside of a bracket there comes its end, or an item. -/
theorem skipStep_inside (bracket : Bracket) (brackets : List Bracket) (first : Bool) (c : Cursor) :
    skipStep c (.after first (bracket :: brackets)) =
      let item (c : Cursor) : Except Error (Cursor ⊕ (SkipState × Cursor)) :=
        (skipIntroduction bracket c).map fun c => .inr (.before (bracket :: brackets), c)
      match c.skipSpaces.rest with
      | [] => c.skipSpaces.failPeek bracket.endProblem
      | ch :: _ =>
        if ch == bracket.closing then .ok (.inr (.after false brackets, c.skipSpaces.skip 1))
        else if first then item c.skipSpaces
        else if ch == ',' then item (c.skipSpaces.skip 1)
        else c.skipSpaces.failPeek bracket.separatorProblem := by
  cases bracket <;> rfl

/-- In front of a value there is a plain one, or an opening bracket. -/
theorem exists_of_skipStep_before (h : skipStep c (.before brackets) = .ok next) :
    (∃ t c₁, IsSkippedPlain t ∧ c.skipSpaces.rest = t ++ c₁.rest ∧
        next = .inr (.after false brackets, c₁)) ∨
      ∃ bracket s, c.skipSpaces.rest = bracket.opening :: s ∧
        next = .inr (.after true (bracket :: brackets), c.skipSpaces.skip 1) := by
  -- a plain value is left behind, and the state is that behind it
  have passed {result : Except Error Cursor}
      (hread : result.map (fun c => Sum.inr (SkipState.after false brackets, c)) = .ok next)
      (htext : ∀ c₁, result = .ok c₁ →
        ∃ t, c.skipSpaces.rest = t ++ c₁.rest ∧ IsSkippedPlain t) :
      ∃ t c₁, IsSkippedPlain t ∧ c.skipSpaces.rest = t ++ c₁.rest ∧
        next = .inr (.after false brackets, c₁) := by
    obtain ⟨c₁, hc₁, rfl⟩ := map_eq_ok_iff.1 hread
    obtain ⟨t, ht, hplain⟩ := htext c₁ hc₁
    exact ⟨t, c₁, hplain, ht, rfl⟩
  have word {ch : Char} {letters s : List Char} (hrest : c.skipSpaces.rest = ch :: s)
      (hplain : IsSkippedPlain (ch :: letters)) (c₁ : Cursor)
      (hread : word letters (c.skipSpaces.skip 1) = .ok c₁) :
      ∃ t, c.skipSpaces.rest = t ++ c₁.rest ∧ IsSkippedPlain t := by
    refine ⟨ch :: letters, ?_, hplain⟩
    rw [hrest, ← rest_skip_one hrest, rest_of_word hread, List.cons_append]
  unfold skipStep at h
  dsimp only at h
  split at h
  · cases h
  · rename_i s hrest
    exact .inl (passed h (word hrest .null))
  · rename_i s hrest
    exact .inl (passed h (word hrest .yes))
  · rename_i s hrest
    exact .inl (passed h (word hrest .no))
  · rename_i s hrest
    refine .inl (passed h fun c₁ hread => ?_)
    obtain ⟨t, ht, hnumeral⟩ := skips_number.exists_of_ok hread
    rw [rest_skip_one hrest] at ht
    exact ⟨'-' :: t, by rw [hrest, ht]; rfl, .negative hnumeral⟩
  · rename_i s hrest
    refine .inl (passed h fun c₁ hread => ?_)
    obtain ⟨⟨cs, c₂⟩, hstring, rfl⟩ := map_eq_ok_iff.1 hread
    obtain ⟨body, hbody, hchars⟩ := isBody_of_stringBody hstring
    rw [rest_skip_one hrest] at hbody
    exact ⟨_, by rw [hrest, hbody]; simp, .string ⟨body, cs, rfl, hchars⟩⟩
  · rename_i s hrest
    cases h
    exact .inr ⟨.list, s, hrest, rfl⟩
  · rename_i s hrest
    cases h
    exact .inr ⟨.object, s, hrest, rfl⟩
  · split at h
    · refine .inl (passed h fun c₁ hread => ?_)
      obtain ⟨t, ht, hnumeral⟩ := skips_number.exists_of_ok hread
      exact ⟨t, ht, .positive hnumeral⟩
    · cases h

/-- Inside of a bracket there is its end, or what introduces an item. -/
theorem exists_of_skipStep_inside {first : Bool}
    (h : skipStep c (.after first (bracket :: brackets)) = .ok next) :
    (∃ ws c₁, IsSpaces ws ∧ c.rest = ws ++ bracket.closing :: c₁.rest ∧
        next = .inr (.after false brackets, c₁)) ∨
      ∃ name c₁, Introduces bracket name ∧ next = .inr (.before (bracket :: brackets), c₁) ∧
        (first = true ∧ c.rest = name ++ c₁.rest ∨
          first = false ∧ ∃ ws, IsSpaces ws ∧ c.rest = ws ++ ',' :: (name ++ c₁.rest)) := by
  obtain ⟨ws, hws, hc, -⟩ := exists_skipSpaces c
  rw [skipStep_inside] at h
  dsimp only at h
  split at h
  · cases h
  rename_i ch s hrest
  split at h
  · rename_i hclose
    cases h
    exact .inl ⟨ws, _, hws, by rw [hc, hrest, rest_skip_one hrest, eq_of_beq hclose], rfl⟩
  split at h
  · rename_i hfirst
    obtain ⟨c₁, hname, rfl⟩ := map_eq_ok_iff.1 h
    obtain ⟨name, hintroduces, hs⟩ := exists_of_skipIntroduction hname
    refine .inr ⟨ws ++ name, c₁, hintroduces.spaces hws, rfl, .inl ⟨hfirst, ?_⟩⟩
    rw [hc, hs, List.append_assoc]
  rename_i hfirst
  split at h
  · rename_i hcomma
    obtain ⟨c₁, hname, rfl⟩ := map_eq_ok_iff.1 h
    obtain ⟨name, hintroduces, hs⟩ := exists_of_skipIntroduction hname
    refine .inr ⟨name, c₁, hintroduces, rfl, .inr ⟨by simpa using hfirst, ws, hws, ?_⟩⟩
    rw [hc, hrest, eq_of_beq hcomma, ← hs, rest_skip_one hrest]
  · cases h

/-- Blanks in front of a part make no difference. -/
theorem skipStep_skipSpaces (part : Part) (brackets : List Bracket) (c : Cursor) :
    skipStep c.skipSpaces (part.state brackets) = skipStep c (part.state brackets) := by
  cases part with
  | value => simp only [Part.state, skipStep, skipSpaces_skipSpaces]
  | inside bracket first => simp only [Part.state, skipStep_inside, skipSpaces_skipSpaces]

/-- What begins with a digit is skipped as a numeral. -/
theorem skipStep_digit {d : Char} (h : d.isDigit = true) (brackets : List Bracket) (s : List Char)
    (p : Position) :
    skipStep ⟨d :: s, p⟩ (.before brackets) =
      (skipNumber ⟨d :: s, p⟩).map fun c => .inr (.after false brackets, c) := by
  obtain ⟨x, u, heq, hspace, -⟩ := opens_of_digit h s
  obtain ⟨rfl, rfl⟩ := List.cons.inj heq
  rw [skipStep.eq_def]
  dsimp only
  rw [skipSpaces_cons hspace]
  split <;> rename_i hrest
  case h_1 => cases hrest
  case h_9 =>
    obtain ⟨rfl, rfl⟩ := List.cons.inj hrest
    rw [if_pos h]
  all_goals
    cases hrest
    exact absurd h (by decide)

/-- A plain value is skipped in one step. -/
theorem skipStep_plain {t : List Char} (h : IsSkippedPlain t) (brackets : List Bracket)
    (p : Position) {rest : List Char} (hrest : EndsNumeral rest) :
    ∃ p', skipStep ⟨t ++ rest, p⟩ (.before brackets) =
      .ok (.inr (.after false brackets, ⟨rest, p'⟩)) := by
  have word (x : Char) (letters : List Char)
      (hopened : skipStep ⟨x :: (letters ++ rest), p⟩ (.before brackets) =
        (word letters ⟨letters ++ rest, p.afterAll [x]⟩).map
          fun c => .inr (.after false brackets, c)) :
      ∃ p', skipStep ⟨x :: (letters ++ rest), p⟩ (.before brackets) =
        .ok (.inr (.after false brackets, ⟨rest, p'⟩)) := by
    obtain ⟨p', hletters⟩ := word_append letters rest (p.afterAll [x])
    exact ⟨p', by rw [hopened, hletters]; rfl⟩
  cases h with
  | null => exact word 'n' "ull".toList rfl
  | yes => exact word 't' "rue".toList rfl
  | no => exact word 'f' "alse".toList rfl
  | positive hnumeral =>
      obtain ⟨p', hread⟩ := skips_number.skips hnumeral p rest hrest
      obtain ⟨d, s, rfl, hd⟩ := hnumeral.exists_cons
      rw [List.cons_append] at hread ⊢
      exact ⟨p', by rw [skipStep_digit hd, hread]; rfl⟩
  | @negative t hnumeral =>
      obtain ⟨p', hread⟩ := skips_number.skips hnumeral (p.afterAll ['-']) rest hrest
      refine ⟨p', ?_⟩
      simp only [List.cons_append, skipStep, skipSpaces_cons (c := '-') (by decide), skip_cons,
        hread]
      rfl
  | string hstring =>
      obtain ⟨body, cs, rfl, hbody⟩ := hstring
      obtain ⟨p', hread⟩ := stringBody_of_isBody hbody rest (p.afterAll ['"'])
      refine ⟨p', ?_⟩
      simp only [List.cons_append, List.append_assoc, List.nil_append, skipStep,
        skipSpaces_cons (c := '"') (by decide), skip_cons, hread]
      rfl

/-- Behind an opening bracket the skipping goes on inside of it. -/
theorem skipStep_opening (bracket : Bracket) (brackets : List Bracket) (s : List Char)
    (p : Position) :
    ∃ p', skipStep ⟨bracket.opening :: s, p⟩ (.before brackets) =
      .ok (.inr (.after true (bracket :: brackets), ⟨s, p'⟩)) := by
  cases bracket
  all_goals exact ⟨_, rfl⟩

/-- The closing bracket is the end of what is inside. -/
theorem skipStep_closing (bracket : Bracket) (brackets : List Bracket) (first : Bool)
    {ws : List Char} (hws : IsSpaces ws) (rest : List Char) (p : Position) :
    ∃ p', skipStep ⟨ws ++ bracket.closing :: rest, p⟩ (.after first (bracket :: brackets)) =
      .ok (.inr (.after false brackets, ⟨rest, p'⟩)) := by
  have hspace : Cursor.isSpace bracket.closing = false := by cases bracket <;> decide
  obtain ⟨p', hskip⟩ := skipSpaces_append hws (noSpace_cons hspace rest) p
  refine ⟨p'.afterAll [bracket.closing], ?_⟩
  rw [skipStep_inside]
  simp only [hskip, beq_self_eq_true, if_true]
  rfl

/-- What introduces the first item is skipped in one step. -/
theorem skipStep_first {name t : List Char} (hname : Introduces bracket name) (ht : Opens t)
    (brackets : List Bracket) (p : Position) :
    ∃ ws p', IsSpaces ws ∧ skipStep ⟨name ++ t, p⟩ (.after true (bracket :: brackets)) =
      .ok (.inr (.before (bracket :: brackets), ⟨ws ++ t, p'⟩)) := by
  obtain ⟨ws, name', rfl, hws, hname', hopens⟩ := hname.exists_spaces ht
  obtain ⟨p₁, hskip⟩ := skipSpaces_append hws (by simpa using hopens.noSpace []) p
  obtain ⟨ws', p₂, hws', hintroduction⟩ := skipIntroduction_append hname' t p₁
  refine ⟨ws', p₂, hws', ?_⟩
  obtain ⟨x, u, heq, -, -, hlist, hobject⟩ := hopens
  have hclosing : (x == bracket.closing) = false := by
    rw [beq_eq_false_iff_ne]
    cases bracket
    · exact hlist
    · exact hobject
  rw [skipStep_inside, List.append_assoc, hskip]
  rw [heq] at hintroduction ⊢
  simp only [hclosing, hintroduction, Bool.false_eq_true, if_false, if_true]
  rfl

/-- A comma and what introduces another item are skipped in one step. -/
theorem skipStep_next {ws name : List Char} (hws : IsSpaces ws) (hname : Introduces bracket name)
    (t : List Char) (brackets : List Bracket) (p : Position) :
    ∃ ws' p', IsSpaces ws' ∧
      skipStep ⟨ws ++ ',' :: (name ++ t), p⟩ (.after false (bracket :: brackets)) =
        .ok (.inr (.before (bracket :: brackets), ⟨ws' ++ t, p'⟩)) := by
  obtain ⟨p₁, hskip⟩ := skipSpaces_append hws (noSpace_cons (c := ',') (by decide) (name ++ t)) p
  obtain ⟨ws', p₂, hws', hintroduction⟩ := skipIntroduction_append hname t (p₁.afterAll [','])
  refine ⟨ws', p₂, hws', ?_⟩
  have hclosing : (',' == bracket.closing) = false := by cases bracket <;> decide
  rw [skipStep_inside, hskip]
  simp only [skip_cons, hclosing, hintroduction, Bool.false_eq_true, if_false, beq_self_eq_true,
    if_true]
  rfl

end Steps

/-! ## All steps -/

/-- One step and the others. -/
theorem skipFrom_succ {state : SkipState} {c : Cursor} {next : SkipState × Cursor}
    (h : skipStep c state = .ok (.inr next)) (steps : Nat) :
    skipFrom state c (steps + 1) = skipFrom next.1 next.2 steps := by
  rw [skipFrom, h]

/-- There is a next step, unless the skipping has come to its end. -/
theorem exists_of_skipFrom {state : SkipState} {c c' : Cursor} {steps : Nat}
    (h : skipFrom state c steps = .ok c') :
    ∃ left, steps = left + 1 ∧ (skipStep c state = .ok (.inl c') ∨
      ∃ next, skipStep c state = .ok (.inr next) ∧ skipFrom next.1 next.2 left = .ok c') := by
  cases steps with
  | zero => cases h
  | succ left =>
      refine ⟨left, rfl, ?_⟩
      rw [skipFrom] at h
      split at h
      · cases h
      · rename_i hend
        cases h
        exact .inl hend
      · rename_i state' c₁ hstep
        exact .inr ⟨_, hstep, h⟩

/-- What is skipped from the front of a part on begins with a text of this part, and the skipping
goes on behind it with fewer steps. -/
theorem exists_of_skipFrom_part (part : Part) {brackets : List Bracket} {c c' : Cursor}
    {steps : Nat} (h : skipFrom (part.state brackets) c steps = .ok c') :
    ∃ ws s c₁ left, left < steps ∧ IsSpaces ws ∧ c.rest = ws ++ (s ++ c₁.rest) ∧
      IsSkipped part s ∧ skipFrom (.after false brackets) c₁ left = .ok c' := by
  induction steps using Nat.strongRecOn generalizing part brackets c with
  | ind steps ih =>
      obtain ⟨left, rfl, hend | ⟨next, hstep, hothers⟩⟩ := exists_of_skipFrom h
      · cases part with
        | value =>
            rcases exists_of_skipStep_before hend with ⟨_, _, -, -, heq⟩ | ⟨_, _, -, heq⟩
            · exact nomatch heq
            · exact nomatch heq
        | inside bracket first =>
            rcases exists_of_skipStep_inside hend with ⟨_, _, -, -, heq⟩ | ⟨_, _, -, heq, -⟩
            · exact nomatch heq
            · exact nomatch heq
      have hleft : left < left + 1 := Nat.lt_succ_self left
      cases part with
      | value =>
          obtain ⟨ws, hws, hc, -⟩ := exists_skipSpaces c
          rcases exists_of_skipStep_before hstep with
            ⟨t, c₁, hplain, ht, heq⟩ | ⟨bracket, s, hs, heq⟩
          · cases heq
            exact ⟨ws, t, c₁, left, hleft, hws, by rw [hc, ht], .plain hplain, hothers⟩
          · cases heq
            obtain ⟨ws', u, c₁, left', hlt, hws', hu, hinside, hrest⟩ :=
              ih left hleft (.inside bracket true) hothers
            rw [rest_skip_one hs] at hu
            obtain rfl : s = ws' ++ (u ++ c₁.rest) := hu
            refine ⟨ws, bracket.opening :: (ws' ++ u), c₁, left', hlt.trans hleft, hws, ?_,
              .nested (hinside.spaces hws'), hrest⟩
            rw [hc, hs]
            simp
      | inside bracket first =>
          rcases exists_of_skipStep_inside hstep with
            ⟨ws, c₁, hws, hc, heq⟩ | ⟨name, c₁, hname, heq, hplace⟩
          · cases heq
            exact ⟨[], ws ++ [bracket.closing], c₁, left, hleft, isSpaces_nil, by simpa using hc,
              .close hws, hothers⟩
          · cases heq
            -- the item, and then what stands behind it
            obtain ⟨ws', t, c₂, left', hlt, hws', ht, hvalue, hbehind⟩ :=
              ih left hleft .value hothers
            obtain ⟨ws'', s, c₃, left'', hlt', hws'', hs, hinside, hrest⟩ :=
              ih left' (hlt.trans hleft) (.inside bracket false) hbehind
            have hitems := hinside.spaces hws''
            refine ⟨[], ?_⟩
            rcases hplace with ⟨rfl, hc⟩ | ⟨rfl, ws, hws, hc⟩
            · refine ⟨_, c₃, left'', (hlt'.trans hlt).trans hleft, isSpaces_nil, ?_,
                .first (hname.append hws') hvalue hitems, hrest⟩
              rw [hc, ht, hs]
              simp
            · refine ⟨_, c₃, left'', (hlt'.trans hlt).trans hleft, isSpaces_nil, ?_,
                .next hws (hname.append hws') hvalue hitems, hrest⟩
              rw [hc, ht, hs]
              simp

/-- Blanks in front of a part are skipped with it. -/
theorem skipFrom_spaces (part : Part) (brackets : List Bracket) {ws u : List Char}
    (hws : IsSpaces ws) (hu : NoSpace u) (p : Position) (steps : Nat) :
    ∃ p', skipFrom (part.state brackets) ⟨ws ++ u, p⟩ (steps + 1) =
      skipFrom (part.state brackets) ⟨u, p'⟩ (steps + 1) := by
  obtain ⟨p', hskip⟩ := skipSpaces_append hws hu p
  refine ⟨p', ?_⟩
  rw [skipFrom, skipFrom, ← skipStep_skipSpaces part brackets ⟨ws ++ u, p⟩, hskip]

/-- A text of a part is skipped in so many steps and one more, whatever follows it. -/
def SkippedIn (n : Nat) (part : Part) (s : List Char) : Prop :=
  ∀ brackets rest p steps, EndsNumeral rest →
    ∃ p', skipFrom (part.state brackets) ⟨s ++ rest, p⟩ (n + 1 + steps) =
      skipFrom (.after false brackets) ⟨rest, p'⟩ steps

/-- An item is skipped, and then what stands behind it. -/
theorem SkippedIn.item {n m : Nat} {bracket : Bracket} {t s : List Char}
    (hvalue : SkippedIn n .value t) (hinside : SkippedIn m (.inside bracket false) s)
    (hopens : Opens t) (hs : ∀ rest, EndsNumeral (s ++ rest)) (brackets : List Bracket)
    {ws : List Char} (hws : IsSpaces ws) {rest : List Char} (hrest : EndsNumeral rest)
    (p : Position) (steps : Nat) :
    ∃ p', skipFrom (.before (bracket :: brackets)) ⟨ws ++ (t ++ (s ++ rest)), p⟩
        (n + m + 2 + steps) =
      skipFrom (.after false brackets) ⟨rest, p'⟩ steps := by
  have hsteps : n + m + 2 + steps = n + 1 + (m + 1 + steps) := by omega
  have hpositive : n + 1 + (m + 1 + steps) = n + (m + 1 + steps) + 1 := by omega
  obtain ⟨p₁, hblanks⟩ := skipFrom_spaces .value (bracket :: brackets) hws
    (hopens.noSpace (s ++ rest)) p (n + (m + 1 + steps))
  obtain ⟨p₂, hitem⟩ := hvalue (bracket :: brackets) (s ++ rest) p₁ (m + 1 + steps) (hs rest)
  obtain ⟨p₃, hothers⟩ := hinside brackets rest p₂ steps hrest
  refine ⟨p₃, ?_⟩
  calc skipFrom (.before (bracket :: brackets)) ⟨ws ++ (t ++ (s ++ rest)), p⟩ (n + m + 2 + steps)
      = skipFrom (.before (bracket :: brackets)) ⟨t ++ (s ++ rest), p₁⟩
          (n + 1 + (m + 1 + steps)) := by rw [hsteps, hpositive]; exact hblanks
    _ = skipFrom (.after false (bracket :: brackets)) ⟨s ++ rest, p₂⟩ (m + 1 + steps) := hitem
    _ = skipFrom (.after false brackets) ⟨rest, p₃⟩ steps := hothers

/-- A text of a part is skipped in fewer than two steps for each of its characters. -/
theorem IsSkipped.exists_steps {part : Part} {s : List Char} (h : IsSkipped part s) :
    ∃ n, n + 1 < 2 * s.length ∧ SkippedIn n part s := by
  induction h with
  | @plain t hplain =>
      have hlength : 0 < t.length := by
        obtain ⟨x, u, rfl, -⟩ := (IsSkipped.plain hplain).opens
        exact Nat.succ_pos _
      refine ⟨0, by omega, fun brackets rest p steps hrest => ?_⟩
      obtain ⟨p', hstep⟩ := skipStep_plain hplain brackets p hrest
      refine ⟨p', ?_⟩
      rw [Nat.zero_add, Nat.add_comm]
      exact skipFrom_succ hstep steps
  | @nested bracket s _ ih =>
      obtain ⟨n, hn, hinside⟩ := ih
      refine ⟨n + 1, by simp only [List.length_cons]; omega,
        fun brackets rest p steps hrest => ?_⟩
      obtain ⟨p₁, hstep⟩ := skipStep_opening bracket brackets (s ++ rest) p
      obtain ⟨p₂, hothers⟩ := hinside brackets rest p₁ steps hrest
      refine ⟨p₂, ?_⟩
      rw [Nat.add_right_comm _ 1 steps, List.cons_append]
      exact (skipFrom_succ hstep _).trans hothers
  | @close bracket first ws hws =>
      refine ⟨0, by simp only [List.length_append, List.length_singleton]; omega,
        fun brackets rest p steps _ => ?_⟩
      obtain ⟨p', hstep⟩ := skipStep_closing bracket brackets first hws rest p
      refine ⟨p', ?_⟩
      rw [List.append_assoc, Nat.zero_add, Nat.add_comm]
      exact skipFrom_succ hstep steps
  | @first bracket name t s hname ht hs iht ihs =>
      obtain ⟨n, hn, hvalue⟩ := iht
      obtain ⟨m, hm, hinside⟩ := ihs
      refine ⟨n + m + 2, by simp only [List.length_append]; omega,
        fun brackets rest p steps hrest => ?_⟩
      obtain ⟨ws, p₁, hws, hstep⟩ := skipStep_first hname (ht.opens.append (s ++ rest)) brackets p
      obtain ⟨p₂, hothers⟩ :=
        hvalue.item hinside ht.opens hs.endsNumeral brackets hws hrest p₁ steps
      refine ⟨p₂, ?_⟩
      rw [Nat.add_right_comm _ 1 steps, List.append_assoc, List.append_assoc]
      exact (skipFrom_succ hstep _).trans hothers
  | @next bracket ws name t s hws hname ht hs iht ihs =>
      obtain ⟨n, hn, hvalue⟩ := iht
      obtain ⟨m, hm, hinside⟩ := ihs
      refine ⟨n + m + 2, by simp only [List.length_append, List.length_cons]; omega,
        fun brackets rest p steps hrest => ?_⟩
      obtain ⟨ws', p₁, hws', hstep⟩ := skipStep_next hws hname (t ++ (s ++ rest)) brackets p
      obtain ⟨p₂, hothers⟩ :=
        hvalue.item hinside ht.opens hs.endsNumeral brackets hws' hrest p₁ steps
      refine ⟨p₂, ?_⟩
      rw [Nat.add_right_comm _ 1 steps, List.append_assoc, List.cons_append, List.append_assoc,
        List.append_assoc]
      exact (skipFrom_succ hstep _).trans hothers

/-! ## Whole values -/

/-- Outside of all brackets the skipping ends. -/
theorem skipFrom_after_nil (c : Cursor) (steps : Nat) :
    skipFrom (.after false []) c (steps + 1) = .ok c :=
  rfl

/-- What is skipped is a value, blanks in front of it apart. -/
theorem exists_of_skipValue {c c' : Cursor} (h : skipValue c = .ok c') :
    ∃ ws t, IsSpaces ws ∧ c.rest = ws ++ (t ++ c'.rest) ∧ IsSkipped .value t := by
  obtain ⟨ws, t, c₁, left, -, hws, hrest, ht, hend⟩ := exists_of_skipFrom_part .value h
  cases left with
  | zero => cases hend
  | succ left =>
      rw [skipFrom_after_nil] at hend
      cases hend
      exact ⟨ws, t, hws, hrest, ht⟩

/-- A value is skipped, if what follows does not continue it. -/
theorem skipValue_append {ws t : List Char} (hws : IsSpaces ws) (ht : IsSkipped .value t)
    {rest : List Char} (hrest : EndsNumeral rest) (p : Position) :
    ∃ p', skipValue ⟨ws ++ (t ++ rest), p⟩ = .ok ⟨rest, p'⟩ := by
  obtain ⟨n, hn, hskipped⟩ := ht.exists_steps
  obtain ⟨k, hk⟩ : ∃ k, 2 * (⟨ws ++ (t ++ rest), p⟩ : Cursor).steps + 1 = n + 1 + (k + 1) := by
    simp only [Cursor.steps, List.length_append]
    exact ⟨2 * (ws.length + (t.length + rest.length) + 1) - n - 1, by omega⟩
  obtain ⟨p₁, hblanks⟩ := skipFrom_spaces .value [] hws (ht.opens.noSpace rest) p (n + (k + 1))
  obtain ⟨p₂, hvalue⟩ := hskipped [] rest p₁ (k + 1) hrest
  refine ⟨p₂, ?_⟩
  rw [Nat.add_right_comm] at hblanks
  rw [skipValue, hk]
  exact hblanks.trans (hvalue.trans (skipFrom_after_nil _ _))

end SqlppBench.Json
