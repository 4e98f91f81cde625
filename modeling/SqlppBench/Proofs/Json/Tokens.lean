import Mathlib.Data.List.TakeWhile
import SqlppBench.Proofs.Json.ReadBack
import SqlppBench.Proofs.Json.Shapes
import SqlppBench.Proofs.Text.Trimming

/-! # The grammar of tokens

Which texts are blanks, strings and numerals, said without a reader, and that the readers take
exactly these. A reader takes a text off the front of what it is given (`Takes`), and it takes the
same text whatever follows, as long as what follows does not continue it (`GivesBefore`): anything
may follow a string, but a numeral must end where it is said to end.
-/

namespace SqlppBench.Json

variable {α β : Type}

/-! ## Readers -/

/-- What a reader succeeds on begins with a text of the given kind, and the reader takes just this
text. -/
def Takes (reader : Cursor → Result α) (kind : List Char → α → Prop) : Prop :=
  ∀ ⦃s p a c⦄, reader ⟨s, p⟩ = .ok (a, c) → ∃ t, s = t ++ c.rest ∧ kind t a

/-- A reader takes exactly this text off the front, if it is followed as it should be. -/
def GivesBefore (follows : List Char → Prop) (reader : Cursor → Result α) (t : List Char) (a : α) :
    Prop :=
  ∀ p rest, follows rest → ∃ p', reader ⟨t ++ rest, p⟩ = .ok (a, ⟨rest, p'⟩)

/-! ## Blanks -/

/-- Nothing but blanks that may stand between tokens. -/
def IsSpaces (s : List Char) : Prop :=
  ∀ c ∈ s, Cursor.isSpace c = true

/-- The text does not begin with a blank. -/
def NoSpace (s : List Char) : Prop :=
  ∀ c, s.head? = some c → Cursor.isSpace c = false

theorem isSpaces_nil : IsSpaces [] := by
  simp [IsSpaces]

theorem IsSpaces.append {s t : List Char} (hs : IsSpaces s) (ht : IsSpaces t) :
    IsSpaces (s ++ t) := by
  intro c hc
  rcases List.mem_append.1 hc with hc | hc
  · exact hs c hc
  · exact ht c hc

theorem noSpace_cons {c : Char} (h : Cursor.isSpace c = false) (s : List Char) :
    NoSpace (c :: s) := by
  rintro d ⟨⟩
  exact h

/-- The first character is skipped. -/
theorem rest_skip_one {c : Cursor} {d : Char} {s : List Char} (h : c.rest = d :: s) :
    (c.skip 1).rest = s := by
  rw [Cursor.skip, h]
  rfl

/-- Characters of a kind are skipped, up to one that is not of this kind. -/
theorem rest_skip_takeWhile (p : Char → Bool) (c : Cursor) :
    c.rest = c.rest.takeWhile p ++ (c.skip (c.rest.takeWhile p).length).rest ∧
      ∀ d, (c.skip (c.rest.takeWhile p).length).rest.head? = some d → p d = false := by
  have hsplit := List.takeWhile_append_dropWhile (p := p) (l := c.rest)
  have hdrop : (c.skip (c.rest.takeWhile p).length).rest = c.rest.dropWhile p :=
    calc c.rest.drop (c.rest.takeWhile p).length
        = (c.rest.takeWhile p ++ c.rest.dropWhile p).drop (c.rest.takeWhile p).length :=
          congrArg _ hsplit.symm
      _ = c.rest.dropWhile p := List.drop_left
  rw [hdrop]
  refine ⟨hsplit.symm, fun d hd => ?_⟩
  have hnot := List.head?_dropWhile_not p c.rest
  rw [hd] at hnot
  simpa using hnot

/-- Blanks are skipped, up to the next token. -/
theorem exists_skipSpaces (c : Cursor) :
    ∃ ws, IsSpaces ws ∧ c.rest = ws ++ c.skipSpaces.rest ∧ NoSpace c.skipSpaces.rest := by
  obtain ⟨hsplit, hstop⟩ := rest_skip_takeWhile Cursor.isSpace c
  exact ⟨_, fun d hd => List.mem_takeWhile_imp hd, hsplit, hstop⟩

/-- Blanks in front of a token are skipped. -/
theorem skipSpaces_append {ws s : List Char} (hws : IsSpaces ws) (hs : NoSpace s) (p : Position) :
    ∃ p', (⟨ws ++ s, p⟩ : Cursor).skipSpaces = ⟨s, p'⟩ := by
  have htake : (ws ++ s).takeWhile Cursor.isSpace = ws := Text.takeWhile_append_of_head hws hs
  refine ⟨p.afterAll ws, ?_⟩
  simp [Cursor.skipSpaces, htake, Cursor.skip]

/-- Blanks at the end of a text are skipped. -/
theorem rest_skipSpaces_of_isSpaces {c : Cursor} (h : IsSpaces c.rest) :
    c.skipSpaces.rest = [] := by
  obtain ⟨p', hskip⟩ := skipSpaces_append h (s := []) (by simp [NoSpace]) c.position
  rw [List.append_nil] at hskip
  rw [hskip]

theorem isSpaces_of_rest_skipSpaces {c : Cursor} (h : c.skipSpaces.rest = []) :
    IsSpaces c.rest := by
  obtain ⟨ws, hws, hrest, -⟩ := exists_skipSpaces c
  rw [hrest, h, List.append_nil]
  exact hws

/-! ## Words -/

/-- A word that is read is there. -/
theorem rest_of_word {letters : List Char} {c c' : Cursor} (h : word letters c = .ok c') :
    c.rest = letters ++ c'.rest := by
  induction letters generalizing c with
  | nil =>
      rw [word] at h
      cases h
      rfl
  | cons letter letters ih =>
      obtain ⟨_ | ⟨ch, rest⟩, p⟩ := c
      · cases h
      · rw [word.eq_def] at h
        dsimp only at h ⊢
        split at h
        · rename_i hch
          have htail := ih h
          rw [eq_of_beq hch]
          exact congrArg (letter :: ·) htail
        · cases h

/-- A word that is there is read. -/
theorem word_append (letters rest : List Char) (p : Position) :
    ∃ p', word letters ⟨letters ++ rest, p⟩ = .ok ⟨rest, p'⟩ := by
  induction letters generalizing p with
  | nil =>
      refine ⟨p, ?_⟩
      rw [word]
      rfl
  | cons letter letters ih =>
      obtain ⟨p', hword⟩ := ih (p.afterAll [letter])
      refine ⟨p', ?_⟩
      rw [word.eq_def]
      dsimp only [List.cons_append]
      rw [if_pos (beq_self_eq_true letter)]
      exact hword

/-! ## Strings -/

/-- Four digits that stand for a unit. -/
def IsUnit (digits : List Char) (n : Nat) : Prop :=
  digits.length = 4 ∧ Text.digits? 16 digits = some n

/-- The character of a surrogate pair. -/
def pairChar (high low : Nat) : Char :=
  Char.ofNat (0x10000 + (high - 0xD800) * 1024 + (low - 0xDC00))

/-- The ways to write a character between the quotes of a string: as it is, unless it is a quote, a
backslash or a control; by a short escape; by its unit; and by the two units of a surrogate pair. In
a string that is passed over, every unit stands for itself. -/
inductive Writes : Purpose → List Char → Char → Prop
  | plain {purpose : Purpose} {c : Char} : c ≠ '"' → c ≠ '\\' → ¬ c < ' ' → Writes purpose [c] c
  | short {purpose : Purpose} {letter c : Char} : unescape? letter = some c →
      Writes purpose ['\\', letter] c
  | unit {digits : List Char} {n : Nat} : IsUnit digits n → isLowSurrogate n = false →
      isHighSurrogate n = false → Writes .keep ('\\' :: 'u' :: digits) (Char.ofNat n)
  | pair {digits digits' : List Char} {high low : Nat} : IsUnit digits high →
      isLowSurrogate high = false → isHighSurrogate high = true → IsUnit digits' low →
      isLowSurrogate low = true →
      Writes .keep ('\\' :: 'u' :: (digits ++ '\\' :: 'u' :: digits')) (pairChar high low)
  | skipped {digits : List Char} {n : Nat} : IsUnit digits n →
      Writes .skip ('\\' :: 'u' :: digits) '\uFFFD'

/-- The texts that stand for some characters between the quotes of a string. -/
inductive IsBody (purpose : Purpose) : List Char → List Char → Prop
  | nil : IsBody purpose [] []
  | cons {t : List Char} {c : Char} {s cs : List Char} : Writes purpose t c →
      IsBody purpose s cs → IsBody purpose (t ++ s) (c :: cs)

/-- The texts of a string. -/
def IsString (t : List Char) (s : String) : Prop :=
  ∃ body, t = '"' :: (body ++ ['"']) ∧ IsBody .keep body s.toList

/-- A unit is read from four digits, whatever follows them. -/
theorem hexUnit_eq_ok_iff {s : List Char} {p : Position} {n : Nat} :
    hexUnit s p = .ok n ↔ ∃ digits rest, s = digits ++ rest ∧ IsUnit digits n := by
  constructor
  · intro h
    unfold hexUnit at h
    split at h
    · cases h
    · split at h
      · rename_i a b c d rest _
        split at h
        · rename_i m hdigits
          cases h
          exact ⟨[a, b, c, d], rest, rfl, rfl, hdigits⟩
        · cases h
      · cases h
  · rintro ⟨digits, rest, rfl, hlength, hdigits⟩
    match digits, hlength with
    | [a, b, c, d], _ =>
        have hlong : ¬ Utf8.size ([a, b, c, d] ++ rest) < 4 := by
          have hle := length_le_size ([a, b, c, d] ++ rest)
          simp only [List.length_append, List.length_cons] at hle
          omega
        rw [hexUnit.eq_def, if_neg hlong]
        simp only [List.cons_append, List.nil_append, hdigits]

/-- The second half of a surrogate pair is read from an escape of its own. -/
theorem lowSurrogate_eq_ok_iff {high : Nat} {s : List Char} {p : Position} {c : Char} :
    lowSurrogate high s p = .ok c ↔
      ∃ digits rest low, s = '\\' :: 'u' :: (digits ++ rest) ∧ IsUnit digits low ∧
        isLowSurrogate low = true ∧ c = pairChar high low := by
  constructor
  · intro h
    unfold lowSurrogate at h
    split at h
    · cases h
    · rename_i back s
      split at h
      · cases h
      · rename_i hback
        obtain rfl : back = '\\' := by simpa using hback
        split at h
        · cases h
        · rename_i u s
          split at h
          · cases h
          · rename_i hu
            obtain rfl : u = 'u' := by simpa using hu
            split at h
            · cases h
            · rename_i low hlow
              obtain ⟨digits, rest, rfl, hunit⟩ := hexUnit_eq_ok_iff.1 hlow
              split at h
              · rename_i hsurrogate
                exact ⟨digits, rest, low, rfl, hunit, hsurrogate, (Except.ok.inj h).symm⟩
              · cases h
  · rintro ⟨digits, rest, low, rfl, hunit, hsurrogate, hc⟩
    have hlow (q : Position) : hexUnit (digits ++ rest) q = .ok low :=
      hexUnit_eq_ok_iff.2 ⟨digits, rest, rfl, hunit⟩
    rw [hc]
    simp only [lowSurrogate, bne_self_eq_false, Bool.false_eq_true, if_false, hlow, hsurrogate,
      if_true, pairChar]

/-- What is read behind a backslash is the rest of an escape. -/
theorem escape_eq_ok_iff {purpose : Purpose} {s : List Char} {p : Position} {c : Char} {n : Nat} :
    escape purpose s p = .ok (c, n) ↔
      ∃ t rest, s = t ++ rest ∧ t.length = n ∧ Writes purpose ('\\' :: t) c := by
  constructor
  · intro h
    unfold escape at h
    split at h
    · cases h
    · rename_i letter s
      split at h
      · rename_i plain hplain
        cases h
        exact ⟨[letter], s, rfl, rfl, .short hplain⟩
      · split at h
        · cases h
        · rename_i hu
          obtain rfl : letter = 'u' := by simpa using hu
          split at h
          · cases h
          · rename_i unit hread
            obtain ⟨digits, rest, rfl, hunit⟩ := hexUnit_eq_ok_iff.1 hread
            cases purpose with
            | skip =>
                cases h
                exact ⟨'u' :: digits, rest, rfl, by simp [hunit.1], .skipped hunit⟩
            | keep =>
                rw [if_neg (by decide)] at h
                split at h
                · cases h
                · rename_i hlow
                  split at h
                  · rename_i hhigh
                    obtain ⟨ch, hch, heq⟩ := map_eq_ok_iff.1 h
                    obtain ⟨rfl, rfl⟩ := Prod.mk.inj heq
                    rw [List.drop_left' hunit.1] at hch
                    obtain ⟨digits', rest', low, rfl, hunit', hlow', hpair⟩ :=
                      lowSurrogate_eq_ok_iff.1 hch
                    rw [hpair]
                    refine ⟨'u' :: (digits ++ '\\' :: 'u' :: digits'), rest', by simp, ?_, ?_⟩
                    · simp [hunit.1, hunit'.1]
                    · exact .pair hunit (by simpa using hlow) hhigh hunit' hlow'
                  · rename_i hhigh
                    cases h
                    refine ⟨'u' :: digits, rest, rfl, by simp [hunit.1], ?_⟩
                    exact .unit hunit (by simpa using hlow) (by simpa using hhigh)
  · rintro ⟨t, rest, rfl, rfl, hwrites⟩
    have hnone : unescape? 'u' = none := by decide
    generalize hs : '\\' :: t = written at hwrites
    cases hwrites with
    | plain hquote hback => exact absurd (List.cons.inj hs).1.symm hback
    | short hplain =>
        obtain rfl := (List.cons.inj hs).2
        simp [escape, hplain]
    | @unit digits n hunit hlow hhigh =>
        obtain rfl := (List.cons.inj hs).2
        have hread (q : Position) : hexUnit (digits ++ rest) q = .ok n :=
          hexUnit_eq_ok_iff.2 ⟨digits, rest, rfl, hunit⟩
        simp [escape, hnone, hread, hlow, hhigh, hunit.1]
    | @pair digits digits' high low hunit hlow hhigh hunit' hlow' =>
        obtain rfl := (List.cons.inj hs).2
        have hread (q : Position) :
            hexUnit (digits ++ '\\' :: 'u' :: (digits' ++ rest)) q = .ok high :=
          hexUnit_eq_ok_iff.2 ⟨digits, _, rfl, hunit⟩
        have hsecond (q : Position) :
            lowSurrogate high ('\\' :: 'u' :: (digits' ++ rest)) q = .ok (pairChar high low) :=
          lowSurrogate_eq_ok_iff.2 ⟨digits', rest, low, rfl, hunit', hlow', rfl⟩
        have hdrop : (digits ++ '\\' :: 'u' :: (digits' ++ rest)).drop 4 =
            '\\' :: 'u' :: (digits' ++ rest) := List.drop_left' hunit.1
        simp [escape, hnone, hread, hlow, hhigh, hsecond, hdrop, hunit.1, hunit'.1, Except.map]
    | @skipped digits n hunit =>
        obtain rfl := (List.cons.inj hs).2
        have hread (q : Position) : hexUnit (digits ++ rest) q = .ok n :=
          hexUnit_eq_ok_iff.2 ⟨digits, rest, rfl, hunit⟩
        simp [escape, hnone, hread, hunit.1]

/-- What is read up to a closing quote is the body of a string. -/
theorem isBody_of_stringBody {purpose : Purpose} {s : List Char} {p : Position} {cs : List Char}
    {c : Cursor} (h : stringBody purpose s p = .ok (cs, c)) :
    ∃ body, s = body ++ '"' :: c.rest ∧ IsBody purpose body cs := by
  induction hn : s.length using Nat.strongRecOn generalizing s p cs c with
  | ind n ih =>
      rw [stringBody.eq_def] at h
      split at h
      · cases h
      · rename_i first s
        split at h
        · rename_i hquote
          cases h
          exact ⟨[], by rw [eq_of_beq hquote]; rfl, .nil⟩
        split at h
        · rename_i hback
          split at h
          · cases h
          · rename_i ch k hescape
            obtain ⟨t, rest, rfl, rfl, hwrites⟩ := escape_eq_ok_iff.1 hescape
            rw [List.drop_left] at h
            split at h
            · cases h
            · rename_i chars cursor hread
              cases h
              have hshort : rest.length < n := by
                simp only [List.length_cons, List.length_append] at hn
                omega
              obtain ⟨body, rfl, hbody⟩ := ih _ hshort hread rfl
              exact ⟨'\\' :: t ++ body, by rw [eq_of_beq hback]; simp, .cons hwrites hbody⟩
        split at h
        · cases h
        · rename_i hquote hback hcontrol
          split at h
          · cases h
          · rename_i chars cursor hread
            cases h
            have hshort : s.length < n := by
              rw [← hn]
              exact Nat.lt_succ_self _
            obtain ⟨body, rfl, hbody⟩ := ih s.length hshort hread rfl
            exact ⟨first :: body, rfl,
              .cons (.plain (by simpa using hquote) (by simpa using hback) hcontrol) hbody⟩

/-- The body of a string is read up to its closing quote. -/
theorem stringBody_of_isBody {purpose : Purpose} {body cs : List Char} (h : IsBody purpose body cs)
    (rest : List Char) (p : Position) :
    ∃ p', stringBody purpose (body ++ '"' :: rest) p = .ok (cs, ⟨rest, p'⟩) := by
  induction h generalizing p with
  | nil => exact ⟨_, by simp [stringBody]; rfl⟩
  | @cons t c s cs hwrites _ ih =>
      -- a character is written as it is, or by an escape
      rcases ht : t with _ | ⟨first, t⟩
      · rw [ht] at hwrites
        cases hwrites
      rw [ht] at hwrites
      by_cases hback : first = '\\'
      · subst hback
        have hescape (q : Position) :
            escape purpose (t ++ (s ++ '"' :: rest)) q = .ok (c, t.length) :=
          escape_eq_ok_iff.2 ⟨t, _, rfl, rfl, hwrites⟩
        obtain ⟨p₁, hfirst⟩ := stringBody_backslash hescape p
        obtain ⟨p₂, hothers⟩ := ih p₁
        refine ⟨p₂, ?_⟩
        rw [List.append_assoc, List.cons_append, hfirst, List.drop_left, hothers]
        rfl
      · cases hwrites with
        | plain hquote _ hcontrol =>
            obtain ⟨p', hothers⟩ := ih (p.after c)
            refine ⟨p', ?_⟩
            rw [List.append_assoc, List.singleton_append, stringBody]
            simp only [beq_iff_eq, hquote, hback, hcontrol, if_false, hothers]
        | short _ => exact absurd rfl hback
        | unit _ _ _ => exact absurd rfl hback
        | pair _ _ _ _ _ => exact absurd rfl hback
        | skipped _ => exact absurd rfl hback

/-- What is read behind an opening quote is the rest of a string. -/
theorem isString_of_string {c c' : Cursor} {text : String} (h : string c = .ok (text, c')) :
    ∃ t, '"' :: c.rest = t ++ c'.rest ∧ IsString t text := by
  obtain ⟨⟨cs, c''⟩, hread, heq⟩ := map_eq_ok_iff.1 h
  obtain ⟨rfl, rfl⟩ := Prod.mk.inj heq
  obtain ⟨body, hrest, hbody⟩ := isBody_of_stringBody hread
  refine ⟨'"' :: (body ++ ['"']), ?_, body, rfl, by rwa [String.toList_ofList]⟩
  rw [hrest]
  simp

/-- A string is read from behind its opening quote, whatever follows it. -/
theorem gives_string_of_isString {t : List Char} {text : String} (h : IsString t text) :
    ∃ u, t = '"' :: u ∧ Gives string u text := by
  obtain ⟨body, rfl, hbody⟩ := h
  refine ⟨_, rfl, fun p rest => ?_⟩
  obtain ⟨p', hread⟩ := stringBody_of_isBody hbody rest p
  refine ⟨p', ?_⟩
  simp only [string, List.append_assoc, List.singleton_append, hread, Except.map,
    String.ofList_toList]

/-! ## Numbers -/

/-- What follows does not continue a numeral. -/
def EndsNumeral (rest : List Char) : Prop :=
  ∀ c, rest.head? = some c → c.isDigit = false ∧ c ≠ '.' ∧ c ≠ 'e' ∧ c ≠ 'E'

/-- What follows does not begin with a digit. -/
def NoDigit (rest : List Char) : Prop :=
  ∀ c, rest.head? = some c → c.isDigit = false

/-- A reader takes a text off the front, and it takes the same text wherever that is followed by
something that does not continue a numeral. -/
def IsLocal (reader : Cursor → Result α) : Prop :=
  Takes reader (GivesBefore EndsNumeral reader)

theorem endsNumeral_nil : EndsNumeral [] := by
  simp [EndsNumeral]

theorem EndsNumeral.noDigit {rest : List Char} (h : EndsNumeral rest) : NoDigit rest :=
  fun c hc => (h c hc).1

/-- The leading digits of a text. -/
theorem exists_digits (c : Cursor) :
    c.rest = c.digits.1 ++ c.digits.2.rest ∧ (∀ d ∈ c.digits.1, d.isDigit = true) ∧
      NoDigit c.digits.2.rest := by
  obtain ⟨hsplit, hstop⟩ := rest_skip_takeWhile Char.isDigit c
  exact ⟨hsplit, fun d hd => List.mem_takeWhile_imp hd, hstop⟩

/-- Digits are read up to what is none. -/
theorem digits_append {ds rest : List Char} (hds : ∀ d ∈ ds, d.isDigit = true)
    (hrest : NoDigit rest) (p : Position) :
    ∃ p', (⟨ds ++ rest, p⟩ : Cursor).digits = (ds, ⟨rest, p'⟩) := by
  have htake : (ds ++ rest).takeWhile Char.isDigit = ds :=
    Text.takeWhile_append_of_head hds hrest
  refine ⟨p.afterAll ds, ?_⟩
  simp [Cursor.digits, htake, Cursor.skip]

/-- A double that is in range takes no more of the text. -/
theorem realNumber_of_ok {positive : Bool} {significand : Nat} {e : Int} {c c' : Cursor}
    {n : Number}
    (h : realNumber positive significand e c = .ok (n, c')) :
    c' = c ∧ ∀ other, realNumber positive significand e other = .ok (n, other) := by
  unfold realNumber at h ⊢
  cases hscale : scaleFloat significand.toUInt64.toFloat e with
  | none => simp [hscale, Cursor.fail] at h
  | some f =>
      rw [hscale] at h
      cases h
      exact ⟨rfl, fun _ => rfl⟩

/-- How far the digits of an exponent are read depends on these digits only. -/
theorem exists_exponentDigits (e : Nat) {ds : List Char} (hds : ∀ d ∈ ds, d.isDigit = true) :
    ∃ (e' : Nat) (left : List Char) (whole : Bool), (∀ d ∈ left, d.isDigit = true) ∧
      (whole = true → left = []) ∧
      ∀ rest p, ∃ p', exponentDigits e ⟨ds ++ rest, p⟩ ds = (e', ⟨left ++ rest, p'⟩, whole) := by
  induction ds generalizing e with
  | nil => exact ⟨e, [], true, by simp, fun _ => rfl, fun rest p => ⟨p, rfl⟩⟩
  | cons d ds ih =>
      have htail : ∀ d ∈ ds, d.isDigit = true := fun c hc => hds c (List.mem_cons_of_mem d hc)
      by_cases hbound : e * 10 + (d.toNat - 48) < exponentBound
      · obtain ⟨e', left, whole, hleft, hwhole, hread⟩ := ih (e * 10 + (d.toNat - 48)) htail
        refine ⟨e', left, whole, hleft, hwhole, fun rest p => ?_⟩
        obtain ⟨p', hp'⟩ := hread rest (p.afterAll [d])
        refine ⟨p', ?_⟩
        rw [exponentDigits, if_pos hbound]
        exact hp'
      · refine ⟨e, ds, false, htail, by simp, fun rest p => ⟨p.afterAll [d], ?_⟩⟩
        rw [exponentDigits, if_neg hbound]
        rfl

/-- The same digits are read wherever no other digit follows them. -/
theorem exists_exponentDigits_digits (e : Nat) {ds : List Char}
    (hds : ∀ d ∈ ds, d.isDigit = true) :
    ∃ (e' : Nat) (left : List Char) (whole : Bool), (∀ d ∈ left, d.isDigit = true) ∧
      (whole = true → left = []) ∧ ∀ rest p, NoDigit rest →
        ∃ p', exponentDigits e ⟨ds ++ rest, p⟩ (⟨ds ++ rest, p⟩ : Cursor).digits.1 =
          (e', ⟨left ++ rest, p'⟩, whole) := by
  obtain ⟨e', left, whole, hleft, hwhole, hread⟩ := exists_exponentDigits e hds
  refine ⟨e', left, whole, hleft, hwhole, fun rest p hrest => ?_⟩
  obtain ⟨_, hdigits⟩ := digits_append hds hrest p
  rw [hdigits]
  exact hread rest p

/-- The digits of an exponent, and the number that they complete. -/
def exponentFrom (positive : Bool) (significand : Nat) (before : Int) (raises : Bool) (c : Cursor) :
    Result Number :=
  match c.rest with
  | [] => c.fail .endInValue
  | d :: _ =>
    if !d.isDigit then c.failPeek .invalidNumber
    else
      match exponentDigits (d.toNat - 48) (c.skip 1) ((c.skip 1).digits.1) with
      | (e, c, true) =>
        realNumber positive significand (if raises then before + e else before - e) c
      | (_, c, false) =>
        if significand ≠ 0 && raises then c.fail .numberOutOfRange
        else .ok (.real (if positive then 0.0 else -0.0), c.digits.2)

/-- An exponent without a sign begins with a digit. -/
theorem isDigit_of_exponentFrom {positive : Bool} {significand : Nat} {before : Int} {raises : Bool}
    {d : Char} {s : List Char} {p : Position} {n : Number} {c : Cursor}
    (h : exponentFrom positive significand before raises ⟨d :: s, p⟩ = .ok (n, c)) :
    d.isDigit = true := by
  rw [exponentFrom.eq_def] at h
  dsimp only at h
  split at h
  · cases h
  · rename_i hd
    simpa using hd

/-- Behind the first digit come the other ones. -/
theorem exponentFrom_cons {d : Char} (hd : d.isDigit = true) (positive : Bool) (significand : Nat)
    (before : Int) (raises : Bool) (s : List Char) (p : Position) :
    exponentFrom positive significand before raises ⟨d :: s, p⟩ =
      let read := exponentDigits (d.toNat - 48) ⟨s, p.afterAll [d]⟩
        (⟨s, p.afterAll [d]⟩ : Cursor).digits.1
      if read.2.2 then
        realNumber positive significand (if raises then before + read.1 else before - read.1)
          read.2.1
      else if significand ≠ 0 && raises then read.2.1.fail .numberOutOfRange
      else .ok (.real (if positive then 0.0 else -0.0), read.2.1.digits.2) := by
  rw [exponentFrom.eq_def]
  dsimp only
  rw [skip_cons, hd]
  obtain ⟨e, c, whole⟩ := exponentDigits (d.toNat - 48) ⟨s, p.afterAll [d]⟩
    (⟨s, p.afterAll [d]⟩ : Cursor).digits.1
  cases whole <;> rfl

theorem isLocal_exponentFrom (positive : Bool) (significand : Nat) (before : Int) (raises : Bool) :
    IsLocal (exponentFrom positive significand before raises) := by
  intro s p n c h
  rcases s with _ | ⟨d, s⟩
  · cases h
  have hd := isDigit_of_exponentFrom h
  rw [exponentFrom_cons hd] at h
  -- the later digits, and what follows them
  obtain ⟨hs, hds, hrest⟩ := exists_digits (⟨s, p.afterAll [d]⟩ : Cursor)
  generalize (⟨s, p.afterAll [d]⟩ : Cursor).digits.1 = ds at hs hds
  generalize (⟨s, p.afterAll [d]⟩ : Cursor).digits.2.rest = rest at hs hrest
  obtain rfl : s = ds ++ rest := hs
  obtain ⟨e', left, whole, hleft, hwhole, hread⟩ :=
    exists_exponentDigits_digits (d.toNat - 48) hds
  obtain ⟨p', hp'⟩ := hread rest (p.afterAll [d]) hrest
  rw [hp'] at h
  cases whole with
  | true =>
      obtain rfl := hwhole rfl
      obtain ⟨rfl, hreal⟩ := realNumber_of_ok h
      refine ⟨d :: ds, rfl, fun q rest' hends => ?_⟩
      obtain ⟨q', hq'⟩ := hread rest' (q.afterAll [d]) hends.noDigit
      refine ⟨q', ?_⟩
      rw [List.cons_append, exponentFrom_cons hd, hq']
      exact hreal _
  | false =>
      dsimp only at h
      rw [if_neg (by decide)] at h
      split at h
      · cases h
      rename_i hzero
      obtain ⟨p'', hp''⟩ := digits_append hleft hrest p'
      rw [hp''] at h
      obtain ⟨rfl, rfl⟩ := Prod.mk.inj (Except.ok.inj h)
      refine ⟨d :: ds, rfl, fun q rest' hends => ?_⟩
      obtain ⟨q', hq'⟩ := hread rest' (q.afterAll [d]) hends.noDigit
      obtain ⟨q'', hq''⟩ := digits_append hleft hends.noDigit q'
      refine ⟨q'', ?_⟩
      rw [List.cons_append, exponentFrom_cons hd, hq']
      dsimp only
      rw [if_neg (by decide), if_neg hzero, hq'']

/-- A reader that finds nothing in an empty text takes at least one character. -/
theorem exists_eq_cons_of_gives {reader : Cursor → Result α}
    (hnil : ∀ p a c, reader ⟨[], p⟩ ≠ .ok (a, c)) {x : Char} {s t rest : List Char} {a : α}
    (hs : x :: s = t ++ rest) (h : GivesBefore EndsNumeral reader t a) :
    ∃ t', t = x :: t' ∧ s = t' ++ rest := by
  cases t with
  | nil =>
      obtain ⟨p', hread⟩ := h .start [] endsNumeral_nil
      exact absurd hread (hnil _ _ _)
  | cons y t =>
      obtain ⟨rfl, htail⟩ := List.cons.inj hs
      exact ⟨t, rfl, htail⟩

/-- What is read from a character on as a local reader does it is a text that is read anywhere. -/
theorem IsLocal.takes_of_cons {reader inner : Cursor → Result α} (hinner : IsLocal inner)
    (hnil : ∀ p a c, inner ⟨[], p⟩ ≠ .ok (a, c)) {x : Char}
    (hopened : ∀ u q, reader ⟨x :: u, q⟩ = inner ⟨x :: u, q⟩) {s : List Char} {p : Position}
    {a : α} {c : Cursor} (h : reader ⟨x :: s, p⟩ = .ok (a, c)) :
    ∃ t, x :: s = t ++ c.rest ∧ GivesBefore EndsNumeral reader t a := by
  rw [hopened] at h
  obtain ⟨t, ht, hgives⟩ := hinner h
  obtain ⟨t', rfl, rfl⟩ := exists_eq_cons_of_gives hnil ht hgives
  refine ⟨x :: t', rfl, fun q rest hends => ?_⟩
  rw [List.cons_append, hopened]
  exact hgives q rest hends

/-- A text that does not end in some sense goes on with a character. -/
theorem exists_cons_of_not_ends {ends : Char → Prop} {s : List Char}
    (h : ¬ ∀ x, s.head? = some x → ends x) : ∃ x u, s = x :: u ∧ ¬ ends x := by
  obtain ⟨x, hx⟩ := Classical.not_forall.1 h
  obtain ⟨hhead, hnot⟩ := Classical.not_imp.1 hx
  obtain ⟨u, rfl⟩ := List.head?_eq_some_iff.1 hhead
  exact ⟨x, u, rfl, hnot⟩

theorem exponentFrom_nil_ne_ok (positive : Bool) (significand : Nat) (before : Int) (raises : Bool)
    (p : Position) (n : Number) (c : Cursor) :
    exponentFrom positive significand before raises ⟨[], p⟩ ≠ .ok (n, c) := by
  exact nofun

theorem exponent_nil_ne_ok (positive : Bool) (significand : Nat) (before : Int) (p : Position)
    (n : Number) (c : Cursor) : exponent positive significand before ⟨[], p⟩ ≠ .ok (n, c) := by
  exact nofun

/-- An exponent is its sign and what follows it. -/
theorem exponent_eq (positive : Bool) (significand : Nat) (before : Int) (c : Cursor) :
    exponent positive significand before c =
      let (raises, c) := match (c.skip 1).rest with
        | '+' :: _ => (true, (c.skip 1).skip 1)
        | '-' :: _ => (false, (c.skip 1).skip 1)
        | _ => (true, c.skip 1)
      exponentFrom positive significand before raises c := rfl

/-- Without a sign an exponent raises. -/
theorem exponent_of_unsigned {positive : Bool} {significand : Nat} {before : Int} {x d : Char}
    (hplus : d ≠ '+') (hminus : d ≠ '-') (s : List Char) (p : Position) :
    exponent positive significand before ⟨x :: d :: s, p⟩ =
      exponentFrom positive significand before true ⟨d :: s, p.afterAll [x]⟩ := by
  rw [exponent_eq, skip_cons]
  simp [hplus, hminus]

theorem isLocal_exponent (positive : Bool) (significand : Nat) (before : Int) :
    IsLocal (exponent positive significand before) := by
  intro s p n c h
  rcases s with _ | ⟨x, s⟩
  · exact absurd h (exponent_nil_ne_ok _ _ _ _ _ _)
  rcases s with _ | ⟨d, s⟩
  · cases h
  by_cases hplus : d = '+'
  · subst hplus
    obtain ⟨t, rfl, hgives⟩ := isLocal_exponentFrom positive significand before true h
    exact ⟨x :: '+' :: t, rfl, fun q rest hends => hgives _ rest hends⟩
  by_cases hminus : d = '-'
  · subst hminus
    obtain ⟨t, rfl, hgives⟩ := isLocal_exponentFrom positive significand before false h
    exact ⟨x :: '-' :: t, rfl, fun q rest hends => hgives _ rest hends⟩
  rw [exponent_of_unsigned hplus hminus] at h
  obtain ⟨t, ht, hgives⟩ := isLocal_exponentFrom positive significand before true h
  obtain ⟨t', rfl, rfl⟩ := exists_eq_cons_of_gives (exponentFrom_nil_ne_ok _ _ _ _) ht hgives
  refine ⟨x :: d :: t', rfl, fun q rest hends => ?_⟩
  obtain ⟨q', hq'⟩ := hgives (q.afterAll [x]) rest hends
  exact ⟨q', (exponent_of_unsigned hplus hminus _ q).trans hq'⟩

/-- Without the letter of an exponent a double ends where it stands. -/
theorem exponentOrEnd_of_end {positive : Bool} {significand : Nat} {e : Int} {c : Cursor}
    (h : ∀ x, c.rest.head? = some x → x ≠ 'e' ∧ x ≠ 'E') :
    exponentOrEnd positive significand e c = realNumber positive significand e c := by
  unfold exponentOrEnd
  split
  · rename_i hrest
    exact absurd rfl (h 'e' (by rw [hrest]; rfl)).1
  · rename_i hrest
    exact absurd rfl (h 'E' (by rw [hrest]; rfl)).2
  · rfl

theorem isLocal_exponentOrEnd (positive : Bool) (significand : Nat) (e : Int) :
    IsLocal (exponentOrEnd positive significand e) := by
  intro s p n c h
  by_cases hletter : ∀ x, s.head? = some x → x ≠ 'e' ∧ x ≠ 'E'
  · rw [exponentOrEnd_of_end hletter] at h
    obtain ⟨rfl, hreal⟩ := realNumber_of_ok h
    refine ⟨[], rfl, fun q rest hends => ⟨q, ?_⟩⟩
    rw [List.nil_append, exponentOrEnd_of_end fun x hx => (hends x hx).2.2]
    exact hreal _
  · -- the letter stays at the front of what is taken, so the exponent is read again
    obtain ⟨x, s, rfl, hx⟩ := exists_cons_of_not_ends hletter
    refine (isLocal_exponent positive significand e).takes_of_cons (exponent_nil_ne_ok _ _ _)
      (fun u q => ?_) h
    rcases Decidable.not_and_iff_not_or_not.1 hx with hx | hx
    · obtain rfl := Decidable.not_not.1 hx
      rfl
    · obtain rfl := Decidable.not_not.1 hx
      rfl

/-- What ends a run of digits still ends it if what follows is cut and does not continue a
numeral. -/
theorem noDigit_append {t s rest : List Char} (h : NoDigit (t ++ s)) (hends : EndsNumeral rest) :
    NoDigit (t ++ rest) := by
  cases t with
  | nil => exact hends.noDigit
  | cons x t => exact fun c hc => h c hc

/-- A fraction is the digits behind its point and what follows them. -/
theorem fraction_cons (positive : Bool) (significand : Nat) (before : Int) (point : Char)
    (s : List Char) (p : Position) :
    fraction positive significand before ⟨point :: s, p⟩ =
      let read := (⟨s, p.afterAll [point]⟩ : Cursor).digits
      if read.1.isEmpty then
        read.2.failPeek (if read.2.rest.isEmpty then .endInValue else .invalidNumber)
      else
        let absorbed := absorb significand read.1
        exponentOrEnd positive absorbed.1 (before - (read.1.length - absorbed.2.length : Nat))
          read.2 :=
  rfl

theorem isLocal_fraction (positive : Bool) (significand : Nat) (before : Int) :
    IsLocal (fraction positive significand before) := by
  intro s p n c h
  rcases s with _ | ⟨point, s⟩
  · cases h
  obtain ⟨hs, hds, hrest⟩ := exists_digits (⟨s, p.afterAll [point]⟩ : Cursor)
  rw [fraction_cons] at h
  generalize (⟨s, p.afterAll [point]⟩ : Cursor).digits = read at h hs hds hrest
  obtain ⟨places, after⟩ := read
  obtain rfl : s = places ++ after.rest := hs
  dsimp only at h hds hrest
  split at h
  · cases h
  rename_i hsome
  obtain ⟨t, ht, hgives⟩ := isLocal_exponentOrEnd positive _ _ h
  rw [ht] at hrest ⊢
  refine ⟨point :: places ++ t, by simp, fun q rest hends => ?_⟩
  obtain ⟨q', hq'⟩ := digits_append hds (noDigit_append hrest hends) (q.afterAll [point])
  obtain ⟨q'', hq''⟩ := hgives q' rest hends
  refine ⟨q'', ?_⟩
  rw [List.append_assoc, List.cons_append, fraction_cons, hq']
  dsimp only
  rw [if_neg hsome]
  exact hq''

/-- The number of whole digits, and of what follows them. -/
def numberFrom (positive : Bool) (ds : List Char) (after : Cursor) : Result Number :=
  let (significand, left) := absorb 0 ds
  match after.rest with
  | '.' :: _ => fraction positive significand left.length after
  | _ =>
    if left.isEmpty && !(after.rest.head? == some 'e' || after.rest.head? == some 'E') then
      .ok (wholeNumber positive significand, after)
    else exponentOrEnd positive significand left.length after

theorem fraction_nil_ne_ok (positive : Bool) (significand : Nat) (before : Int) (p : Position)
    (n : Number) (c : Cursor) : fraction positive significand before ⟨[], p⟩ ≠ .ok (n, c) := by
  exact nofun

/-- Without a point and the letter of an exponent a number ends behind its whole digits. -/
theorem numberFrom_of_end {positive : Bool} {ds : List Char} {c : Cursor}
    (h : ∀ x, c.rest.head? = some x → x ≠ '.' ∧ x ≠ 'e' ∧ x ≠ 'E') :
    numberFrom positive ds c =
      if (absorb 0 ds).2.isEmpty then .ok (wholeNumber positive (absorb 0 ds).1, c)
      else realNumber positive (absorb 0 ds).1 (absorb 0 ds).2.length c := by
  have hletter (x : Char) (hx : x = 'e' ∨ x = 'E') : (c.rest.head? == some x) = false := by
    rw [beq_eq_false_iff_ne]
    intro hhead
    rcases hx with rfl | rfl
    · exact (h _ hhead).2.1 rfl
    · exact (h _ hhead).2.2 rfl
  unfold numberFrom
  dsimp only
  split
  · rename_i hrest
    exact absurd rfl (h '.' (by rw [hrest]; rfl)).1
  · rw [hletter 'e' (.inl rfl), hletter 'E' (.inr rfl), exponentOrEnd_of_end fun x hx => (h x hx).2,
      Bool.or_false, Bool.not_false, Bool.and_true]

/-- The letter of an exponent is followed by the exponent. -/
theorem numberFrom_of_letter {positive : Bool} {ds : List Char} {x : Char}
    (hx : x = 'e' ∨ x = 'E') (u : List Char) (q : Position) :
    numberFrom positive ds ⟨x :: u, q⟩ =
      exponent positive (absorb 0 ds).1 (absorb 0 ds).2.length ⟨x :: u, q⟩ := by
  rcases hx with rfl | rfl <;> simp [numberFrom, exponentOrEnd]

theorem isLocal_numberFrom (positive : Bool) (ds : List Char) :
    IsLocal (numberFrom positive ds) := by
  intro s p n c h
  by_cases hend : ∀ x, s.head? = some x → x ≠ '.' ∧ x ≠ 'e' ∧ x ≠ 'E'
  · -- nothing is taken, and nothing will be where no numeral is continued
    rw [numberFrom_of_end hend] at h
    suffices hsame : c = ⟨s, p⟩ ∧ ∀ other : Cursor,
        (if (absorb 0 ds).2.isEmpty then .ok (wholeNumber positive (absorb 0 ds).1, other)
        else realNumber positive (absorb 0 ds).1 (absorb 0 ds).2.length other) =
          .ok (n, other) by
      obtain ⟨rfl, hsame⟩ := hsame
      refine ⟨[], rfl, fun q rest hends => ⟨q, ?_⟩⟩
      rw [List.nil_append, numberFrom_of_end fun x hx => (hends x hx).2]
      exact hsame _
    split at h
    · rename_i hwhole
      obtain ⟨rfl, rfl⟩ := Prod.mk.inj (Except.ok.inj h)
      exact ⟨rfl, fun _ => if_pos hwhole⟩
    · rename_i hlarge
      simp only [if_neg hlarge]
      exact realNumber_of_ok h
  · obtain ⟨x, s, rfl, hx⟩ := exists_cons_of_not_ends hend
    by_cases hpoint : x = '.'
    · subst hpoint
      have hopened (u : List Char) (q : Position) : numberFrom positive ds ⟨'.' :: u, q⟩ =
          fraction positive (absorb 0 ds).1 (absorb 0 ds).2.length ⟨'.' :: u, q⟩ := rfl
      exact (isLocal_fraction positive _ _).takes_of_cons (fraction_nil_ne_ok _ _ _) hopened h
    · have hletter : x = 'e' ∨ x = 'E' := by
        by_contra hneither
        rw [not_or] at hneither
        exact hx ⟨hpoint, hneither⟩
      exact (isLocal_exponent positive _ _).takes_of_cons (exponent_nil_ne_ok _ _ _)
        (numberFrom_of_letter hletter) h

theorem number_nil_ne_ok (positive : Bool) (p : Position) (n : Number) (c : Cursor) :
    number positive ⟨[], p⟩ ≠ .ok (n, c) := by
  exact nofun

/-- A number is its first digits and what follows them. -/
theorem number_cons (positive : Bool) (d : Char) (s : List Char) (p : Position) :
    number positive ⟨d :: s, p⟩ =
      if !d.isDigit then (⟨d :: s, p⟩ : Cursor).failPeek .invalidNumber
      else
        let (ds, after) := if d == '0' then (['0'], (⟨d :: s, p⟩ : Cursor).skip 1)
          else (⟨d :: s, p⟩ : Cursor).digits
        if d == '0' && !(after.digits.1).isEmpty then after.failPeek .invalidNumber
        else numberFrom positive ds after := rfl

/-- A zero stands alone before a point. -/
theorem number_zero {positive : Bool} {s : List Char} (h : NoDigit s) (p : Position) :
    number positive ⟨'0' :: s, p⟩ = numberFrom positive ['0'] ⟨s, p.afterAll ['0']⟩ := by
  obtain ⟨p', hdigits⟩ := @digits_append [] s (by simp) h (p.afterAll ['0'])
  have hempty : (⟨s, p.afterAll ['0']⟩ : Cursor).digits.1 = [] := congrArg Prod.fst hdigits
  rw [number_cons]
  simp [skip_cons, hempty]

/-- Digits that follow a zero are a fault. -/
theorem noDigit_of_number_zero {positive : Bool} {s : List Char} {p : Position} {n : Number}
    {c : Cursor} (h : number positive ⟨'0' :: s, p⟩ = .ok (n, c)) : NoDigit s := by
  intro d hd
  cases hdigit : d.isDigit with
  | false => rfl
  | true =>
      obtain ⟨s, rfl⟩ := List.head?_eq_some_iff.1 hd
      have hsome : (⟨d :: s, p.afterAll ['0']⟩ : Cursor).digits.1.isEmpty = false := by
        simp [Cursor.digits, hdigit]
      rw [number_cons] at h
      simp [skip_cons, hsome, Cursor.failPeek] at h

/-- A number that does not begin with a zero begins with all digits that there are. -/
theorem number_of_ne_zero {positive : Bool} {d : Char} (hd : d.isDigit = true) (hzero : d ≠ '0')
    (s : List Char) (p : Position) :
    number positive ⟨d :: s, p⟩ =
      numberFrom positive (⟨d :: s, p⟩ : Cursor).digits.1 (⟨d :: s, p⟩ : Cursor).digits.2 := by
  rw [number_cons]
  simp [hd, hzero]

/-- A number begins with a digit. -/
theorem isDigit_of_number {positive : Bool} {d : Char} {s : List Char} {p : Position} {n : Number}
    {c : Cursor} (h : number positive ⟨d :: s, p⟩ = .ok (n, c)) : d.isDigit = true := by
  unfold number at h
  dsimp only at h
  split at h
  · cases h
  · rename_i hd
    simpa using hd

theorem isLocal_number (positive : Bool) : IsLocal (number positive) := by
  intro s p n c h
  rcases s with _ | ⟨d, s⟩
  · exact absurd h (number_nil_ne_ok _ _ _ _)
  have hd := isDigit_of_number h
  by_cases hzero : d = '0'
  · subst hzero
    have hnone := noDigit_of_number_zero h
    rw [number_zero hnone] at h
    obtain ⟨t, rfl, hgives⟩ := isLocal_numberFrom positive _ h
    refine ⟨'0' :: t, rfl, fun q rest hends => ?_⟩
    rw [List.cons_append, number_zero (noDigit_append hnone hends)]
    exact hgives _ rest hends
  · rw [number_of_ne_zero hd hzero] at h
    obtain ⟨hs, hds, hrest⟩ := exists_digits (⟨d :: s, p⟩ : Cursor)
    generalize (⟨d :: s, p⟩ : Cursor).digits = read at h hs hds hrest
    obtain ⟨ds, after⟩ := read
    dsimp only at h hs hds hrest
    obtain ⟨t, ht, hgives⟩ := isLocal_numberFrom positive ds h
    rw [ht] at hs hrest
    -- the digits begin with `d`, so what is read again does, too
    obtain ⟨ds', rfl⟩ : ∃ ds', ds = d :: ds' := by
      cases ds with
      | nil =>
          have hhead := hrest d (by rw [← List.nil_append (t ++ _), ← hs]; rfl)
          rw [hd] at hhead
          cases hhead
      | cons x ds => exact ⟨ds, by rw [(List.cons.inj hs).1]⟩
    refine ⟨d :: ds' ++ t, by rw [List.append_assoc]; exact hs, fun q rest hends => ?_⟩
    obtain ⟨q', hq'⟩ := digits_append hds (noDigit_append hrest hends) q
    rw [List.append_assoc, List.cons_append, number_of_ne_zero hd hzero, ← List.cons_append, hq']
    exact hgives q' rest hends

/-- The texts of a number, with a minus sign in front or without: what is read of one to its end,
and is in range. -/
inductive IsNumeral : List Char → Number → Prop
  | positive {t : List Char} {n : Number} {p p' : Position} :
      number true ⟨t, p⟩ = .ok (n, ⟨[], p'⟩) → IsNumeral t n
  | negative {t : List Char} {n : Number} {p p' : Position} :
      number false ⟨t, p⟩ = .ok (n, ⟨[], p'⟩) → IsNumeral ('-' :: t) n

/-- A number that is read to its end is read wherever its text stands. -/
theorem givesBefore_number {positive : Bool} {t : List Char} {p p' : Position} {n : Number}
    (h : number positive ⟨t, p⟩ = .ok (n, ⟨[], p'⟩)) :
    GivesBefore EndsNumeral (number positive) t n := by
  obtain ⟨u, hu, hgives⟩ := isLocal_number positive h
  rw [List.append_nil] at hu
  rwa [hu]

/-- What is read as a number begins with its text. -/
theorem exists_number_text {positive : Bool} {c c' : Cursor} {n : Number}
    (h : number positive c = .ok (n, c')) :
    ∃ t p', c.rest = t ++ c'.rest ∧ number positive ⟨t, c.position⟩ = .ok (n, ⟨[], p'⟩) := by
  obtain ⟨t, hrest, hgives⟩ := isLocal_number positive h
  obtain ⟨p', hread⟩ := hgives c.position [] endsNumeral_nil
  rw [List.append_nil] at hread
  exact ⟨t, p', hrest, hread⟩

end SqlppBench.Json
