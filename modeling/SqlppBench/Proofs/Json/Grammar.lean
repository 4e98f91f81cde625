import SqlppBench.Proofs.Json.Tokens

/-! # The grammar of JSON texts

Which texts stand for a value, said without a reader: a word, a numeral or a string, or brackets
with items between them that are again texts of values (`IsText`). An object stands for its members
in the order of their names, and of two with one name the later one counts. Reading accepts exactly
these texts, with blanks around them, and gives the value that they stand for (`parse_eq_ok_iff`).
No text that closes its brackets becomes another value by what is written behind it
(`eq_of_parse_append`).
-/

namespace SqlppBench.Json

variable {α σ : Type}

/-! ## Texts -/

/-- The texts of the values that hold no others. -/
inductive IsPlain : List Char → Value → Prop
  | null : IsPlain "null".toList .null
  | yes : IsPlain "true".toList (.bool true)
  | no : IsPlain "false".toList (.bool false)
  | number {t : List Char} {n : Number} : IsNumeral t n → IsPlain t (.number n)
  | string {t : List Char} {s : String} : IsString t s → IsPlain t (.string s)

/-- What may stand behind an opening bracket, or behind an item: further items of a kind, with
commas between them, and the closing bracket. Blanks may stand around each of these. -/
inductive Listed (closing : Char) (kind : List Char → α → Prop) : Bool → List Char → List α → Prop
  | close {first : Bool} {ws : List Char} : IsSpaces ws →
      Listed closing kind first (ws ++ [closing]) []
  | first {ws t s : List Char} {a : α} {as : List α} : IsSpaces ws → kind t a →
      Listed closing kind false s as → Listed closing kind true (ws ++ (t ++ s)) (a :: as)
  | next {ws ws' t s : List Char} {a : α} {as : List α} : IsSpaces ws → IsSpaces ws' → kind t a →
      Listed closing kind false s as →
      Listed closing kind false (ws ++ ',' :: (ws' ++ (t ++ s))) (a :: as)

/-- The texts of a member whose value is of a kind: its name, a colon and the value. -/
inductive IsMember (kind : List Char → α → Prop) : List Char → String × α → Prop
  | intro {t ws ws' u : List Char} {name : String} {a : α} : IsString t name → IsSpaces ws →
      IsSpaces ws' → kind u a → IsMember kind (t ++ (ws ++ ':' :: (ws' ++ u))) (name, a)

/-- The texts of a list and of an object that hold values of a kind. -/
inductive IsNested (kind : List Char → Value → Prop) : List Char → Value → Prop
  | array {s : List Char} {vs : List Value} : Listed ']' kind true s vs →
      IsNested kind ('[' :: s) (.array vs)
  | object {s : List Char} {ms : List (String × Value)} :
      Listed '\x7d' (IsMember kind) true s ms →
      IsNested kind ('\x7b' :: s) (.object (Members.ofList ms))

/-- The texts of the values that nest no deeper than given. -/
def IsText : Nat → List Char → Value → Prop
  | 0 => IsPlain
  | depth + 1 => fun t v => IsPlain t v ∨ IsNested (IsText depth) t v

/-- A text of a kind with blanks in front. -/
def Spaced (kind : List Char → α → Prop) (s : List Char) (a : α) : Prop :=
  ∃ ws t, s = ws ++ t ∧ IsSpaces ws ∧ kind t a

theorem IsPlain.isText {t : List Char} {v : Value} (h : IsPlain t v) (depth : Nat) :
    IsText depth t v := by
  cases depth with
  | zero => exact h
  | succ depth => exact .inl h

/-! ## What is read is a text -/

section Reading

variable {reader : Cursor → Result α} {kind : List Char → α → Prop} {c c' : Cursor}

/-- Where an item follows, a comma comes before it unless it is the first. -/
theorem exists_of_nextItem {first : Bool} (h : nextItem first c = .ok (some c')) :
    ∃ ws, IsSpaces ws ∧
      (first = true ∧ c.rest = ws ++ c'.rest ∨
        first = false ∧ ∃ ws', IsSpaces ws' ∧ c.rest = ws ++ ',' :: (ws' ++ c'.rest)) := by
  obtain ⟨ws, hws, hrest, -⟩ := exists_skipSpaces c
  unfold nextItem at h
  dsimp only at h
  split at h
  · cases h
  · cases h
  rename_i ch rest _ hch
  split at h
  · rename_i hfirst
    cases h
    exact ⟨ws, hws, .inl ⟨hfirst, hrest⟩⟩
  rename_i hfirst
  split at h
  · cases h
  rename_i hcomma
  obtain rfl : ch = ',' := by simpa using hcomma
  obtain ⟨ws', hws', hrest', -⟩ := exists_skipSpaces (c.skipSpaces.skip 1)
  split at h
  · cases h
  · cases h
  · cases h
    refine ⟨ws, hws, .inr ⟨by simpa using hfirst, ws', hws', ?_⟩⟩
    rw [hrest, hch, ← hrest', rest_skip_one hch]

/-- A list is closed by its bracket. -/
theorem exists_of_closeList (h : closeList c = .ok c') :
    ∃ ws, IsSpaces ws ∧ c.rest = ws ++ ']' :: c'.rest := by
  obtain ⟨ws, hws, hrest, -⟩ := exists_skipSpaces c
  unfold closeList at h
  dsimp only at h
  split at h
  · rename_i rest hclose
    cases h
    refine ⟨ws, hws, ?_⟩
    rw [hrest, hclose, rest_skip_one hclose]
  all_goals cases h

/-- The items that are read are a listing. -/
theorem listed_of_items (h : Takes reader (Spaced kind)) {first : Bool} {steps : Nat} {as : List α}
    (hread : items reader first c steps = .ok (as, c')) :
    ∃ s, c.rest = s ++ c'.rest ∧ Listed ']' kind first s as := by
  induction steps generalizing first c as with
  | zero => cases hread
  | succ steps ih =>
      rcases items_succ_eq_ok_iff.1 hread with
        ⟨-, hclose, rfl⟩ | ⟨c₁, a, c₂, rest, hnext, hitem, hrest, rfl⟩
      · obtain ⟨ws, hws, hc⟩ := exists_of_closeList hclose
        exact ⟨ws ++ [']'], by simpa using hc, .close hws⟩
      · obtain ⟨ws, hws, hplace⟩ := exists_of_nextItem hnext
        obtain ⟨u, hu, ws', t, rfl, hws', ht⟩ := h hitem
        obtain ⟨s, hs, hlisted⟩ := ih hrest
        rcases hplace with ⟨rfl, hc⟩ | ⟨rfl, ws'', hws'', hc⟩
        · refine ⟨ws ++ ws' ++ (t ++ s), ?_, .first (hws.append hws') ht hlisted⟩
          rw [hc, hu, hs]
          simp
        · refine ⟨ws ++ ',' :: (ws'' ++ ws' ++ (t ++ s)), ?_,
            .next hws (hws''.append hws') ht hlisted⟩
          rw [hc, hu, hs]
          simp

/-- Where a member follows, it begins with a quote, and a comma comes before it unless it is the
first. -/
theorem exists_of_nextMember {first : Bool} (h : nextMember first c = .ok (some c')) :
    ∃ ws u, IsSpaces ws ∧ c'.rest = '"' :: u ∧
      (first = true ∧ c.rest = ws ++ c'.rest ∨
        first = false ∧ ∃ ws', IsSpaces ws' ∧ c.rest = ws ++ ',' :: (ws' ++ c'.rest)) := by
  obtain ⟨ws, hws, hrest, -⟩ := exists_skipSpaces c
  unfold nextMember at h
  dsimp only at h
  split at h
  · cases h
  · cases h
  rename_i ch rest _ hch
  split at h
  · rename_i hfirst
    split at h
    · rename_i hquote
      cases h
      exact ⟨ws, rest, hws, by rw [hch, eq_of_beq hquote], .inl ⟨hfirst, hrest⟩⟩
    · cases h
  rename_i hfirst
  split at h
  · cases h
  rename_i hcomma
  obtain rfl : ch = ',' := by simpa using hcomma
  obtain ⟨ws', hws', hrest', -⟩ := exists_skipSpaces (c.skipSpaces.skip 1)
  split at h
  · cases h
  · rename_i u hquote
    cases h
    refine ⟨ws, u, hws, hquote, .inr ⟨by simpa using hfirst, ws', hws', ?_⟩⟩
    rw [hrest, hch, ← hrest', rest_skip_one hch]
  · cases h
  · cases h

/-- An object is closed by its brace. -/
theorem exists_of_nextMember_eq_none {first : Bool} (h : nextMember first c = .ok none) :
    ∃ ws, IsSpaces ws ∧ c.rest = ws ++ '\x7d' :: (c.skipSpaces.skip 1).rest := by
  obtain ⟨ws, hws, hrest, -⟩ := exists_skipSpaces c
  refine ⟨ws, hws, ?_⟩
  unfold nextMember at h
  dsimp only at h
  split at h
  · cases h
  · rename_i rest hclose
    rw [hrest, hclose, rest_skip_one hclose]
  · -- every other outcome is a member or a fault
    repeat' split at h
    all_goals cases h

/-- A name is followed by a colon. -/
theorem exists_of_colon (h : colon c = .ok c') :
    ∃ ws, IsSpaces ws ∧ c.rest = ws ++ ':' :: c'.rest := by
  obtain ⟨ws, hws, hrest, -⟩ := exists_skipSpaces c
  unfold colon at h
  dsimp only at h
  split at h
  · rename_i rest hcolon
    cases h
    refine ⟨ws, hws, ?_⟩
    rw [hrest, hcolon, rest_skip_one hcolon]
  · cases h
  · cases h

/-- The members of an object: there are none, or the first is read and then the others are. -/
theorem members_succ_eq_ok {member : String → σ → Cursor → Result σ} {first : Bool}
    {gathered gathered' : σ} {steps : Nat}
    (h : members member first gathered c (steps + 1) = .ok (gathered', c')) :
    (nextMember first c = .ok none ∧ gathered' = gathered ∧ c' = c.skipSpaces.skip 1) ∨
      ∃ c₁ name c₂ gathered₁ c₃, nextMember first c = .ok (some c₁) ∧
        string (c₁.skip 1) = .ok (name, c₂) ∧ member name gathered c₂ = .ok (gathered₁, c₃) ∧
        members member false gathered₁ c₃ steps = .ok (gathered', c') := by
  rw [members] at h
  split at h
  · cases h
  · rename_i hnext
    cases h
    exact .inl ⟨hnext, rfl, rfl⟩
  · rename_i c₁ hnext
    split at h
    · cases h
    rename_i name c₂ hname
    split at h
    · cases h
    rename_i gathered₁ c₃ hmember
    exact .inr ⟨c₁, name, c₂, gathered₁, c₃, hnext, hname, hmember, h⟩

/-- Behind a name, the reader of members takes a colon and a text of a kind, and what the text
stands for joins what has been gathered. -/
def TakesMembers (kind : List Char → α → Prop) (member : String → σ → Cursor → Result σ)
    (join : σ → String × α → Option σ) : Prop :=
  ∀ ⦃name gathered c gathered' c'⦄, member name gathered c = .ok (gathered', c') →
    ∃ ws ws' u a, IsSpaces ws ∧ IsSpaces ws' ∧ kind u a ∧
      c.rest = ws ++ ':' :: (ws' ++ u ++ c'.rest) ∧ join gathered (name, a) = some gathered'

/-- The members that are read are a listing, and they join each other. -/
theorem listed_of_members {member : String → σ → Cursor → Result σ}
    {join : σ → String × α → Option σ} (h : TakesMembers kind member join) {first : Bool}
    {steps : Nat} {gathered gathered' : σ}
    (hread : members member first gathered c steps = .ok (gathered', c')) :
    ∃ s ms, c.rest = s ++ c'.rest ∧ Listed '\x7d' (IsMember kind) first s ms ∧
      ms.foldlM join gathered = some gathered' := by
  induction steps generalizing first gathered c with
  | zero => cases hread
  | succ steps ih =>
      rcases members_succ_eq_ok hread with
        ⟨hnone, rfl, rfl⟩ | ⟨c₁, name, c₂, gathered₁, c₃, hnext, hname, hmember, hrest⟩
      · obtain ⟨ws, hws, hc⟩ := exists_of_nextMember_eq_none hnone
        exact ⟨ws ++ ['\x7d'], [], by simpa using hc, .close hws, rfl⟩
      · obtain ⟨ws, u, hws, hquote, hplace⟩ := exists_of_nextMember hnext
        obtain ⟨t, ht, hstring⟩ := isString_of_string hname
        -- behind the name come the colon and the value
        obtain ⟨ws₁, ws₂, x, a, hws₁, hws₂, hx, hc₂, hjoin⟩ := h hmember
        obtain ⟨s, ms, hs, hlisted, hjoins⟩ := ih hrest
        have hfirst : c₁.rest = t ++ (ws₁ ++ ':' :: (ws₂ ++ x)) ++ (s ++ c'.rest) := by
          rw [rest_skip_one hquote] at ht
          rw [hquote, ht, hc₂, hs]
          simp
        have hmember : IsMember kind (t ++ (ws₁ ++ ':' :: (ws₂ ++ x))) (name, a) :=
          .intro hstring hws₁ hws₂ hx
        have hall : ((name, a) :: ms).foldlM join gathered = some gathered' := by
          rw [List.foldlM_cons, hjoin]
          exact hjoins
        rcases hplace with ⟨rfl, hc⟩ | ⟨rfl, ws', hws', hc⟩
        · refine ⟨ws ++ (t ++ (ws₁ ++ ':' :: (ws₂ ++ x)) ++ s), (name, a) :: ms, ?_,
            .first hws hmember hlisted, hall⟩
          rw [hc, hfirst]
          simp
        · refine ⟨ws ++ ',' :: (ws' ++ (t ++ (ws₁ ++ ':' :: (ws₂ ++ x)) ++ s)), (name, a) :: ms, ?_,
            .next hws hws' hmember hlisted, hall⟩
          rw [hc, hfirst]
          simp

end Reading

/-- Puts some members in their places, one after the other. -/
def gather (gathered ms : List (String × Value)) : List (String × Value) :=
  ms.foldl (fun kept (name, v) => Members.insert name v kept) gathered

/-- The members of a value take their places. -/
theorem takesMembers_valueMember {depth : Nat} {kind : List Char → Value → Prop}
    (h : Takes (value depth) (Spaced kind)) :
    TakesMembers kind (valueMember depth)
      fun gathered (name, v) => some (Members.insert name v gathered) := by
  intro name gathered c gathered' c' hread
  rw [valueMember] at hread
  split at hread
  · cases hread
  rename_i c₁ hcolon
  obtain ⟨⟨v, c₂⟩, hvalue, heq⟩ := map_eq_ok_iff.1 hread
  obtain ⟨rfl, rfl⟩ := Prod.mk.inj heq
  obtain ⟨ws, hws, hc⟩ := exists_of_colon hcolon
  obtain ⟨w, hw, ws', u, rfl, hws', hu⟩ := h hvalue
  exact ⟨ws, ws', u, v, hws, hws', hu, by rw [hc, hw], rfl⟩

/-- What a value begins with decides how it is read. -/
theorem value_eq_ok {depth : Nat} {c c' : Cursor} {v : Value} (h : value depth c = .ok (v, c')) :
    (∃ t, c.skipSpaces.rest = t ++ c'.rest ∧ IsPlain t v) ∨
      (∃ depth' s vs, depth = depth' + 1 ∧ c.skipSpaces.rest = '[' :: s ∧
        items (value depth') true (c.skipSpaces.skip 1) c.skipSpaces.steps = .ok (vs, c') ∧
        v = .array vs) ∨
      ∃ depth' s ms, depth = depth' + 1 ∧ c.skipSpaces.rest = '\x7b' :: s ∧
        members (valueMember depth') true [] (c.skipSpaces.skip 1) c.skipSpaces.steps =
          .ok (ms, c') ∧ v = .object ms := by
  have hword {ch : Char} {s letters : List Char} {u : Value} (hrest : c.skipSpaces.rest = ch :: s)
      (hread : (word letters (c.skipSpaces.skip 1)).map (fun d => (u, d)) = .ok (v, c'))
      (hplain : IsPlain (ch :: letters) u) :
      ∃ t, c.skipSpaces.rest = t ++ c'.rest ∧ IsPlain t v := by
    obtain ⟨c'', hletters, heq⟩ := map_eq_ok_iff.1 hread
    cases heq
    refine ⟨ch :: letters, ?_, hplain⟩
    rw [hrest, ← rest_skip_one hrest, rest_of_word hletters, List.cons_append]
  unfold value at h
  dsimp only at h
  split at h
  · cases h
  · rename_i s hrest
    exact .inl (hword hrest h .null)
  · rename_i s hrest
    exact .inl (hword hrest h .yes)
  · rename_i s hrest
    exact .inl (hword hrest h .no)
  · rename_i s hrest
    obtain ⟨⟨n, c''⟩, hnumber, heq⟩ := map_eq_ok_iff.1 h
    cases heq
    obtain ⟨t, p', ht, hread⟩ := exists_number_text hnumber
    rw [rest_skip_one hrest] at ht
    exact .inl ⟨'-' :: t, by rw [hrest, ht]; rfl, .number (.negative hread)⟩
  · rename_i s hrest
    obtain ⟨⟨text, c''⟩, hstring, heq⟩ := map_eq_ok_iff.1 h
    cases heq
    obtain ⟨t, ht, htext⟩ := isString_of_string hstring
    rw [rest_skip_one hrest] at ht
    exact .inl ⟨t, by rw [hrest, ht], .string htext⟩
  · rename_i s hrest
    cases depth with
    | zero => cases h
    | succ depth =>
        obtain ⟨⟨vs, c''⟩, hitems, heq⟩ := map_eq_ok_iff.1 h
        cases heq
        exact .inr (.inl ⟨depth, s, vs, rfl, hrest, hitems, rfl⟩)
  · rename_i s hrest
    cases depth with
    | zero => cases h
    | succ depth =>
        obtain ⟨⟨ms, c''⟩, hmembers, heq⟩ := map_eq_ok_iff.1 h
        cases heq
        exact .inr (.inr ⟨depth, s, ms, rfl, hrest, hmembers, rfl⟩)
  · rename_i d s _ _ _ _ _ _ _ hrest
    split at h
    · obtain ⟨⟨n, c''⟩, hnumber, heq⟩ := map_eq_ok_iff.1 h
      cases heq
      obtain ⟨t, p', ht, hread⟩ := exists_number_text hnumber
      exact .inl ⟨t, ht, .number (.positive hread)⟩
    · cases h

/-- A value that is read is the value of the text that was read. -/
theorem takes_value (depth : Nat) : Takes (value depth) (Spaced (IsText depth)) := by
  induction depth with
  | zero =>
      intro s p v c h
      obtain ⟨ws, hws, hs, -⟩ := exists_skipSpaces ⟨s, p⟩
      rcases value_eq_ok h with ⟨t, ht, hplain⟩ | ⟨_, _, _, hdepth, -⟩ | ⟨_, _, _, hdepth, -⟩
      · exact ⟨ws ++ t, by rw [List.append_assoc, ← ht]; exact hs, ws, t, rfl, hws, hplain⟩
      · cases hdepth
      · cases hdepth
  | succ depth ih =>
      intro s p v c h
      obtain ⟨ws, hws, hs, -⟩ := exists_skipSpaces ⟨s, p⟩
      -- whatever the text is, it stands behind the blanks
      suffices ∃ t, (⟨s, p⟩ : Cursor).skipSpaces.rest = t ++ c.rest ∧ IsText (depth + 1) t v by
        obtain ⟨t, ht, htext⟩ := this
        exact ⟨ws ++ t, by rw [List.append_assoc, ← ht]; exact hs, ws, t, rfl, hws, htext⟩
      rcases value_eq_ok h with ⟨t, ht, hplain⟩ | ⟨_, u, vs, hdepth, hu, hitems, rfl⟩ |
        ⟨_, u, ms, hdepth, hu, hmembers, rfl⟩
      · exact ⟨t, ht, .inl hplain⟩
      · cases hdepth
        obtain ⟨x, hx, hlisted⟩ := listed_of_items ih hitems
        rw [rest_skip_one hu] at hx
        obtain rfl : u = x ++ c.rest := hx
        exact ⟨'[' :: x, hu, .inr (.array hlisted)⟩
      · cases hdepth
        obtain ⟨x, raw, hx, hlisted, hjoins⟩ :=
          listed_of_members (takesMembers_valueMember ih) hmembers
        obtain rfl : gather [] raw = ms := by
          rw [gather]
          exact Option.some.inj ((List.foldlM_pure ..).symm.trans hjoins)
        rw [rest_skip_one hu] at hx
        obtain rfl : u = x ++ c.rest := hx
        exact ⟨'\x7b' :: x, hu, .inr (.object hlisted)⟩

/-! ## Texts are read -/

/-- What follows a value does not continue it; only a numeral can be continued. -/
def Follows (v : Value) (rest : List Char) : Prop :=
  ∀ n, v = .number n → EndsNumeral rest

theorem follows_of_ne_number {v : Value} (h : ∀ n, v ≠ .number n) (rest : List Char) :
    Follows v rest :=
  fun n hv => absurd hv (h n)

/-- A text begins with a character of its own: no blank, no comma and no closing bracket. -/
def Opens (t : List Char) : Prop :=
  ∃ x u, t = x :: u ∧ Cursor.isSpace x = false ∧ x ≠ ',' ∧ x ≠ ']' ∧ x ≠ '\x7d'

theorem opens_of_digit {d : Char} (h : d.isDigit = true) (s : List Char) : Opens (d :: s) := by
  refine ⟨d, s, rfl, ?_, ?_, ?_, ?_⟩
  · by_contra hspace
    simp only [Cursor.isSpace, Bool.or_eq_true, beq_iff_eq, Bool.not_eq_false] at hspace
    rcases hspace with ((rfl | rfl) | rfl) | rfl <;> revert h <;> decide
  all_goals
    rintro rfl
    revert h
    decide

/-- A numeral begins with a digit, or with a minus sign. -/
theorem IsNumeral.exists_cons {t : List Char} {n : Number} (h : IsNumeral t n) :
    ∃ x u, t = x :: u ∧ (x = '-' ∨ x.isDigit = true) := by
  cases h with
  | positive h =>
      cases t with
      | nil => exact absurd h (number_nil_ne_ok _ _ _ _)
      | cons d t => exact ⟨d, t, rfl, .inr (isDigit_of_number h)⟩
  | negative h => exact ⟨'-', _, rfl, .inl rfl⟩

theorem opens_of_isNumeral {t : List Char} {n : Number} (h : IsNumeral t n) : Opens t := by
  obtain ⟨x, u, rfl, rfl | hdigit⟩ := h.exists_cons
  · exact ⟨'-', u, rfl, by decide⟩
  · exact opens_of_digit hdigit u

theorem opens_of_isString {t : List Char} {text : String} (h : IsString t text) : Opens t := by
  obtain ⟨body, rfl, -⟩ := h
  exact ⟨'"', _, rfl, by decide⟩

theorem opens_of_isText {depth : Nat} {t : List Char} {v : Value} (h : IsText depth t v) :
    Opens t := by
  have plain (hplain : IsPlain t v) : Opens t := by
    cases hplain with
    | null => exact ⟨'n', _, rfl, by decide⟩
    | yes => exact ⟨'t', _, rfl, by decide⟩
    | no => exact ⟨'f', _, rfl, by decide⟩
    | number hnumeral => exact opens_of_isNumeral hnumeral
    | string hstring => exact opens_of_isString hstring
  cases depth with
  | zero => exact plain h
  | succ depth =>
      rcases h with hplain | hnested
      · exact plain hplain
      · cases hnested with
        | array _ => exact ⟨'[', _, rfl, by decide⟩
        | object _ => exact ⟨'\x7b', _, rfl, by decide⟩

theorem Opens.noSpace {t : List Char} (h : Opens t) (rest : List Char) : NoSpace (t ++ rest) := by
  obtain ⟨x, u, rfl, hx, -⟩ := h
  exact noSpace_cons hx _

theorem Opens.append {t : List Char} (h : Opens t) (rest : List Char) : Opens (t ++ rest) := by
  obtain ⟨x, u, rfl, hx⟩ := h
  exact ⟨x, u ++ rest, rfl, hx⟩

/-- What is no part of a numeral ends it. -/
theorem endsNumeral_cons {x : Char} (h : x.isDigit = false ∧ x ≠ '.' ∧ x ≠ 'e' ∧ x ≠ 'E')
    (s : List Char) : EndsNumeral (x :: s) := by
  rintro y ⟨⟩
  exact h

theorem endsNumeral_of_isSpace {x : Char} (h : Cursor.isSpace x = true) (s : List Char) :
    EndsNumeral (x :: s) := by
  refine endsNumeral_cons ?_ s
  simp only [Cursor.isSpace, Bool.or_eq_true, beq_iff_eq] at h
  rcases h with ((rfl | rfl) | rfl) | rfl <;> decide

theorem endsNumeral_append {ws s : List Char} (hws : IsSpaces ws) (hs : EndsNumeral s) :
    EndsNumeral (ws ++ s) := by
  cases ws with
  | nil => exact hs
  | cons x ws => exact endsNumeral_of_isSpace (hws x (by simp)) _

/-- What stands behind an item does not continue a numeral. -/
theorem Listed.endsNumeral {closing : Char} {kind : List Char → α → Prop} {s : List Char}
    {as : List α} (h : Listed closing kind false s as)
    (hclosing : closing.isDigit = false ∧ closing ≠ '.' ∧ closing ≠ 'e' ∧ closing ≠ 'E')
    (rest : List Char) : EndsNumeral (s ++ rest) := by
  cases h with
  | close hws =>
      rw [List.append_assoc]
      exact endsNumeral_append hws (endsNumeral_cons hclosing _)
  | next hws _ _ _ =>
      rw [List.append_assoc]
      exact endsNumeral_append hws (endsNumeral_cons (by decide) _)

/-- Each item takes a character at least. -/
theorem Listed.length_lt {closing : Char} {kind : List Char → α → Prop} {first : Bool}
    {s : List Char} {as : List α} (hkind : ∀ t a, kind t a → Opens t)
    (h : Listed closing kind first s as) : as.length < s.length := by
  induction h with
  | close _ => simp
  | first _ ht _ ih =>
      obtain ⟨x, u, rfl, -⟩ := hkind _ _ ht
      simp only [List.length_append, List.length_cons]
      omega
  | next _ _ ht _ ih =>
      obtain ⟨x, u, rfl, -⟩ := hkind _ _ ht
      simp only [List.length_append, List.length_cons]
      omega

section Writing

variable {reader : Cursor → Result α} {kind : List Char → α → Prop}

/-- The closing bracket ends the items. -/
theorem nextItem_close {ws : List Char} (hws : IsSpaces ws) (first : Bool) (rest : List Char)
    (p : Position) : nextItem first ⟨ws ++ ']' :: rest, p⟩ = .ok none := by
  obtain ⟨p', hskip⟩ := skipSpaces_append hws (noSpace_cons (c := ']') (by decide) rest) p
  simp only [nextItem, hskip]

theorem closeList_close {ws : List Char} (hws : IsSpaces ws) (rest : List Char) (p : Position) :
    ∃ p', closeList ⟨ws ++ ']' :: rest, p⟩ = .ok ⟨rest, p'⟩ := by
  obtain ⟨p', hskip⟩ := skipSpaces_append hws (noSpace_cons (c := ']') (by decide) rest) p
  refine ⟨p'.afterAll [']'], ?_⟩
  simp only [closeList, hskip]
  rfl

/-- The first item follows its blanks. -/
theorem nextItem_first {ws t : List Char} (hws : IsSpaces ws) (ht : Opens t) (rest : List Char)
    (p : Position) : ∃ p', nextItem true ⟨ws ++ (t ++ rest), p⟩ = .ok (some ⟨t ++ rest, p'⟩) := by
  obtain ⟨p', hskip⟩ := skipSpaces_append hws (ht.noSpace rest) p
  obtain ⟨x, u, rfl, -, -, hclose, -⟩ := ht
  refine ⟨p', ?_⟩
  simp only [nextItem, hskip]
  simp

/-- Another item follows a comma. -/
theorem nextItem_next {ws ws' t : List Char} (hws : IsSpaces ws) (hws' : IsSpaces ws')
    (ht : Opens t) (rest : List Char) (p : Position) :
    ∃ p', nextItem false ⟨ws ++ ',' :: (ws' ++ (t ++ rest)), p⟩ = .ok (some ⟨t ++ rest, p'⟩) := by
  obtain ⟨p₁, hskip⟩ := skipSpaces_append hws
    (noSpace_cons (c := ',') (by decide) (ws' ++ (t ++ rest))) p
  obtain ⟨p₂, hskip'⟩ := skipSpaces_append hws' (ht.noSpace rest) (p₁.afterAll [','])
  obtain ⟨x, u, rfl, -, -, hclose, -⟩ := ht
  refine ⟨p₂, ?_⟩
  simp only [nextItem, hskip, skip_cons, hskip']
  simp [hclose]

/-- A listing is read as its items, whatever follows it. -/
theorem items_of_listed (hreads : ∀ t a, kind t a → GivesBefore EndsNumeral reader t a)
    (hopens : ∀ t a, kind t a → Opens t) {first : Bool} {s : List Char} {as : List α}
    (h : Listed ']' kind first s as) (rest : List Char) (p : Position) {steps : Nat}
    (hsteps : as.length < steps) :
    ∃ p', items reader first ⟨s ++ rest, p⟩ steps = .ok (as, ⟨rest, p'⟩) := by
  induction h generalizing p steps with
  | @close first ws hws =>
      obtain ⟨steps, rfl⟩ := Nat.exists_eq_add_one.2 (Nat.zero_lt_of_lt hsteps)
      obtain ⟨p', hclose⟩ := closeList_close hws rest p
      refine ⟨p', ?_⟩
      rw [List.append_assoc, List.singleton_append, items, nextItem_close hws]
      simp only [hclose]
      rfl
  | @first ws t s a as hws ht hlisted ih =>
      obtain ⟨steps, rfl⟩ := Nat.exists_eq_add_one.2 (Nat.zero_lt_of_lt hsteps)
      obtain ⟨p₁, hnext⟩ := nextItem_first hws (hopens t a ht) (s ++ rest) p
      obtain ⟨p₂, hitem⟩ := hreads t a ht p₁ (s ++ rest) (hlisted.endsNumeral (by decide) rest)
      obtain ⟨p₃, hothers⟩ := ih p₂ (Nat.lt_of_succ_lt_succ hsteps)
      refine ⟨p₃, items_succ_eq_ok_iff.2 (.inr ⟨_, a, _, as, ?_, hitem, hothers, rfl⟩)⟩
      rw [List.append_assoc, List.append_assoc]
      exact hnext
  | @next ws ws' t s a as hws hws' ht hlisted ih =>
      obtain ⟨steps, rfl⟩ := Nat.exists_eq_add_one.2 (Nat.zero_lt_of_lt hsteps)
      obtain ⟨p₁, hnext⟩ := nextItem_next hws hws' (hopens t a ht) (s ++ rest) p
      obtain ⟨p₂, hitem⟩ := hreads t a ht p₁ (s ++ rest) (hlisted.endsNumeral (by decide) rest)
      obtain ⟨p₃, hothers⟩ := ih p₂ (Nat.lt_of_succ_lt_succ hsteps)
      refine ⟨p₃, items_succ_eq_ok_iff.2 (.inr ⟨_, a, _, as, ?_, hitem, hothers, rfl⟩)⟩
      rw [List.append_assoc, List.cons_append, List.append_assoc, List.append_assoc]
      exact hnext

/-- The closing brace ends the members. -/
theorem nextMember_close {ws : List Char} (hws : IsSpaces ws) (first : Bool) (rest : List Char)
    (p : Position) :
    ∃ p', nextMember first ⟨ws ++ '\x7d' :: rest, p⟩ = .ok none ∧
      (⟨ws ++ '\x7d' :: rest, p⟩ : Cursor).skipSpaces.skip 1 = ⟨rest, p'⟩ := by
  obtain ⟨p', hskip⟩ := skipSpaces_append hws (noSpace_cons (c := '\x7d') (by decide) rest) p
  refine ⟨p'.afterAll ['\x7d'], ?_, ?_⟩
  · simp only [nextMember, hskip]
  · rw [hskip]
    rfl

/-- The first name follows its blanks. -/
theorem nextMember_opening {ws : List Char} (hws : IsSpaces ws) (rest : List Char) (p : Position) :
    ∃ p', nextMember true ⟨ws ++ '"' :: rest, p⟩ = .ok (some ⟨'"' :: rest, p'⟩) := by
  obtain ⟨p', hskip⟩ := skipSpaces_append hws (noSpace_cons (c := '"') (by decide) rest) p
  refine ⟨p', ?_⟩
  simp only [nextMember, hskip]
  rfl

/-- Another name follows a comma. -/
theorem nextMember_next {ws ws' : List Char} (hws : IsSpaces ws) (hws' : IsSpaces ws')
    (rest : List Char) (p : Position) :
    ∃ p', nextMember false ⟨ws ++ ',' :: (ws' ++ '"' :: rest), p⟩ =
      .ok (some ⟨'"' :: rest, p'⟩) := by
  obtain ⟨p₁, hskip⟩ := skipSpaces_append hws
    (noSpace_cons (c := ',') (by decide) (ws' ++ '"' :: rest)) p
  obtain ⟨p₂, hskip'⟩ := skipSpaces_append hws'
    (noSpace_cons (c := '"') (by decide) rest) (p₁.afterAll [','])
  refine ⟨p₂, ?_⟩
  simp only [nextMember, hskip, skip_cons, hskip']
  rfl

theorem colon_append {ws : List Char} (hws : IsSpaces ws) (rest : List Char) (p : Position) :
    ∃ p', colon ⟨ws ++ ':' :: rest, p⟩ = .ok ⟨rest, p'⟩ := by
  obtain ⟨p', hskip⟩ := skipSpaces_append hws (noSpace_cons (c := ':') (by decide) rest) p
  refine ⟨p'.afterAll [':'], ?_⟩
  simp only [colon, hskip]
  rfl

/-- Behind blanks that have been skipped there are no others. -/
theorem skipSpaces_skipSpaces (c : Cursor) : c.skipSpaces.skipSpaces = c.skipSpaces := by
  obtain ⟨-, -, -, hno⟩ := exists_skipSpaces c
  generalize c.skipSpaces = d at hno
  obtain ⟨rest, p⟩ := d
  cases rest with
  | nil => rfl
  | cons x rest => exact skipSpaces_cons (hno x rfl) rest p

/-- Blanks in front of a value make no difference. -/
theorem value_skipSpaces (depth : Nat) (c : Cursor) : value depth c.skipSpaces = value depth c := by
  rw [value.eq_def, value.eq_def depth c, skipSpaces_skipSpaces]

theorem givesBefore_of_spaces {depth : Nat} {ws t : List Char} {v : Value}
    {follows : List Char → Prop} (hws : IsSpaces ws) (ht : Opens t)
    (h : GivesBefore follows (value depth) t v) :
    GivesBefore follows (value depth) (ws ++ t) v := by
  intro p rest hrest
  obtain ⟨p₁, hskip⟩ := skipSpaces_append hws (ht.noSpace rest) p
  obtain ⟨p₂, hread⟩ := h p₁ rest hrest
  refine ⟨p₂, ?_⟩
  rw [← value_skipSpaces, List.append_assoc, hskip, hread]

/-- A member begins with the quote of its name. -/
theorem IsMember.exists_cons {kind : List Char → α → Prop} {t : List Char} {m : String × α}
    (h : IsMember kind t m) : ∃ u, t = '"' :: u := by
  obtain ⟨⟨body, rfl, -⟩, -, -, -⟩ := h
  exact ⟨_, rfl⟩

theorem IsMember.opens {kind : List Char → α → Prop} {t : List Char} {m : String × α}
    (h : IsMember kind t m) : Opens t := by
  obtain ⟨u, rfl⟩ := h.exists_cons
  exact ⟨'"', u, rfl, by decide⟩

/-- What stands behind a name, the colon and a value of a kind, is read by this reader. -/
def ReadsBehind (kind : List Char → α → Prop) (reader : Cursor → Result σ) (a : α) (gathered : σ) :
    Prop :=
  ∀ ⦃ws ws' u⦄, IsSpaces ws → IsSpaces ws' → kind u a →
    GivesBefore EndsNumeral reader (ws ++ ':' :: (ws' ++ u)) gathered

/-- Members of a kind are read one after the other, and what has been gathered changes with each of
them. -/
inductive ReadsMembers (kind : List Char → α → Prop) (member : String → σ → Cursor → Result σ) :
    σ → List (String × α) → σ → Prop
  | nil {gathered : σ} : ReadsMembers kind member gathered [] gathered
  | cons {gathered gathered' gathered'' : σ} {name : String} {a : α} {ms : List (String × α)} :
      ReadsBehind kind (member name gathered) a gathered' →
      ReadsMembers kind member gathered' ms gathered'' →
      ReadsMembers kind member gathered ((name, a) :: ms) gathered''

/-- The members of a value join each other. -/
theorem readsMembers_valueMember {depth : Nat} {kind : List Char → Value → Prop}
    (hreads : ∀ t v, kind t v → GivesBefore EndsNumeral (value depth) t v)
    (hopens : ∀ t v, kind t v → Opens t) (gathered ms : List (String × Value)) :
    ReadsMembers kind (valueMember depth) gathered ms (gather gathered ms) := by
  induction ms generalizing gathered with
  | nil => exact .nil
  | cons m ms ih =>
      refine .cons ?_ (ih _)
      intro ws ws' u hws hws' hu p rest hrest
      obtain ⟨p₁, hcolon⟩ := colon_append hws (ws' ++ u ++ rest) p
      obtain ⟨p₂, hvalue⟩ := givesBefore_of_spaces hws' (hopens u m.2 hu) (hreads u m.2 hu) p₁ rest
        hrest
      refine ⟨p₂, ?_⟩
      rw [List.append_assoc, List.cons_append]
      simp only [valueMember, hcolon, hvalue, Except.map]

section Members

variable {member : String → σ → Cursor → Result σ}

/-- A member that comes next is read. -/
theorem members_of_next {t : List Char} {m : String × α} {first : Bool} {gathered gathered' : σ}
    {c : Cursor} {rest : List Char} {p : Position} (h : IsMember kind t m)
    (hread : ReadsBehind kind (member m.1 gathered) m.2 gathered') (hrest : EndsNumeral rest)
    (hnext : nextMember first c = .ok (some ⟨t ++ rest, p⟩)) (steps : Nat) :
    ∃ p', members member first gathered c (steps + 1) =
      members member false gathered' ⟨rest, p'⟩ steps := by
  obtain ⟨hname, hws, hws', hv⟩ := h
  rename_i key ws ws' text name a
  obtain ⟨k, rfl, hkey⟩ := gives_string_of_isString hname
  obtain ⟨p₁, hstring⟩ := hkey (p.afterAll ['"']) (ws ++ ':' :: (ws' ++ text) ++ rest)
  obtain ⟨p₂, hmember⟩ := hread hws hws' hv p₁ rest hrest
  have hskip : (⟨'"' :: k ++ (ws ++ ':' :: (ws' ++ text)) ++ rest, p⟩ : Cursor).skip 1 =
      ⟨k ++ (ws ++ ':' :: (ws' ++ text) ++ rest), p.afterAll ['"']⟩ := by
    simp [Cursor.skip]
  exact ⟨p₂, members_of_nextMember hnext (by rw [hskip, hstring]) hmember steps⟩

/-- A listing of members is read as these members, whatever follows it. -/
theorem members_of_listed {first : Bool} {s : List Char} {ms : List (String × α)}
    {gathered gathered' : σ} (h : Listed '\x7d' (IsMember kind) first s ms)
    (hreads : ReadsMembers kind member gathered ms gathered') (rest : List Char) (p : Position)
    {steps : Nat} (hsteps : ms.length < steps) :
    ∃ p', members member first gathered ⟨s ++ rest, p⟩ steps = .ok (gathered', ⟨rest, p'⟩) := by
  induction h generalizing gathered p steps with
  | @close first ws hws =>
      obtain ⟨steps, rfl⟩ := Nat.exists_eq_add_one.2 (Nat.zero_lt_of_lt hsteps)
      obtain ⟨p', hnone, hskip⟩ := nextMember_close hws first rest p
      cases hreads
      refine ⟨p', ?_⟩
      rw [List.append_assoc, List.singleton_append, members, hnone]
      simp only [hskip]
  | @first ws t s m ms hws ht hlisted ih =>
      obtain ⟨steps, rfl⟩ := Nat.exists_eq_add_one.2 (Nat.zero_lt_of_lt hsteps)
      obtain ⟨u, rfl⟩ := ht.exists_cons
      obtain ⟨p₁, hnext⟩ := nextMember_opening hws (u ++ (s ++ rest)) p
      cases hreads with
      | cons hread hreads =>
          obtain ⟨p₂, hfirst⟩ := members_of_next ht hread (hlisted.endsNumeral (by decide) rest)
            hnext steps
          obtain ⟨p₃, hothers⟩ := ih hreads p₂ (Nat.lt_of_succ_lt_succ hsteps)
          refine ⟨p₃, ?_⟩
          rw [List.append_assoc, List.append_assoc, List.cons_append, hfirst, hothers]
  | @next ws ws' t s m ms hws hws' ht hlisted ih =>
      obtain ⟨steps, rfl⟩ := Nat.exists_eq_add_one.2 (Nat.zero_lt_of_lt hsteps)
      obtain ⟨u, rfl⟩ := ht.exists_cons
      obtain ⟨p₁, hnext⟩ := nextMember_next hws hws' (u ++ (s ++ rest)) p
      cases hreads with
      | cons hread hreads =>
          obtain ⟨p₂, hfirst⟩ := members_of_next ht hread (hlisted.endsNumeral (by decide) rest)
            hnext steps
          obtain ⟨p₃, hothers⟩ := ih hreads p₂ (Nat.lt_of_succ_lt_succ hsteps)
          refine ⟨p₃, ?_⟩
          rw [List.append_assoc, List.cons_append, List.append_assoc, List.append_assoc,
            List.cons_append, hfirst, hothers]

end Members

end Writing

/-- What begins with a digit is read as a number. -/
theorem value_digit {depth : Nat} {d : Char} (h : d.isDigit = true) (s : List Char) (p : Position) :
    value depth ⟨d :: s, p⟩ = (number true ⟨d :: s, p⟩).map fun (n, c) => (.number n, c) := by
  obtain ⟨x, u, heq, hspace, -⟩ := opens_of_digit h s
  obtain ⟨rfl, rfl⟩ := List.cons.inj heq
  rw [value.eq_def]
  dsimp only
  rw [skipSpaces_cons hspace]
  split <;> rename_i hrest
  case h_1 => cases hrest
  case h_9 =>
    obtain ⟨rfl, rfl⟩ := List.cons.inj hrest
    rw [if_pos h]
  all_goals
    cases hrest
    exact absurd h (by decide)

/-- A plain value is read, if what follows does not continue it. -/
theorem givesBefore_of_isPlain {t : List Char} {v : Value} (h : IsPlain t v) (depth : Nat) :
    GivesBefore (Follows v) (value depth) t v := by
  intro p rest hrest
  have hword (x : Char) (letters : List Char) (u : Value)
      (hopened : value depth ⟨x :: (letters ++ rest), p⟩ =
        (word letters ⟨letters ++ rest, p.afterAll [x]⟩).map fun d => (u, d)) :
      ∃ p', value depth ⟨x :: (letters ++ rest), p⟩ = .ok (u, ⟨rest, p'⟩) := by
    obtain ⟨p', hletters⟩ := word_append letters rest (p.afterAll [x])
    exact ⟨p', by rw [hopened, hletters]; rfl⟩
  cases h with
  | null => exact hword 'n' "ull".toList .null (by rw [value.eq_def]; rfl)
  | yes => exact hword 't' "rue".toList (.bool true) (by rw [value.eq_def]; rfl)
  | no => exact hword 'f' "alse".toList (.bool false) (by rw [value.eq_def]; rfl)
  | @number t n hnumeral =>
      have hends : EndsNumeral rest := hrest n rfl
      cases hnumeral with
      | positive hread =>
          rcases t with _ | ⟨d, t⟩
          · exact absurd hread (number_nil_ne_ok _ _ _ _)
          obtain ⟨p', hnumber⟩ := givesBefore_number hread p rest hends
          refine ⟨p', ?_⟩
          rw [List.cons_append] at hnumber ⊢
          rw [value_digit (isDigit_of_number hread), hnumber]
          rfl
      | @negative t _ _ _ hread =>
          obtain ⟨p', hnumber⟩ := givesBefore_number hread (p.afterAll ['-']) rest hends
          refine ⟨p', ?_⟩
          rw [List.cons_append, value.eq_def]
          simp only [skipSpaces_cons (c := '-') (by decide), skip_cons, hnumber]
          rfl
  | @string t s hstring =>
      obtain ⟨u, rfl, hgives⟩ := gives_string_of_isString hstring
      obtain ⟨p', hread⟩ := hgives (p.afterAll ['"']) rest
      refine ⟨p', ?_⟩
      rw [List.cons_append, value.eq_def]
      simp only [skipSpaces_cons (c := '"') (by decide), skip_cons, hread]
      rfl

theorem value_bracket (depth : Nat) (s : List Char) (p : Position) :
    value (depth + 1) ⟨'[' :: s, p⟩ =
      (items (value depth) true ⟨s, p.afterAll ['[']⟩ (s.length + 2)).map
        fun read => (.array read.1, read.2) := by
  rw [value.eq_def]
  simp only [skipSpaces_cons (c := '[') (by decide)]
  rfl

theorem value_brace (depth : Nat) (s : List Char) (p : Position) :
    value (depth + 1) ⟨'\x7b' :: s, p⟩ =
      (members (valueMember depth) true [] ⟨s, p.afterAll ['\x7b']⟩ (s.length + 2)).map
        fun read => (.object read.1, read.2) := by
  rw [value.eq_def]
  simp only [skipSpaces_cons (c := '\x7b') (by decide)]
  rfl

/-- A text is read as the value that it stands for, if what follows does not continue it. -/
theorem givesBefore_of_isText {depth : Nat} {t : List Char} {v : Value} (h : IsText depth t v) :
    GivesBefore (Follows v) (value depth) t v := by
  induction depth generalizing t v with
  | zero => exact givesBefore_of_isPlain h 0
  | succ depth ih =>
      have hreads (u : List Char) (x : Value) (hu : IsText depth u x) :
          GivesBefore EndsNumeral (value depth) u x :=
        fun p rest hrest => ih hu p rest fun _ _ => hrest
      have hopens (u : List Char) (x : Value) (hu : IsText depth u x) : Opens u :=
        opens_of_isText hu
      rcases h with hplain | hnested
      · exact givesBefore_of_isPlain hplain (depth + 1)
      · intro p rest _
        cases hnested with
        | @array s vs hlisted =>
            have hlength := hlisted.length_lt hopens
            obtain ⟨p', hitems⟩ := items_of_listed hreads hopens hlisted rest (p.afterAll ['['])
              (show vs.length < (s ++ rest).length + 2 by rw [List.length_append]; omega)
            exact ⟨p', by rw [List.cons_append, value_bracket, hitems]; rfl⟩
        | @object s ms hlisted =>
            have hlength := hlisted.length_lt fun _ _ hm => hm.opens
            obtain ⟨p', hread⟩ := members_of_listed hlisted
              (readsMembers_valueMember hreads hopens [] ms) rest (p.afterAll ['\x7b'])
              (show ms.length < (s ++ rest).length + 2 by rw [List.length_append]; omega)
            exact ⟨p', by rw [List.cons_append, value_brace, hread]; rfl⟩

/-! ## Strings that are expected -/

theorem takes_anyText : Takes anyText (Spaced IsString) := by
  intro s p text c h
  obtain ⟨t, hs, ws, u, rfl, hws, hu⟩ := takes_value 0 ((readsShape_anyText 0 _ _ _).1 h)
  cases hu with
  | string hstring => exact ⟨_, hs, ws, u, rfl, hws, hstring⟩

theorem givesBefore_anyText {ws t : List Char} {text : String} (hws : IsSpaces ws)
    (h : IsString t text) : GivesBefore EndsNumeral anyText (ws ++ t) text := by
  have opens : Opens t := opens_of_isString h
  intro p rest _
  have follows : Follows (.string text) rest := follows_of_ne_number (by simp) rest
  obtain ⟨p', hread⟩ :=
    givesBefore_of_spaces hws opens (givesBefore_of_isPlain (.string h) 0) p rest follows
  exact ⟨p', (readsShape_anyText 0 _ _ _).2 hread⟩

/-! ## Whole texts -/

/-- A text is read as a value exactly if it stands for the value, blanks around it apart. -/
theorem parse_eq_ok_iff {s : String} {v : Value} :
    parse s = .ok v ↔
      ∃ ws t ws', s.toList = ws ++ (t ++ ws') ∧ IsSpaces ws ∧ IsSpaces ws' ∧
        IsText depthLimit t v := by
  rw [parse, readAll_eq_ok_iff]
  constructor
  · rintro ⟨c, hread, hend⟩
    obtain ⟨u, hs, ws, t, rfl, hws, ht⟩ := takes_value depthLimit hread
    exact ⟨ws, t, c.rest, by rw [← List.append_assoc]; exact hs, hws,
      isSpaces_of_rest_skipSpaces hend, ht⟩
  · rintro ⟨ws, t, ws', hs, hws, hws', ht⟩
    have hfollows : Follows v ws' := by
      intro n _
      have hends := endsNumeral_append hws' endsNumeral_nil
      rwa [List.append_nil] at hends
    obtain ⟨p', hread⟩ := givesBefore_of_spaces hws (opens_of_isText ht) (givesBefore_of_isText ht)
      .start ws' hfollows
    refine ⟨⟨ws', p'⟩, ?_, rest_skipSpaces_of_isSpaces hws'⟩
    rw [← hread, Cursor.ofString, hs, List.append_assoc]

/-- A whole text that is a list of items of a kind, with blanks around it. -/
def IsWholeList (kind : List Char → α → Prop) (s : String) (as : List α) : Prop :=
  ∃ ws u ws', s.toList = ws ++ '[' :: (u ++ ws') ∧ IsSpaces ws ∧ IsSpaces ws' ∧
    Listed ']' kind true u as

/-- A whole text is read as a list exactly if it is one, for a reader that takes the items of a kind
and reads each of them. -/
theorem readAll_list_eq_ok_iff {reader : Cursor → Result α} {kind : List Char → α → Prop}
    (takes : Takes reader (Spaced kind))
    (gives : ∀ t a, kind t a → GivesBefore EndsNumeral reader t a)
    (opens : ∀ t a, kind t a → Opens t) {s : String} {as : List α} :
    readAll (list reader) s = .ok as ↔ IsWholeList kind s as := by
  rw [readAll_eq_ok_iff]
  constructor
  · rintro ⟨c, hread, hend⟩
    obtain ⟨ws, hws, hs, -⟩ := exists_skipSpaces (.ofString s)
    rw [list] at hread
    split at hread
    · rename_i u hopen
      obtain ⟨x, hx, hlisted⟩ := listed_of_items takes hread
      rw [rest_skip_one hopen] at hx
      obtain rfl : u = x ++ c.rest := hx
      refine ⟨ws, x, c.rest, ?_, hws, isSpaces_of_rest_skipSpaces hend, hlisted⟩
      rw [← hopen]
      exact hs
    · exact absurd hread (unexpected_ne_ok _ _ _)
  · rintro ⟨ws, u, ws', hs, hws, hws', hlisted⟩
    obtain ⟨p₁, hskip⟩ := skipSpaces_append hws (noSpace_cons (c := '[') (by decide) (u ++ ws'))
      .start
    have hlength := hlisted.length_lt opens
    obtain ⟨p₂, hread⟩ := items_of_listed gives opens hlisted ws' (p₁.afterAll ['['])
      (show as.length < (u ++ ws').length + 2 by rw [List.length_append]; omega)
    refine ⟨⟨ws', p₂⟩, ?_, rest_skipSpaces_of_isSpaces hws'⟩
    rw [Cursor.ofString, hs, list]
    simp only [hskip]
    exact hread

/-- A text that stands for no number stands for nothing else, whatever is written behind it. -/
theorem eq_of_parse_append {s t : String} {v v' : Value} (h : parse s = .ok v)
    (hplain : ∀ n, v ≠ .number n) (h' : parse (s ++ t) = .ok v') : v = v' := by
  obtain ⟨ws, u, ws', hs, hws, -, hu⟩ := parse_eq_ok_iff.1 h
  obtain ⟨p', hread⟩ := givesBefore_of_spaces hws (opens_of_isText hu) (givesBefore_of_isText hu)
    .start (ws' ++ t.toList) (follows_of_ne_number hplain _)
  obtain ⟨c, hread', -⟩ := readAll_eq_ok_iff.1 h'
  have hsame : Cursor.ofString (s ++ t) = ⟨ws ++ u ++ (ws' ++ t.toList), .start⟩ := by
    rw [Cursor.ofString, String.toList_append, hs]
    simp
  rw [hsame, hread] at hread'
  exact (Prod.mk.inj (Except.ok.inj hread')).1

end SqlppBench.Json
