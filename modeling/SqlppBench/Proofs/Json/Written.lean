import Mathlib.Data.List.Forall2
import SqlppBench.Proofs.Json.Grammar
import SqlppBench.Proofs.Text.Numeral

/-! # Values as they are written

A text is written for a value if it tells the members of every object as they stand there, in their
order and with all that is said twice (`IsWritten`); the value of the text as it is read may forget
some of that (`IsWritten.isText`). Both layouts in which values are printed are such texts, if all
numbers are natural and below the bound to which they are read exactly (`isWritten_compact`,
`isWritten_prettyAt`).
-/

namespace SqlppBench.Json

variable {α β : Type}

/-- The texts of a list and of an object, the members of which are kept as they stand. -/
inductive IsKept (kind : List Char → Value → Prop) : List Char → Value → Prop
  | array {s : List Char} {vs : List Value} : Listed ']' kind true s vs →
      IsKept kind ('[' :: s) (.array vs)
  | object {s : List Char} {ms : List (String × Value)} :
      Listed '\x7d' (IsMember kind) true s ms → IsKept kind ('\x7b' :: s) (.object ms)

/-- The texts that are written for a value that nests no deeper than given. -/
def IsWritten : Nat → List Char → Value → Prop
  | 0 => IsPlain
  | depth + 1 => fun t v => IsPlain t v ∨ IsKept (IsWritten depth) t v

/-! ## What is written is read -/

/-- A listing of one kind of items is one of another kind, if the items are. -/
theorem Listed.exists_of_forall {closing : Char} {kind : List Char → α → Prop}
    {kind' : List Char → β → Prop} (hkind : ∀ t a, kind t a → ∃ b, kind' t b) {first : Bool}
    {s : List Char} {as : List α} (h : Listed closing kind first s as) :
    ∃ bs, Listed closing kind' first s bs := by
  induction h with
  | close hws => exact ⟨[], .close hws⟩
  | first hws ht _ ih =>
      obtain ⟨b, hb⟩ := hkind _ _ ht
      obtain ⟨bs, hbs⟩ := ih
      exact ⟨b :: bs, .first hws hb hbs⟩
  | next hws hws' ht _ ih =>
      obtain ⟨b, hb⟩ := hkind _ _ ht
      obtain ⟨bs, hbs⟩ := ih
      exact ⟨b :: bs, .next hws hws' hb hbs⟩

/-- What is written for a value is the text of a value. -/
theorem IsWritten.isText {depth : Nat} {t : List Char} {v : Value} (h : IsWritten depth t v) :
    ∃ v', IsText depth t v' := by
  induction depth generalizing t v with
  | zero => exact ⟨v, h⟩
  | succ depth ih =>
      rcases h with hplain | hkept
      · exact ⟨v, .inl hplain⟩
      cases hkept with
      | array hlisted =>
          obtain ⟨vs, hvs⟩ := hlisted.exists_of_forall fun _ _ ht => ih ht
          exact ⟨_, .inr (.array hvs)⟩
      | object hlisted =>
          have member (t : List Char) (m : String × Value) (h : IsMember (IsWritten depth) t m) :
              ∃ m', IsMember (IsText depth) t m' := by
            obtain ⟨hname, hws, hws', hv⟩ := h
            obtain ⟨v', hv'⟩ := ih hv
            exact ⟨_, .intro hname hws hws' hv'⟩
          obtain ⟨ms, hms⟩ := hlisted.exists_of_forall member
          exact ⟨_, .inr (.object hms)⟩

/-- A listing of items is one of the things that these are. -/
theorem Listed.of_forall₂ {closing : Char} {kind : List Char → α → Prop}
    {kind' : List Char → β → Prop} {R : α → β → Prop} {first : Bool} {s : List Char} {as : List α}
    {bs : List β} (h : Listed closing kind first s as) (hR : List.Forall₂ R as bs)
    (hkind : ∀ t a b, kind t a → R a b → kind' t b) : Listed closing kind' first s bs := by
  induction h generalizing bs with
  | close hws =>
      cases hR
      exact .close hws
  | first hws ht _ ih =>
      cases hR with
      | cons hab hR => exact .first hws (hkind _ _ _ ht hab) (ih hR)
  | next hws hws' ht _ ih =>
      cases hR with
      | cons hab hR => exact .next hws hws' (hkind _ _ _ ht hab) (ih hR)

theorem Listed.mono {closing : Char} {kind kind' : List Char → α → Prop} {first : Bool}
    {s : List Char} {as : List α} (h : Listed closing kind first s as)
    (hkind : ∀ t a, kind t a → kind' t a) : Listed closing kind' first s as := by
  refine h.of_forall₂ (R := Eq) (List.forall₂_same.2 fun _ _ => rfl) ?_
  rintro t a _ ht rfl
  exact hkind t a ht

theorem IsKept.mono {kind kind' : List Char → Value → Prop} {t : List Char} {v : Value}
    (h : IsKept kind t v) (hkind : ∀ t v, kind t v → kind' t v) : IsKept kind' t v := by
  cases h with
  | array hlisted => exact .array (hlisted.mono hkind)
  | object hlisted =>
      refine .object (hlisted.mono fun t m hm => ?_)
      obtain ⟨hname, hws, hws', hv⟩ := hm
      exact .intro hname hws hws' (hkind _ _ hv)

/-- What nests no deeper than given nests no deeper than one level more. -/
theorem IsWritten.succ {depth : Nat} {t : List Char} {v : Value} (h : IsWritten depth t v) :
    IsWritten (depth + 1) t v := by
  induction depth generalizing t v with
  | zero => exact .inl h
  | succ depth ih =>
      rcases h with hplain | hkept
      · exact .inl hplain
      · exact .inr (hkept.mono fun _ _ => ih)

/-- The texts that are written for a value, however deep it nests. -/
def IsTextFor (t : List Char) (v : Value) : Prop :=
  ∃ depth, IsWritten depth t v

/-- A text for a value is plain, or its members are kept in texts for them. -/
theorem IsTextFor.cases {t : List Char} {v : Value} (h : IsTextFor t v) :
    IsPlain t v ∨ IsKept IsTextFor t v := by
  obtain ⟨_ | depth, h⟩ := h
  · exact .inl h
  rcases h with hplain | hkept
  · exact .inl hplain
  · exact .inr (hkept.mono fun _ _ hu => ⟨depth, hu⟩)

theorem IsTextFor.opens {t : List Char} {v : Value} (h : IsTextFor t v) : Opens t := by
  obtain ⟨depth, h⟩ := h
  obtain ⟨v', hv'⟩ := h.isText
  exact opens_of_isText hv'

/-- A text that is written for a value, with blanks around it. -/
def IsDocument (s : String) (v : Value) : Prop :=
  ∃ ws t ws', s.toList = ws ++ (t ++ ws') ∧ IsSpaces ws ∧ IsSpaces ws' ∧ IsTextFor t v

/-! ## What is printed -/

/-- A string is printed as its text. -/
theorem isString_stringText (s : String) : IsString (stringText s).toList s := by
  obtain ⟨p, hread⟩ := gives_string s .start []
  obtain ⟨t, ht, hstring⟩ := isString_of_string hread
  have htext : (stringText s).toList = t := by
    rw [stringText, String.toList_ofList, stringChars]
    simpa using ht
  rwa [htext]

/-- A number is not less than its first digits. -/
theorem le_ofDigitChars (base : Nat) (hbase : 0 < base) (ds : List Char) (n : Nat) :
    n ≤ Nat.ofDigitChars base ds n := by
  induction ds generalizing n with
  | nil => exact Nat.le_refl n
  | cons d ds ih =>
      rw [Nat.ofDigitChars_cons]
      have hgrows : n ≤ base * n := Nat.le_mul_of_pos_left n hbase
      exact Nat.le_trans (Nat.le_trans hgrows (Nat.le_add_right _ _)) (ih _)

/-- The digits of a number below the bound all fit. -/
theorem absorb_of_lt {ds : List Char} {n : Nat} (h : Nat.ofDigitChars 10 ds n < wholeBound) :
    absorb n ds = (Nat.ofDigitChars 10 ds n, []) := by
  induction ds generalizing n with
  | nil => rfl
  | cons d ds ih =>
      rw [Nat.ofDigitChars_cons, Nat.mul_comm] at h ⊢
      have hnext : n * 10 + (d.toNat - 48) < wholeBound :=
        Nat.lt_of_le_of_lt (le_ofDigitChars 10 (by decide) ds _) h
      rw [absorb, if_pos hnext]
      exact ih h

/-- No numeral but that of zero begins with a zero. -/
theorem head?_toDigits_ne {n : Nat} (h : 0 < n) : (Nat.toDigits 10 n).head? ≠ some '0' := by
  induction n using Nat.strongRecOn with
  | ind n ih =>
      by_cases hsmall : n < 10
      · rw [Nat.toDigits_of_lt_base hsmall]
        have hall : ∀ m < 10, 0 < m → [Nat.digitChar m].head? ≠ some '0' := by decide
        exact hall n hsmall h
      · have hfirst := ih (n / 10) (by omega) (by omega)
        have hsplit := Nat.toDigits_append_toDigits (b := 10) (n := n / 10) (d := n % 10)
          (by decide) (by omega) (by omega)
        rw [Nat.div_add_mod] at hsplit
        rw [← hsplit, List.head?_append_of_ne_nil _ Nat.toDigits_ne_nil]
        exact hfirst

/-- A natural number below the bound is printed as its text. -/
theorem isNumeral_decimal {n : Nat} (h : n < wholeBound) :
    IsNumeral (Text.decimal n).toList (.whole n) := by
  have hvalue : Nat.ofDigitChars 10 (Nat.toDigits 10 n) 0 = n := Nat.ofDigitChars_ten_toDigits
  have habsorb : absorb 0 (Nat.toDigits 10 n) = (n, []) := by
    rw [absorb_of_lt (by rwa [hvalue]), hvalue]
  -- nothing is left behind the digits, so the number ends there
  have hends (p : Position) :
      numberFrom true (Nat.toDigits 10 n) ⟨[], p⟩ = .ok (.whole n, ⟨[], p⟩) := by
    rw [numberFrom_of_end (by simp), habsorb]
    rfl
  have hdigit := fun c => Text.isDigit_of_mem_decimal (n := n) (c := c)
  rw [Text.toList_decimal] at hdigit ⊢
  have hnone : NoDigit [] := by simp [NoDigit]
  obtain ⟨p', hread⟩ :
      ∃ p', number true ⟨Nat.toDigits 10 n, .start⟩ = .ok (.whole n, ⟨[], p'⟩) := by
    rcases Nat.eq_zero_or_pos n with rfl | hpos
    · exact ⟨_, (number_zero hnone _).trans (hends _)⟩
    have hfirst := head?_toDigits_ne hpos
    obtain ⟨p', hread⟩ := digits_append hdigit hnone .start
    rw [List.append_nil] at hread
    cases hds : Nat.toDigits 10 n with
    | nil => exact absurd hds Nat.toDigits_ne_nil
    | cons d ds =>
        rw [hds] at hdigit hfirst hread hends
        have hne : d ≠ '0' := by
          rintro rfl
          exact hfirst rfl
        refine ⟨p', ?_⟩
        rw [number_of_ne_zero (hdigit d (List.mem_cons_self ..)) hne, hread]
        exact hends p'
  exact .positive hread

/-- Values that hold no others and are told exactly by their texts. -/
inductive IsExact : Value → Prop
  | null : IsExact .null
  | bool (b : Bool) : IsExact (.bool b)
  | string (s : String) : IsExact (.string s)
  | natural {n : Nat} : n < wholeBound → IsExact (.number (.whole n))

/-- Values that nest no deeper than given and hold nothing that is not told exactly. -/
def Nests : Nat → Value → Prop
  | 0 => IsExact
  | depth + 1 => fun v => IsExact v ∨ (∃ vs, v = .array vs ∧ ∀ u ∈ vs, Nests depth u) ∨
      ∃ ms, v = .object ms ∧ ∀ m ∈ ms, Nests depth m.2

theorem isPlain_compact {v : Value} (h : IsExact v) : IsPlain v.compact.toList v := by
  cases h with
  | null => exact .null
  | bool b => cases b <;> constructor
  | string s => exact .string (isString_stringText s)
  | natural hbound => exact .number (isNumeral_decimal hbound)

/-- What holds no other values is printed the same way in both layouts. -/
theorem prettyAt_of_isExact {v : Value} (h : IsExact v) (indent : Nat) :
    v.prettyAt indent = v.compact := by
  cases h <;> rw [Value.prettyAt, Value.compact]

section Printing

variable {closing : Char} {kind : List Char → α → Prop} {before between after : List Char}
  {items : List String} {as : List α}

/-- Items behind commas are what follows a first item. -/
theorem listed_flatMap (hbetween : IsSpaces between) (hafter : IsSpaces after)
    (h : List.Forall₂ (fun item a => kind item.toList a) items as) :
    Listed closing kind false
      ((items.flatMap fun item => ',' :: (between ++ item.toList)) ++ (after ++ [closing])) as := by
  induction h with
  | nil => exact .close hafter
  | cons ht _ ih =>
      have hnext := Listed.next isSpaces_nil hbetween ht ih
      simpa using hnext

/-- Items with commas and blanks between them are a listing. -/
theorem listed_intercalate (hbefore : IsSpaces before) (hbetween : IsSpaces between)
    (hafter : IsSpaces after) (h : List.Forall₂ (fun item a => kind item.toList a) items as) :
    Listed closing kind true
      (before ++ ((String.ofList (',' :: between)).intercalate items).toList ++
        (after ++ [closing])) as := by
  cases h with
  | nil =>
      have hclose : Listed closing kind true _ [] := .close (hbefore.append hafter)
      simpa using hclose
  | cons ht hrest =>
      have hfirst : Listed closing kind true _ _ :=
        .first hbefore ht (listed_flatMap hbetween hafter hrest)
      rw [toList_intercalate_cons]
      simpa using hfirst

end Printing

theorem compactItems_eq (vs : List Value) : compactItems vs = vs.map Value.compact := by
  induction vs with
  | nil => rfl
  | cons v vs ih => rw [compactItems, ih, List.map_cons]

theorem compactMembers_eq (ms : List (String × Value)) :
    compactMembers ms = ms.map fun m => stringText m.1 ++ ":" ++ m.2.compact := by
  induction ms with
  | nil => rfl
  | cons m ms ih => rw [compactMembers, ih, List.map_cons]

theorem prettyItems_eq (indent : Nat) (vs : List Value) :
    prettyItems indent vs = vs.map (Value.prettyAt indent) := by
  induction vs with
  | nil => rfl
  | cons v vs ih => rw [prettyItems, ih, List.map_cons]

theorem prettyMembers_eq (indent : Nat) (ms : List (String × Value)) :
    prettyMembers indent ms = ms.map fun m => stringText m.1 ++ ": " ++ m.2.prettyAt indent := by
  induction ms with
  | nil => rfl
  | cons m ms ih => rw [prettyMembers, ih, List.map_cons]

/-- What is printed for some values is printed for the list of them. -/
theorem forall₂_map_self {texts : α → String} {kind : List Char → α → Prop} {as : List α}
    (h : ∀ a ∈ as, kind (texts a).toList a) :
    List.Forall₂ (fun item a => kind item.toList a) (as.map texts) as :=
  List.forall₂_map_left_iff.2 (List.forall₂_same.2 h)

section Layouts

variable (closing : Char) {kind : List Char → α → Prop} {texts : α → String} {as : List α}

/-- Items on one line are a listing. -/
theorem listed_joined (h : ∀ a ∈ as, kind (texts a).toList a) (opening : String) :
    ∃ s, (joined opening (String.singleton closing) (as.map texts)).toList = opening.toList ++ s ∧
      Listed closing kind true s as := by
  refine ⟨_, ?_, listed_intercalate isSpaces_nil isSpaces_nil isSpaces_nil (forall₂_map_self h)⟩
  simp [joined]

/-- Items on lines of their own are a listing. -/
theorem listed_stacked (h : ∀ a ∈ as, kind (texts a).toList a) (opening : String) (indent : Nat) :
    ∃ s, (stacked opening (String.singleton closing) indent (as.map texts)).toList =
        opening.toList ++ s ∧
      Listed closing kind true s as := by
  have blanks (n : Nat) : IsSpaces ('\n' :: List.replicate (2 * n) ' ') := by
    intro c hc
    rcases List.mem_cons.1 hc with rfl | hc
    · decide
    · rw [List.eq_of_mem_replicate hc]
      decide
  cases as with
  | nil => exact ⟨[closing], by simp [stacked], .close isSpaces_nil⟩
  | cons a as =>
      refine ⟨_, ?_, listed_intercalate (blanks (indent + 1)) (blanks (indent + 1)) (blanks indent)
        (forall₂_map_self h)⟩
      simp [stacked]

end Layouts

/-- A member is printed as its name, a colon, maybe blanks, and its value. -/
theorem isMember_print {kind : List Char → Value → Prop} {m : String × Value} {text : String}
    {ws : List Char} (hws : IsSpaces ws) (h : kind text.toList m.2) :
    IsMember kind (stringText m.1 ++ String.ofList (':' :: ws) ++ text).toList m := by
  have hmember : IsMember kind _ (m.1, m.2) := .intro (isString_stringText m.1) isSpaces_nil hws h
  simpa using hmember

/-- On one line a value is printed as it is written. -/
theorem isWritten_compact {depth : Nat} {v : Value} (h : Nests depth v) :
    IsWritten depth v.compact.toList v := by
  induction depth generalizing v with
  | zero => exact isPlain_compact h
  | succ depth ih =>
      rcases h with hexact | ⟨vs, rfl, hvs⟩ | ⟨ms, rfl, hms⟩
      · exact .inl (isPlain_compact hexact)
      · obtain ⟨s, hs, hlisted⟩ := listed_joined ']' (fun u hu => ih (hvs u hu)) "["
        rw [Value.compact, compactItems_eq]
        exact .inr (hs ▸ .array hlisted)
      · have hprint (m) (hm : m ∈ ms) := isMember_print (m := m) isSpaces_nil (ih (hms m hm))
        obtain ⟨s, hs, hlisted⟩ := listed_joined '\x7d' hprint "\x7b"
        rw [Value.compact, compactMembers_eq]
        exact .inr (hs ▸ .object hlisted)

/-- Over indented lines a value is printed as it is written. -/
theorem isWritten_prettyAt {depth : Nat} {v : Value} (h : Nests depth v) (indent : Nat) :
    IsWritten depth (v.prettyAt indent).toList v := by
  induction depth generalizing v indent with
  | zero =>
      rw [prettyAt_of_isExact h]
      exact isPlain_compact h
  | succ depth ih =>
      rcases h with hexact | ⟨vs, rfl, hvs⟩ | ⟨ms, rfl, hms⟩
      · rw [prettyAt_of_isExact hexact]
        exact .inl (isPlain_compact hexact)
      · obtain ⟨s, hs, hlisted⟩ := listed_stacked ']'
          (fun u hu => ih (hvs u hu) (indent + 1)) "[" indent
        rw [Value.prettyAt, prettyItems_eq]
        exact .inr (hs ▸ .array hlisted)
      · have blank : IsSpaces [' '] := by simp [IsSpaces, Cursor.isSpace]
        have hprint (m) (hm : m ∈ ms) := isMember_print (m := m) blank (ih (hms m hm) (indent + 1))
        obtain ⟨s, hs, hlisted⟩ := listed_stacked '\x7d' hprint "\x7b" indent
        rw [Value.prettyAt, prettyMembers_eq]
        exact .inr (hs ▸ .object hlisted)

/-- Both layouts of a value are documents for it. -/
theorem isDocument_compact {depth : Nat} {v : Value} (h : Nests depth v) :
    IsDocument v.compact v :=
  ⟨[], _, [], by simp, isSpaces_nil, isSpaces_nil, depth, isWritten_compact h⟩

theorem isDocument_pretty {depth : Nat} {v : Value} (h : Nests depth v) : IsDocument v.pretty v :=
  ⟨[], _, [], by simp [Value.pretty], isSpaces_nil, isSpaces_nil, depth, isWritten_prettyAt h 0⟩

end SqlppBench.Json
