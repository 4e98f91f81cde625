import SqlppBench.Proofs.Json.Written

/-! # Records as they are written

A reader of particular values takes whatever is written for such a value (`ReadsAs`), and a record
is read from its members in the order in which they stand, if each of them is (`ReadsAs.record`).
The other way round, what such a reader accepts is a value that ends where the reader stops
(`ReadsValues`), so that all members of an object that is read have been passed one by one
(`passes_of_members`).
-/

namespace SqlppBench.Json

variable {α σ : Type} {reader : Cursor → Result α} {depth : Nat}

/-! ## Plain values -/

/-- A flag is read exactly where a truth value is. -/
theorem readsShape_flag (depth : Nat) : ReadsShape flag .bool depth := by
  intro c b c'
  rw [flag]
  split
  · rename_i hrest
    rw [value.eq_def]
    simp [hrest, map_eq_ok_iff]
  · rename_i hrest
    rw [value.eq_def]
    simp [hrest, map_eq_ok_iff]
  · rename_i hyes hno
    refine iff_of_false (unexpected_ne_ok _ _ _) fun hread => ?_
    rcases value_eq_ok hread with ⟨t, ht, hplain⟩ | ⟨_, _, _, -, -, -, heq⟩ |
      ⟨_, _, _, -, -, -, heq⟩
    · cases hplain with
      | yes => exact hyes _ ht
      | no => exact hno _ ht
    · exact nomatch heq
    · exact nomatch heq

/-- A number begins with a digit, or with a minus sign. -/
theorem exists_of_value_eq_number {c c' : Cursor} {n : Number}
    (h : value depth c = .ok (.number n, c')) :
    ∃ x s, c.skipSpaces.rest = x :: s ∧ (x = '-' ∨ x.isDigit = true) := by
  rcases value_eq_ok h with ⟨t, ht, hplain⟩ | ⟨_, _, _, -, -, -, heq⟩ | ⟨_, _, _, -, -, -, heq⟩
  · cases hplain with
    | number hnumeral =>
        obtain ⟨x, u, rfl, hx⟩ := hnumeral.exists_cons
        exact ⟨x, _, ht, hx⟩
  · exact nomatch heq
  · exact nomatch heq

theorem value_of_digit {c : Cursor} {d : Char} {s : List Char} (hrest : c.skipSpaces.rest = d :: s)
    (h : d.isDigit = true) :
    value depth c = (number true c.skipSpaces).map fun read => (.number read.1, read.2) := by
  have hc : c.skipSpaces = ⟨d :: s, c.skipSpaces.position⟩ := by rw [← hrest]
  rw [← value_skipSpaces, hc]
  exact value_digit h s _

theorem natural?_eq_ok_iff {bound k : Nat} {expected : String} {n : Number} :
    natural? bound expected n = .ok k ↔ n = .whole k ∧ k < bound := by
  rcases n with (m | m) | f
  · rw [natural?, Number.whole.injEq, Int.ofNat_eq_natCast, Int.natCast_inj]
    split
    · rename_i hm
      rw [Except.ok.injEq]
      exact ⟨fun heq => ⟨heq, heq ▸ hm⟩, And.left⟩
    · rename_i hm
      exact iff_of_false nofun fun ⟨heq, hk⟩ => hm (heq ▸ hk)
  · exact iff_of_false nofun nofun
  · exact iff_of_false nofun nofun

/-- A number is read as a value exactly where it is read. -/
theorem map_number_eq_ok_iff {result : Result Number} {n : Number} {c : Cursor} :
    (result.map fun read => (Value.number read.1, read.2)) = .ok (.number n, c) ↔
      result = .ok (n, c) := by
  rw [map_eq_ok_iff]
  constructor
  · rintro ⟨⟨m, d⟩, hresult, heq⟩
    cases heq
    exact hresult
  · intro hresult
    exact ⟨(n, c), hresult, rfl⟩

/-- A natural number is read exactly where a number is that is whole, not negative and below the
bound. -/
theorem natural_eq_ok_iff (depth : Nat) {bound k : Nat} {expected : String} {c c' : Cursor} :
    natural bound expected c = .ok (k, c') ↔
      value depth c = .ok (.number (.whole k), c') ∧ k < bound := by
  unfold natural
  extract_lets start check
  have hcheck (n : Number) (d : Cursor) :
      check (n, d) = .ok (k, c') ↔ natural? bound expected n = .ok k ∧ d = c' := by
    simp only [check]
    cases natural? bound expected n with
    | error m => simp [Cursor.fail]
    | ok j => simp
  have checked (result : Result Number) :
      result.bind check = .ok (k, c') ↔ result = .ok (.whole k, c') ∧ k < bound := by
    simp only [bind_eq_ok_iff, Prod.exists, hcheck, natural?_eq_ok_iff]
    constructor
    · rintro ⟨n, d, hresult, ⟨rfl, hk⟩, rfl⟩
      exact ⟨hresult, hk⟩
    · rintro ⟨hresult, hk⟩
      exact ⟨_, _, hresult, ⟨rfl, hk⟩, rfl⟩
  split
  · rename_i hrest
    have hrest' : c.skipSpaces.rest = _ := hrest
    rw [value.eq_def]
    simp only [hrest', map_number_eq_ok_iff]
    exact checked _
  · rename_i d s hminus hrest
    split
    · rename_i hdigit
      rw [value_of_digit hrest hdigit, map_number_eq_ok_iff]
      exact checked _
    · rename_i hdigit
      refine iff_of_false (unexpected_ne_ok _ _ _) ?_
      rintro ⟨hread, -⟩
      obtain ⟨x, s', hcons, hx⟩ := exists_of_value_eq_number hread
      obtain ⟨rfl, rfl⟩ := List.cons.inj (hrest.symm.trans hcons)
      exact hx.elim hminus hdigit
  · rename_i hrest
    refine iff_of_false (unexpected_ne_ok _ _ _) ?_
    rintro ⟨hread, -⟩
    obtain ⟨x, s, hcons, -⟩ := exists_of_value_eq_number hread
    rw [hrest] at hcons
    cases hcons

/-- Nothing is read from the null value, and from any other text what the reader makes of it. -/
theorem optional_eq_ok_iff (depth : Nat) {c c' : Cursor} {o : Option α} :
    optional reader c = .ok (o, c') ↔
      value depth c = .ok (.null, c') ∧ o = none ∨
        (∀ s, c.skipSpaces.rest ≠ 'n' :: s) ∧ ∃ a, reader c = .ok (a, c') ∧ o = some a := by
  rw [value_eq_null_iff, optional]
  split
  · rename_i s hrest
    simp only [map_eq_ok_iff, Prod.mk.injEq]
    constructor
    · rintro ⟨c'', hword, rfl, rfl⟩
      exact .inl ⟨⟨⟨s, hrest⟩, hword⟩, rfl⟩
    · rintro (⟨⟨-, hword⟩, rfl⟩ | ⟨hother, -⟩)
      · exact ⟨c', hword, rfl, rfl⟩
      · exact absurd hrest (hother s)
  · rename_i hother
    simp only [map_eq_ok_iff, Prod.mk.injEq, Prod.exists]
    constructor
    · rintro ⟨a, c'', hread, rfl, rfl⟩
      exact .inr ⟨hother, a, hread, rfl⟩
    · rintro (⟨⟨⟨s, hrest⟩, -⟩, -⟩ | ⟨-, a, hread, rfl⟩)
      · exact absurd hrest (hother s)
      · exact ⟨a, c', hread, rfl, rfl⟩

/-! ## What is written is read -/

/-- Whatever is written for a value is read as this, blanks in front of it included. -/
def ReadsAs (reader : Cursor → Result α) (v : Value) (a : α) : Prop :=
  ∀ ⦃ws t⦄, IsSpaces ws → IsTextFor t v → GivesBefore EndsNumeral reader (ws ++ t) a

/-- A reader takes a plain value where the reader of all values gives this value. -/
theorem readsAs_of_plain {v : Value} {a : α} (harray : ∀ vs, v ≠ .array vs)
    (hobject : ∀ ms, v ≠ .object ms)
    (h : ∀ c c', value 0 c = .ok (v, c') → reader c = .ok (a, c')) : ReadsAs reader v a := by
  intro ws t hws ht p rest hrest
  rcases ht.cases with hplain | hkept
  · obtain ⟨p', hread⟩ := givesBefore_of_spaces hws ht.opens (givesBefore_of_isPlain hplain 0) p
      rest fun _ _ => hrest
    exact ⟨p', h _ _ hread⟩
  · cases hkept with
    | array _ => exact absurd rfl (harray _)
    | object _ => exact absurd rfl (hobject _)

theorem readsAs_anyText (s : String) : ReadsAs anyText (.string s) s :=
  readsAs_of_plain nofun nofun fun c c' => (readsShape_anyText 0 c s c').2

theorem readsAs_flag (b : Bool) : ReadsAs flag (.bool b) b :=
  readsAs_of_plain nofun nofun fun c c' => (readsShape_flag 0 c b c').2

theorem readsAs_natural {bound k : Nat} (h : k < bound) (expected : String) :
    ReadsAs (natural bound expected) (.number (.whole k)) k :=
  readsAs_of_plain nofun nofun fun _ _ hread => (natural_eq_ok_iff 0).2 ⟨hread, h⟩

/-- The null value is read as nothing. -/
theorem readsAs_null (reader : Cursor → Result α) : ReadsAs (optional reader) .null none :=
  readsAs_of_plain nofun nofun fun _ _ hread => (optional_eq_ok_iff 0).2 (.inl ⟨hread, rfl⟩)

/-- Another value than null is read by the reader that is given for it. -/
theorem ReadsAs.optional {v : Value} {a : α} (h : ReadsAs reader v a) (hv : v ≠ .null) :
    ReadsAs (optional reader) v (some a) := by
  intro ws t hws ht p rest hrest
  obtain ⟨p', hread⟩ := h hws ht p rest hrest
  refine ⟨p', (optional_eq_ok_iff 0).2 (.inr ⟨?_, a, hread, rfl⟩)⟩
  obtain ⟨q, hskip⟩ := skipSpaces_append hws (ht.opens.noSpace rest) p
  rw [List.append_assoc, hskip]
  intro s heq
  -- no text begins like that of null but its own
  rcases ht.cases with hplain | hkept
  · cases hplain with
    | null => exact hv rfl
    | yes => exact absurd (List.cons.inj heq).1 (by decide)
    | no => exact absurd (List.cons.inj heq).1 (by decide)
    | number hnumeral =>
        obtain ⟨x, u, rfl, hx⟩ := hnumeral.exists_cons
        obtain ⟨rfl, -⟩ := List.cons.inj heq
        exact absurd hx (by decide)
    | string hstring =>
        obtain ⟨body, rfl, -⟩ := hstring
        exact absurd (List.cons.inj heq).1 (by decide)
  · cases hkept with
    | array => exact absurd (List.cons.inj heq).1 (by decide)
    | object => exact absurd (List.cons.inj heq).1 (by decide)

/-- A list is read from its items. -/
theorem ReadsAs.list {vs : List Value} {as : List α}
    (h : List.Forall₂ (fun v a => ReadsAs reader v a) vs as) :
    ReadsAs (list reader) (.array vs) as := by
  intro ws t hws ht p rest _
  rcases ht.cases with hplain | hkept
  · cases hplain
  cases hkept with
  | @array s _ hlisted =>
  have hreads (t : List Char) (a : α) (ht : ∃ v, IsTextFor t v ∧ ReadsAs reader v a) :
      GivesBefore EndsNumeral reader t a := by
    obtain ⟨v, hv, hread⟩ := ht
    exact hread isSpaces_nil hv
  have hopens (t : List Char) (a : α) (ht : ∃ v, IsTextFor t v ∧ ReadsAs reader v a) :
      Opens t := by
    obtain ⟨v, hv, -⟩ := ht
    exact hv.opens
  have hitems : Listed ']' (fun t a => ∃ v, IsTextFor t v ∧ ReadsAs reader v a) true s as :=
    hlisted.of_forall₂ h fun t v a ht hread => ⟨v, ht, hread⟩
  have hlength := hitems.length_lt hopens
  obtain ⟨p₁, hskip⟩ := skipSpaces_append hws
    (noSpace_cons (c := '[') (by decide) (s ++ rest)) p
  obtain ⟨p₂, hread⟩ := items_of_listed hreads hopens hitems rest (p₁.afterAll ['['])
    (show as.length < (s ++ rest).length + 2 by rw [List.length_append]; omega)
  refine ⟨p₂, ?_⟩
  rw [List.append_assoc, List.cons_append, Json.list, hskip]
  exact hread

/-- An object is read from its members, where the reader leaves them to the reader of members. -/
theorem ReadsAs.of_members {member : String → σ → Cursor → Result σ} {empty gathered : σ}
    {ms : List (String × Value)} {a : α} (h : ReadsMembers IsTextFor member empty ms gathered)
    (hreader : ∀ ⦃c s c'⦄, c.skipSpaces.rest = '\x7b' :: s →
      members member true empty (c.skipSpaces.skip 1) c.skipSpaces.steps = .ok (gathered, c') →
      reader c = .ok (a, c')) :
    ReadsAs reader (.object ms) a := by
  intro ws t hws ht p rest _
  rcases ht.cases with hplain | hkept
  · cases hplain
  cases hkept with
  | @object s _ hlisted =>
  have hlength := hlisted.length_lt fun _ _ hm => hm.opens
  obtain ⟨p₁, hskip⟩ := skipSpaces_append hws
    (noSpace_cons (c := '\x7b') (by decide) (s ++ rest)) p
  obtain ⟨p₂, hread⟩ := members_of_listed hlisted h rest (p₁.afterAll ['\x7b'])
    (show ms.length < (s ++ rest).length + 2 by rw [List.length_append]; omega)
  refine ⟨p₂, ?_⟩
  rw [List.append_assoc, List.cons_append]
  refine hreader (s := s ++ rest) ?_ ?_
  · rw [hskip]
  · rw [hskip]
    exact hread

/-- A record is read from the members of an object. -/
theorem ReadsAs.record {r : RecordReader σ α} {ms : List (String × Value)} {gathered : σ} {a : α}
    (h : ReadsMembers IsTextFor r.member r.empty ms gathered)
    (hfinish : r.finish gathered = .ok a) :
    ReadsAs (record r) (.object ms) a := by
  refine ReadsAs.of_members h fun c s c' hrest hread => ?_
  rw [Json.record]
  simp only [hrest, hread, hfinish, bind, Except.bind, pure, Except.pure]

/-- A field that has not been read is read from its value. -/
theorem ReadsAs.field {v : Value} {a : α} (h : ReadsAs reader v a) (name : String) (put : α → σ) :
    ReadsBehind IsTextFor (field name none reader put) v (put a) := by
  intro ws ws' t hws hws' ht p rest hrest
  obtain ⟨p₁, hcolon⟩ := colon_append hws (ws' ++ t ++ rest) p
  obtain ⟨p₂, hread⟩ := h hws' ht p₁ rest hrest
  refine ⟨p₂, ?_⟩
  rw [List.append_assoc, List.cons_append, Json.field, if_neg (by simp)]
  simp only [hcolon, hread, bind, Except.bind, pure, Except.pure]

theorem ReadsAs.field_unread {p : Prop} [Decidable p] {v : Value} {a b : α} {name : String}
    {put : α → σ} (h : ReadsAs reader v a) (hnew : ¬ p) :
    ReadsBehind IsTextFor (Json.field name (if p then some b else none) reader put) v (put a) := by
  rw [if_neg hnew]
  exact h.field name put

/-- Members are read one after the other, where each of them is new. -/
theorem readsMembers_map {κ : Type} {member : String → σ → Cursor → Result σ} {called : κ → String}
    {told : κ → Value} (state : List κ → σ)
    (step : ∀ read k, k ∉ read →
      ReadsBehind IsTextFor (member (called k) (state read)) (told k) (state (read ++ [k])))
    {read given : List κ} (once : (read ++ given).Nodup) :
    ReadsMembers IsTextFor member (state read) (given.map fun k => (called k, told k))
      (state (read ++ given)) := by
  induction given generalizing read with
  | nil =>
      rw [List.append_nil]
      exact .nil
  | cons k given ih =>
      have hnew : k ∉ read := fun hold =>
        (List.nodup_append.1 once).2.2 k hold k List.mem_cons_self rfl
      rw [List.append_cons] at once ⊢
      exact .cons (step read k hnew) (ih once)

/-- A text that is written for a value is read as what the value is read as. -/
theorem ReadsAs.readAll {v : Value} {a : α} (h : ReadsAs reader v a) {s : String}
    (hs : IsDocument s v) : readAll reader s = .ok a := by
  obtain ⟨ws, t, ws', hs, hws, hws', ht⟩ := hs
  have hends : EndsNumeral ws' := by
    have hends := endsNumeral_append hws' endsNumeral_nil
    rwa [List.append_nil] at hends
  obtain ⟨p', hread⟩ := h hws ht .start ws' hends
  refine readAll_eq_ok_iff.2 ⟨⟨ws', p'⟩, ?_, rest_skipSpaces_of_isSpaces hws'⟩
  rw [← hread, Cursor.ofString, hs, List.append_assoc]

/-! ## What is read is a value -/

/-- Where the reader stops, a value ends. -/
def ReadsValues (reader : Cursor → Result α) (depth : Nat) : Prop :=
  ∀ ⦃c a c'⦄, reader c = .ok (a, c') → ∃ v, value depth c = .ok (v, c')

theorem ReadsShape.readsValues {shape : α → Value} (h : ReadsShape reader shape depth) :
    ReadsValues reader depth :=
  fun _ _ _ hread => ⟨_, (h _ _ _).1 hread⟩

theorem readsValues_natural (bound : Nat) (expected : String) (depth : Nat) :
    ReadsValues (natural bound expected) depth :=
  fun _ _ _ hread => ⟨_, ((natural_eq_ok_iff depth).1 hread).1⟩

theorem ReadsValues.optional (h : ReadsValues reader depth) :
    ReadsValues (optional reader) depth := by
  intro c o c' hread
  rcases (optional_eq_ok_iff depth).1 hread with ⟨hnull, -⟩ | ⟨-, a, hread, -⟩
  · exact ⟨_, hnull⟩
  · exact h hread

/-- Behind a name, the reader passes the colon and a value. -/
def PassesValue (reader : Cursor → Result σ) (depth : Nat) : Prop :=
  ∀ ⦃c s c'⦄, reader c = .ok (s, c') → ∃ c₁ v, colon c = .ok c₁ ∧ value depth c₁ = .ok (v, c')

/-- A field that is read was not read before. -/
theorem field_eq_ok {name : String} {seen : Option α} {put : α → σ} {c c' : Cursor} {s : σ}
    (h : field name seen reader put c = .ok (s, c')) :
    seen = none ∧ ∃ c₁ a, colon c = .ok c₁ ∧ reader c₁ = .ok (a, c') ∧ s = put a := by
  cases seen with
  | some a => cases h
  | none =>
      obtain ⟨c₁, hcolon, hread⟩ := bind_eq_ok_iff.1 h
      obtain ⟨⟨a, c₂⟩, hread, heq⟩ := bind_eq_ok_iff.1 hread
      cases heq
      exact ⟨rfl, c₁, a, hcolon, hread, rfl⟩

theorem ReadsValues.field (h : ReadsValues reader depth) (name : String) (seen : Option α)
    (put : α → σ) : PassesValue (field name seen reader put) depth := by
  intro c s c' hread
  obtain ⟨-, c₁, a, hcolon, hread, -⟩ := field_eq_ok hread
  obtain ⟨v, hvalue⟩ := h hread
  exact ⟨c₁, v, hcolon, hvalue⟩

/-- The members of an object, each read by `member`, are members of a value. -/
theorem valueMembers_of_members {member : String → σ → Cursor → Result σ}
    (h : ∀ name s, PassesValue (member name s) depth) {first : Bool} {s s' : σ} {c c' : Cursor}
    {steps : Nat} (hread : members member first s c steps = .ok (s', c'))
    (gathered : List (String × Value)) :
    ∃ gathered', members (valueMember depth) first gathered c steps = .ok (gathered', c') := by
  induction steps generalizing first s c gathered with
  | zero => cases hread
  | succ steps ih =>
      rcases members_succ_eq_ok hread with
        ⟨hnone, rfl, rfl⟩ | ⟨c₁, name, c₂, s₁, c₃, hnext, hname, hmember, hrest⟩
      · exact ⟨gathered, by rw [members, hnone]⟩
      · obtain ⟨c₄, v, hcolon, hvalue⟩ := h name s hmember
        obtain ⟨gathered', hothers⟩ := ih hrest (Members.insert name v gathered)
        have hvalueMember : valueMember depth name gathered c₂ =
            .ok (Members.insert name v gathered, c₃) := by
          simp only [valueMember, hcolon, hvalue, Except.map]
        exact ⟨gathered', by rw [members_of_nextMember hnext hname hvalueMember, hothers]⟩

/-- The items of a record that is written as a list, and its closing bracket, are those of a
value. -/
def ListsValues (listed : Cursor → Except Error (σ × Cursor)) (depth : Nat) : Prop :=
  ∀ ⦃c s c₁ c'⦄, listed c = .ok (s, c₁) → closeList c₁ = .ok c' →
    ∃ vs, items (value depth) true c (c.steps + 1) = .ok (vs, c')

/-- No further item follows where the closing bracket is. -/
theorem nextItem_eq_none_iff {first : Bool} {c : Cursor} :
    nextItem first c = .ok none ↔ ∃ s, c.skipSpaces.rest = ']' :: s := by
  unfold nextItem
  dsimp only
  split
  · rename_i hrest
    exact iff_of_false nofun (by simp [hrest])
  · rename_i s hrest
    exact iff_of_true rfl ⟨s, hrest⟩
  · rename_i hclose hrest
    refine iff_of_false (fun h => ?_) ?_
    · repeat' split at h
      all_goals cases h
    · rintro ⟨s, hs⟩
      obtain ⟨rfl, rfl⟩ := List.cons.inj (hrest.symm.trans hs)
      exact hclose rfl

theorem items_of_closeList {c c' : Cursor} (h : closeList c = .ok c') (steps : Nat) :
    items reader false c (steps + 1) = .ok ([], c') := by
  have hnone : nextItem false c = .ok none := by
    rw [nextItem_eq_none_iff]
    unfold closeList at h
    dsimp only at h
    split at h
    · rename_i s hrest
      exact ⟨s, hrest⟩
    all_goals cases h
  exact items_succ_eq_ok_iff.2 (.inl ⟨hnone, h, rfl⟩)

/-- The fields of a list are not read from nothing. -/
theorem rest_ne_nil_of_nextField {first : Bool} {o : Option α} {c c' : Cursor}
    (h : nextField reader first c = .ok (o, c')) : c.rest ≠ [] := by
  intro hnil
  have hskip : c.skipSpaces.rest = [] :=
    rest_skipSpaces_of_isSpaces (by rw [hnil]; exact isSpaces_nil)
  obtain ⟨next, hnext, -⟩ := bind_eq_ok_iff.1 h
  simp only [nextItem, hskip] at hnext
  cases hnext

/-- An item that may be there comes in front of the other items. -/
theorem exists_items_of_nextField (h : ReadsValues reader depth) {first : Bool} {o : Option α}
    {c c₁ c' : Cursor} (hread : nextField reader first c = .ok (o, c₁)) {vs : List Value}
    {steps : Nat} (hrest : items (value depth) false c₁ (steps + 1) = .ok (vs, c')) :
    ∃ vs', items (value depth) first c (steps + 2) = .ok (vs', c') := by
  obtain ⟨_ | c₂, hnext, hread⟩ := bind_eq_ok_iff.1 hread
  · cases hread
    -- then the list ends there, and nothing else is read from it
    have hnone : nextItem false c = .ok none :=
      nextItem_eq_none_iff.2 (nextItem_eq_none_iff.1 hnext)
    rcases items_succ_eq_ok_iff.1 hrest with ⟨-, hclose, rfl⟩ | ⟨_, _, _, _, hsome, -⟩
    · exact ⟨[], items_succ_eq_ok_iff.2 (.inl ⟨hnext, hclose, rfl⟩)⟩
    · rw [hnone] at hsome
      exact nomatch hsome
  · obtain ⟨⟨a, c₃⟩, hitem, heq⟩ := bind_eq_ok_iff.1 hread
    cases heq
    obtain ⟨v, hvalue⟩ := h hitem
    exact ⟨v :: vs, items_succ_eq_ok_iff.2 (.inr ⟨c₂, v, c₁, vs, hnext, hvalue, hrest, rfl⟩)⟩

theorem ReadsValues.record {r : RecordReader σ α}
    (hmember : ∀ name s, PassesValue (r.member name s) depth)
    (hlisted : ListsValues r.listed depth) : ReadsValues (record r) (depth + 1) := by
  intro c a c' hread
  rw [Json.record] at hread
  dsimp only at hread
  rw [← value_skipSpaces]
  generalize c.skipSpaces = d at hread ⊢
  obtain ⟨rest, p⟩ := d
  split at hread
  · rename_i s hrest
    dsimp only at hrest
    subst hrest
    obtain ⟨⟨gathered, c₁⟩, hmembers, hfinish⟩ := bind_eq_ok_iff.1 hread
    dsimp only at hfinish
    split at hfinish
    · cases hfinish
      obtain ⟨ms, hvalues⟩ := valueMembers_of_members hmember hmembers []
      exact ⟨.object ms, by rw [value_brace]; exact map_eq_ok_iff.2 ⟨_, hvalues, rfl⟩⟩
    · cases hfinish
  · rename_i s hrest
    dsimp only at hrest
    subst hrest
    obtain ⟨⟨gathered, c₁⟩, hitems, hfinish⟩ := bind_eq_ok_iff.1 hread
    dsimp only at hfinish
    split at hfinish
    · obtain ⟨c₂, hclose, heq⟩ := bind_eq_ok_iff.1 hfinish
      cases heq
      obtain ⟨vs, hvalues⟩ := hlisted hitems hclose
      exact ⟨.array vs, by rw [value_bracket]; exact map_eq_ok_iff.2 ⟨_, hvalues, rfl⟩⟩
    · cases hfinish
  · exact absurd hread (unexpected_ne_ok _ _ _)

/-! ## Passing the members of an object -/

/-- The members with these names are passed one by one. -/
inductive Passes (member : String → σ → Cursor → Result σ) : σ → List String → Prop
  | nil {s : σ} : Passes member s []
  | cons {s s' : σ} {name : String} {names : List String} {c c' : Cursor} :
      member name s c = .ok (s', c') → Passes member s' names → Passes member s (name :: names)

section Passing

variable {member : String → σ → Cursor → Result σ} {s s' : σ} {c' : Cursor} {steps : Nat}

/-- A member that comes next is passed. -/
theorem exists_of_members_next (hmember : ∀ name s, PassesValue (member name s) depth)
    {t : List Char} {m : String × Value} {first : Bool} {c : Cursor} {rest : List Char}
    {p : Position} (h : IsMember (IsWritten depth) t m) (hrest : EndsNumeral rest)
    (hnext : nextMember first c = .ok (some ⟨t ++ rest, p⟩))
    (hread : members member first s c (steps + 1) = .ok (s', c')) :
    ∃ s₁ c₁ p', member m.1 s c₁ = .ok (s₁, ⟨rest, p'⟩) ∧
      members member false s₁ ⟨rest, p'⟩ steps = .ok (s', c') := by
  rcases members_succ_eq_ok hread with
    ⟨hnone, -⟩ | ⟨c₁, name, c₂, s₁, c₃, hsome, hname, hpassed, hothers⟩
  · rw [hnext] at hnone
    exact nomatch hnone
  obtain rfl : _ = c₁ := Option.some.inj (Except.ok.inj (hnext.symm.trans hsome))
  obtain ⟨hstring, hws, hws', hv⟩ := h
  rename_i key ws ws' text name' v
  obtain ⟨k, rfl, hkey⟩ := gives_string_of_isString hstring
  obtain ⟨p₁, hkey⟩ := hkey (p.afterAll ['"']) (ws ++ ':' :: (ws' ++ text ++ rest))
  have hskip : (⟨'"' :: k ++ (ws ++ ':' :: (ws' ++ text)) ++ rest, p⟩ : Cursor).skip 1 =
      ⟨k ++ (ws ++ ':' :: (ws' ++ text ++ rest)), p.afterAll ['"']⟩ := by
    simp [Cursor.skip]
  rw [hskip, hkey] at hname
  cases hname
  -- the reader passes what stands there, and this is the text of a value
  obtain ⟨c₄, v', hcolon, hvalue⟩ := hmember name s hpassed
  obtain ⟨p₂, hcolon'⟩ := colon_append hws (ws' ++ text ++ rest) p₁
  obtain rfl : _ = c₄ := Except.ok.inj (hcolon'.symm.trans hcolon)
  obtain ⟨u, hu⟩ := hv.isText
  obtain ⟨p₃, hvalue'⟩ := givesBefore_of_spaces hws' (opens_of_isText hu)
    (givesBefore_of_isText hu) p₂ rest fun _ _ => hrest
  rw [hvalue] at hvalue'
  cases hvalue'
  exact ⟨s₁, _, p₃, hpassed, hothers⟩

/-- All members of an object that is read have been passed. -/
theorem passes_of_members (hmember : ∀ name s, PassesValue (member name s) depth) {first : Bool}
    {t : List Char} {ms : List (String × Value)} {rest : List Char} {p : Position}
    (h : Listed '\x7d' (IsMember (IsWritten depth)) first t ms)
    (hread : members member first s ⟨t ++ rest, p⟩ steps = .ok (s', c')) :
    Passes member s (ms.map Prod.fst) := by
  induction h generalizing s p steps with
  | close => exact .nil
  | @first ws t u m ms hws ht hlisted ih =>
      cases steps with
      | zero => cases hread
      | succ steps =>
          obtain ⟨k, rfl⟩ := ht.exists_cons
          obtain ⟨p₁, hnext⟩ := nextMember_opening hws (k ++ (u ++ rest)) p
          rw [List.append_assoc, List.append_assoc, List.cons_append] at hread
          obtain ⟨s₁, c₁, p₂, hpassed, hothers⟩ := exists_of_members_next hmember ht
            (hlisted.endsNumeral (by decide) rest) hnext hread
          exact .cons hpassed (ih hothers)
  | @next ws ws' t u m ms hws hws' ht hlisted ih =>
      cases steps with
      | zero => cases hread
      | succ steps =>
          obtain ⟨k, rfl⟩ := ht.exists_cons
          obtain ⟨p₁, hnext⟩ := nextMember_next hws hws' (k ++ (u ++ rest)) p
          rw [List.append_assoc, List.cons_append, List.append_assoc, List.append_assoc,
            List.cons_append] at hread
          obtain ⟨s₁, c₁, p₂, hpassed, hothers⟩ := exists_of_members_next hmember ht
            (hlisted.endsNumeral (by decide) rest) hnext hread
          exact .cons hpassed (ih hothers)

end Passing

/-- All members of a document that is read as a record have been passed. -/
theorem passes_of_readAll {r : RecordReader σ α} {s : String} {ms : List (String × Value)} {a : α}
    (hmember : ∀ depth name s, PassesValue (r.member name s) (depth + 1))
    (hs : IsDocument s (.object ms)) (h : readAll (record r) s = .ok a) :
    Passes r.member r.empty (ms.map Prod.fst) := by
  obtain ⟨ws, t, ws', hchars, hws, -, depth, ht⟩ := hs
  obtain ⟨u, rfl, hlisted⟩ : ∃ u, t = '\x7b' :: u ∧
      Listed '\x7d' (IsMember (IsWritten (depth + 1))) true u ms := by
    rcases ht.succ.succ with hplain | hkept
    · cases hplain
    · cases hkept with
      | object hlisted => exact ⟨_, rfl, hlisted⟩
  obtain ⟨c, hread, -⟩ := readAll_eq_ok_iff.1 h
  obtain ⟨p, hskip⟩ := skipSpaces_append hws
    (noSpace_cons (c := '\x7b') (by decide) (u ++ ws')) .start
  rw [Cursor.ofString, hchars, Json.record, List.cons_append, hskip] at hread
  obtain ⟨⟨gathered, c₁⟩, hmembers, -⟩ := bind_eq_ok_iff.1 hread
  exact passes_of_members (hmember depth) hlisted hmembers

end SqlppBench.Json
