import SqlppBench.Json.Decode

/-! # Readers of one shape

A reader of lists of strings reads a text exactly where the reader of all values reads a list of
strings. So what a text is for such a reader can be said of the value that the text stands for
(`ReadsShape.readAll_iff_parse`).
-/

namespace SqlppBench.Json

variable {α β : Type} {reader : Cursor → Result α} {shape : α → Value} {depth : Nat}

/-- What is made of a result is there exactly if the result is. -/
theorem map_eq_ok_iff {ε : Type} {result : Except ε α} {f : α → β} {b : β} :
    result.map f = .ok b ↔ ∃ a, result = .ok a ∧ f a = b := by
  cases result <;> simp [Except.map]

/-- What is made of a result with a further one is there exactly if both results are. -/
theorem bind_eq_ok_iff {ε : Type} {result : Except ε α} {f : α → Except ε β} {b : β} :
    result.bind f = .ok b ↔ ∃ a, result = .ok a ∧ f a = .ok b := by
  cases result <;> simp [Except.bind]

/-- A result that is evaluated to a value is that value. -/
theorem eq_ok_of_toOption {ε : Type} {result : Except ε α} {a : α}
    (h : result.toOption = some a) : result = .ok a := by
  cases result with
  | error fault => cases h
  | ok b => exact congrArg Except.ok (Option.some.inj h)

/-- A value of another kind than the expected one is a fault. -/
theorem unexpected_ne_ok (expected : String) (c : Cursor) (a : α) :
    unexpected expected c ≠ .ok a := by
  -- each kind is read to its end, and then the fault is reported
  have reported {γ : Type} (result : Except Error γ) (report : γ → Except Error α)
      (faults : ∀ b, report b ≠ .ok a) : result >>= report ≠ .ok a := by
    cases result with
    | error fault => exact nofun
    | ok b => exact faults b
  unfold unexpected
  dsimp only
  split
  · exact nofun
  · exact reported _ _ fun _ => nofun
  · exact reported _ _ fun _ => nofun
  · exact reported _ _ fun _ => nofun
  · exact reported _ _ fun _ => nofun
  · exact reported _ _ fun _ => nofun
  · exact nofun
  · exact nofun
  · split
    · exact reported _ _ fun _ => nofun
    · exact nofun

/-- What begins as no other value does is a number or a fault. -/
theorem digit_or_fault_ne_ok {d : Char} (c : Cursor) {v : Value} {c' : Cursor}
    (other : ∀ n, v ≠ .number n) :
    (if d.isDigit then (number true c).map fun (n, c) => (Value.number n, c)
      else c.failPeek .expectedValue) ≠ .ok (v, c') := by
  split
  · rw [ne_eq, map_eq_ok_iff]
    rintro ⟨⟨n, _⟩, -, heq⟩
    exact other n (Prod.mk.inj heq).1.symm
  · exact nofun

/-- A string is a value that begins with a quote. -/
theorem value_eq_string_iff {c c' : Cursor} {s : String} :
    value depth c = .ok (.string s, c') ↔
      (∃ rest, c.skipSpaces.rest = '"' :: rest) ∧ string (c.skipSpaces.skip 1) = .ok (s, c') := by
  unfold value
  dsimp only
  split <;> rename_i hrest
  case h_7 => cases depth <;> simp [hrest, map_eq_ok_iff, Cursor.failPeek]
  case h_8 => cases depth <;> simp [hrest, map_eq_ok_iff, Cursor.failPeek]
  case h_9 hquote _ _ => exact iff_of_false (digit_or_fault_ne_ok _ nofun) (by simp_all)
  all_goals simp [hrest, map_eq_ok_iff, Cursor.failPeek]

/-- The null value is what begins with the first letter of its word. -/
theorem value_eq_null_iff {c c' : Cursor} :
    value depth c = .ok (.null, c') ↔
      (∃ rest, c.skipSpaces.rest = 'n' :: rest) ∧
        word "ull".toList (c.skipSpaces.skip 1) = .ok c' := by
  unfold value
  dsimp only
  split <;> rename_i hrest
  case h_7 => cases depth <;> simp [hrest, map_eq_ok_iff, Cursor.failPeek]
  case h_8 => cases depth <;> simp [hrest, map_eq_ok_iff, Cursor.failPeek]
  case h_9 hnull _ _ _ _ _ _ => exact iff_of_false (digit_or_fault_ne_ok _ nofun) (by simp_all)
  all_goals simp [hrest, map_eq_ok_iff, Cursor.failPeek]

/-- A list is a value that begins with an opening bracket. -/
theorem value_eq_array_iff {c c' : Cursor} {vs : List Value} :
    value (depth + 1) c = .ok (.array vs, c') ↔
      (∃ rest, c.skipSpaces.rest = '[' :: rest) ∧
        items (value depth) true (c.skipSpaces.skip 1) c.skipSpaces.steps = .ok (vs, c') := by
  rw [value]
  dsimp only
  split <;> rename_i hrest
  case h_9 => exact iff_of_false (digit_or_fault_ne_ok _ nofun) (by simp_all)
  all_goals simp [hrest, map_eq_ok_iff, Cursor.failPeek]

/-- The items of a list: there are none, or the first is read and then the others are. -/
theorem items_succ_eq_ok_iff {first : Bool} {c c' : Cursor} {steps : Nat} {as : List α} :
    items reader first c (steps + 1) = .ok (as, c') ↔
      (nextItem first c = .ok none ∧ closeList c = .ok c' ∧ as = []) ∨
        ∃ c₁ a c₂ rest, nextItem first c = .ok (some c₁) ∧ reader c₁ = .ok (a, c₂) ∧
          items reader false c₂ steps = .ok (rest, c') ∧ as = a :: rest := by
  rw [items]
  rcases hnext : nextItem first c with e | _ | c₁
  · simp
  · simp only [map_eq_ok_iff]
    constructor
    · rintro ⟨c'', hclose, heq⟩
      obtain ⟨rfl, rfl⟩ := Prod.mk.inj heq
      exact .inl ⟨trivial, hclose, rfl⟩
    · rintro (⟨-, hclose, rfl⟩ | ⟨c₁, _, _, _, hnext', _⟩)
      · exact ⟨c', hclose, rfl⟩
      · exact nomatch hnext'
  · dsimp only
    rcases hread : reader c₁ with e | ⟨a, c₂⟩
    · simp [hread]
    · dsimp only
      rcases hrest : items reader false c₂ steps with e | ⟨rest, c''⟩
      · simp only [reduceCtorEq, false_iff]
        rintro (⟨hnone, -⟩ | ⟨_, _, _, _, hsome, hread', hrest', -⟩)
        · exact nomatch hnone
        · cases hsome
          rw [hread] at hread'
          cases hread'
          rw [hrest] at hrest'
          exact nomatch hrest'
      · constructor
        · rintro heq
          cases heq
          exact .inr ⟨c₁, a, c₂, rest, rfl, hread, hrest, rfl⟩
        · rintro (⟨hnone, -⟩ | ⟨_, _, _, _, hsome, hread', hrest', rfl⟩)
          · exact nomatch hnone
          · cases hsome
            rw [hread] at hread'
            cases hread'
            rw [hrest] at hrest'
            cases hrest'
            rfl

/-- Items of which there is a first are that item and the others. -/
theorem items_eq_ok_cons_iff {first : Bool} {c c' : Cursor} {steps : Nat} {a : α} {as : List α} :
    items reader first c (steps + 1) = .ok (a :: as, c') ↔
      ∃ c₁ c₂, nextItem first c = .ok (some c₁) ∧ reader c₁ = .ok (a, c₂) ∧
        items reader false c₂ steps = .ok (as, c') := by
  rw [items_succ_eq_ok_iff]
  constructor
  · rintro (⟨-, -, heq⟩ | ⟨c₁, _, c₂, _, hnext, hread, hrest, heq⟩)
    · exact nomatch heq
    · obtain ⟨rfl, rfl⟩ := List.cons.inj heq
      exact ⟨c₁, c₂, hnext, hread, hrest⟩
  · rintro ⟨c₁, c₂, hnext, hread, hrest⟩
    exact .inr ⟨c₁, a, c₂, as, hnext, hread, hrest, rfl⟩

/-- There are no items where the list is closed. -/
theorem closeList_of_items {first : Bool} {c c' : Cursor} {steps : Nat}
    (h : items reader first c (steps + 1) = .ok ([], c')) :
    nextItem first c = .ok none ∧ closeList c = .ok c' := by
  rcases items_succ_eq_ok_iff.1 h with ⟨hnone, hclose, -⟩ | ⟨_, _, _, _, -, -, -, heq⟩
  · exact ⟨hnone, hclose⟩
  · exact nomatch heq

/-- A reader of things that are values of one shape: it reads a thing exactly where the reader of
all values reads the value, and then stands where that one stands. -/
def ReadsShape (reader : Cursor → Result α) (shape : α → Value) (depth : Nat) : Prop :=
  ∀ c a c', reader c = .ok (a, c') ↔ value depth c = .ok (shape a, c')

theorem readsShape_anyText (depth : Nat) : ReadsShape anyText .string depth := by
  intro c s c'
  rw [value_eq_string_iff, anyText, text]
  split
  · rename_i hrest
    simp [hrest]
  · rename_i hother
    refine iff_of_false (unexpected_ne_ok _ _ _) ?_
    rintro ⟨⟨rest, hrest⟩, -⟩
    exact hother rest hrest

/-- The items of a list have a shape if its reader reads them one by one. -/
theorem ReadsShape.items_iff (h : ReadsShape reader shape depth) {first : Bool} {c c' : Cursor}
    {steps : Nat} {as : List α} :
    items reader first c steps = .ok (as, c') ↔
      items (value depth) first c steps = .ok (as.map shape, c') := by
  induction steps generalizing first c as with
  | zero => exact iff_of_false nofun nofun
  | succ steps ih =>
      rw [items_succ_eq_ok_iff, items_succ_eq_ok_iff, List.map_eq_nil_iff]
      apply or_congr_right
      constructor
      · rintro ⟨c₁, a, c₂, rest, hnext, hread, hrest, rfl⟩
        exact ⟨c₁, shape a, c₂, rest.map shape, hnext, (h c₁ a c₂).1 hread, ih.1 hrest, rfl⟩
      · rintro ⟨c₁, v, c₂, vs, hnext, hread, hrest, heq⟩
        obtain ⟨a, rest, rfl, rfl, rfl⟩ := List.map_eq_cons_iff.1 heq
        exact ⟨c₁, a, c₂, rest, hnext, (h c₁ a c₂).2 hread, ih.2 hrest, rfl⟩

/-- A list of things of one shape is of one shape, too. -/
theorem ReadsShape.list (h : ReadsShape reader shape depth) :
    ReadsShape (list reader) (fun as => .array (as.map shape)) (depth + 1) := by
  intro c as c'
  rw [value_eq_array_iff, ← h.items_iff, Json.list]
  split
  · rename_i hrest
    simp [hrest]
  · rename_i hother
    refine iff_of_false (unexpected_ne_ok _ _ _) ?_
    rintro ⟨⟨rest, hrest⟩, -⟩
    exact hother rest hrest

/-- A text is read as a whole if the reader comes to its end, blanks apart. -/
theorem readAll_eq_ok_iff {s : String} {a : α} :
    readAll reader s = .ok a ↔
      ∃ c, reader (.ofString s) = .ok (a, c) ∧ c.skipSpaces.rest = [] := by
  rw [readAll]
  rcases hread : reader (.ofString s) with e | ⟨b, c⟩
  · simp
  · dsimp only
    split
    · rename_i hend
      rw [List.isEmpty_iff] at hend
      constructor
      · rintro heq
        cases heq
        exact ⟨c, rfl, hend⟩
      · rintro ⟨c', heq, -⟩
        cases heq
        rfl
    · rename_i hmore
      refine iff_of_false nofun ?_
      rintro ⟨c', heq, hend⟩
      cases heq
      exact hmore (List.isEmpty_iff.2 hend)

/-- A whole text is read as a thing exactly if it stands for a value of its shape. -/
theorem ReadsShape.readAll_iff_parse (h : ReadsShape reader shape depthLimit) {s : String} {a : α} :
    readAll reader s = .ok a ↔ parse s = .ok (shape a) := by
  rw [parse, readAll_eq_ok_iff, readAll_eq_ok_iff]
  exact exists_congr fun c => and_congr_left fun _ => h _ a c

end SqlppBench.Json
