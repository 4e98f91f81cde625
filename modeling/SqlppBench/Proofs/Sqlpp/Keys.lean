import SqlppBench.Config.Validation
import SqlppBench.Proofs.Sqlpp.Reading
import SqlppBench.Proofs.Text.Hex
import SqlppBench.Proofs.Text.Numeral
import SqlppBench.Sqlpp.Statement
import SqlppBench.Text.Alphanumeric

/-! # Keys cannot change a statement

Where names are words and keys are arbitrary, each key is the only literal of its lookup, and what
is outside of the literals does not depend on the keys. What is outside tells the updated fields, so
an upsert tells everything that was written.
-/

namespace SqlppBench.Sqlpp

/-! ## Names -/

/-- A name of letters, digits and underscores. -/
def IsWord (name : String) : Prop :=
  ∀ c ∈ name.toList, Text.isAlphanumeric c = true ∨ c = '_'

instance (name : String) : Decidable (IsWord name) :=
  List.decidableBAll (fun c => Text.isAlphanumeric c = true ∨ c = '_') name.toList

/-- A character is in no word if it is neither a letter nor a digit nor an underscore. -/
theorem IsWord.not_mem {name : String} (h : IsWord name) {c : Char}
    (halpha : Text.isAlphanumeric c = false) (hunderscore : c ≠ '_') : c ∉ name.toList := by
  intro hc
  rcases h c hc with hyes | hyes
  · simp [halpha] at hyes
  · exact hunderscore hyes

/-- Words are plain. -/
theorem IsWord.isPlain {name : String} (h : IsWord name) : IsPlain name :=
  isPlain_of_forall (by decide +kernel) (by decide +kernel) h

/-- Names of scopes and relations are made of letters, digits and underscores. -/
theorem isAlphanum_of_isValidName {name : String} (h : isValidName name = true) :
    ∀ c ∈ name.toList, (c.isAlphanum || c == '_') = true := by
  intro c hc
  unfold isValidName at h
  cases hname : name.toList with
  | nil => simp [hname] at hc
  | cons first rest =>
      rw [hname] at h hc
      simp only [Bool.and_eq_true, List.all_eq_true] at h
      rcases List.mem_cons.1 hc with rfl | hc
      · simp [Char.isAlphanum, h.1.1]
      · exact h.1.2 c hc

/-- Names of scopes and relations are plain. -/
theorem isPlain_of_isValidName {name : String} (h : isValidName name = true) : IsPlain name :=
  isPlain_of_forall (by decide) (by decide) (isAlphanum_of_isValidName h)

/-! ## Parts of statements -/

/-- The constructor of a byte string is plain: its digits are no quotes. -/
theorem isPlain_hexConstructor (bytes : Bytes) : IsPlain (hexConstructor bytes) := by
  have hdigits : ∀ c ∈ Hex.encodeChars .upper bytes, c ≠ '"' := by
    rintro c hc rfl
    exact Hex.not_mem_encodeChars (by decide) .upper bytes hc
  have hunit : hexConstructor bytes =
      "hex(" ++ String.ofList ('"' :: Hex.encodeChars .upper bytes ++ ['"']) ++ ")" := by
    rw [← String.toList_inj]
    simp [hexConstructor, Hex.encode]
  rw [hunit]
  refine IsPlain.append (IsPlain.append ?_ (isPlain_unit hdigits)) ?_
  · exact isPlain_of_all (by decide)
  · exact isPlain_of_all (by decide)

/-- Plain parts with commas between them are plain. -/
theorem isPlain_commas {parts : List String} (h : ∀ part ∈ parts, IsPlain part) :
    IsPlain (",".intercalate parts) := by
  induction parts with
  | nil => exact isPlain_of_all (by decide)
  | cons part parts ih =>
      cases parts with
      | nil => simpa using h part (by simp)
      | cons next parts =>
          rw [String.intercalate_cons_cons]
          refine IsPlain.append (IsPlain.append (h part (by simp)) ?_) ?_
          · exact isPlain_of_all (by decide)
          · exact ih fun other hmem => h other (List.mem_cons_of_mem part hmem)

/-- A key between two plain parts is the only literal, unless a quote begins the second. -/
theorem reads_keyed {before after : String} (hbefore : IsPlain before) (hafter : IsPlain after)
    (hquote : after.toList.head? ≠ some '\x27') (key : String) :
    Reads (before ++ quoteLiteral key ++ after)
      ⟨before.toList.map some ++ none :: after.toList.map some, [key]⟩ := by
  have hreads := hbefore.append_reads ((reads_quoteLiteral key).append hafter.reads hquote)
  rw [String.append_assoc]
  exact hreads

namespace Target

/-- A target whose names are as they should be. -/
structure IsProper (t : Target) : Prop where
  scope : isValidName t.scope = true
  relation : isValidName t.relation = true
  primaryKey : IsWord t.primaryKey

variable {t : Target} {fields : List String}

theorem IsProper.isPlain_use (h : t.IsProper) : IsPlain t.use := by
  refine IsPlain.append (IsPlain.append ?_ (isPlain_of_isValidName h.scope)) ?_
  · exact isPlain_of_all (by decide)
  · exact isPlain_of_all (by decide)

theorem IsProper.isPlain_columns (h : t.IsProper) (hfields : ∀ field ∈ fields, IsPlain field) :
    IsPlain (t.columns fields) := by
  refine isPlain_commas fun column hmem => ?_
  rcases List.mem_cons.1 hmem with rfl | hmem
  · exact h.primaryKey.isPlain
  · exact hfields column hmem

theorem IsProper.isPlain_selection (h : t.IsProper) {columns : String}
    (hcolumns : IsPlain columns) : IsPlain (t.selection columns) := by
  refine IsPlain.append (IsPlain.append (IsPlain.append (IsPlain.append ?_ hcolumns) ?_)
    (isPlain_of_isValidName h.relation)) ?_ |>.append h.primaryKey.isPlain
  · exact isPlain_of_all (by decide)
  · exact isPlain_of_all (by decide)
  · exact isPlain_of_all (by decide)

/-! ## Lookups and removals -/

/-- The key is the only literal of the lookup of a record. -/
theorem IsProper.reads_read (h : t.IsProper) (hfields : ∀ field ∈ fields, IsWord field) :
    ∃ outside, ∀ key, Reads (t.read key fields) ⟨outside, [key]⟩ := by
  have hcolumns := h.isPlain_columns fun field hmem => (hfields field hmem).isPlain
  refine ⟨_, fun key => reads_keyed ?_ (isPlain_of_all (by decide)) (by decide) key⟩
  exact (h.isPlain_use.append (h.isPlain_selection hcolumns)).append
    (isPlain_of_all (by decide))

/-- A number is plain. -/
theorem isPlain_decimal (n : Nat) : IsPlain (Text.decimal n) :=
  isPlain_of_forall (by decide) (by decide) fun _ => Text.isDigit_of_mem_decimal

/-- The key is the only literal of the lookup of a range. -/
theorem IsProper.reads_scan (h : t.IsProper) (hfields : ∀ field ∈ fields, IsWord field)
    (count : Nat) : ∃ outside, ∀ key, Reads (t.scan key count fields) ⟨outside, [key]⟩ := by
  have hcolumns := h.isPlain_columns fun field hmem => (hfields field hmem).isPlain
  have hbefore := (h.isPlain_use.append (h.isPlain_selection hcolumns)).append
    (isPlain_of_all (s := ">=") (by decide))
  have hafter : IsPlain (" ORDER BY " ++ (t.primaryKey ++ (" LIMIT " ++
      (Text.decimal count ++ ";")))) := by
    refine IsPlain.append (isPlain_of_all (by decide)) (h.primaryKey.isPlain.append ?_)
    refine IsPlain.append (isPlain_of_all (by decide)) ((isPlain_decimal count).append ?_)
    exact isPlain_of_all (by decide)
  have hscan (key : String) : t.scan key count fields =
      t.use ++ t.selection (t.columns fields) ++ ">=" ++ quoteLiteral key ++
        (" ORDER BY " ++ (t.primaryKey ++ (" LIMIT " ++ (Text.decimal count ++ ";")))) := by
    simp only [scan, String.append_assoc]
  exact ⟨_, fun key => hscan key ▸ reads_keyed hbefore hafter (by simp) key⟩

/-- The key is the only literal of a removal. -/
theorem IsProper.reads_delete (h : t.IsProper) :
    ∃ outside, ∀ key, Reads (t.delete key) ⟨outside, [key]⟩ := by
  refine ⟨_, fun key => reads_keyed ?_ (isPlain_of_all (by decide)) (by decide) key⟩
  refine IsPlain.append (IsPlain.append (IsPlain.append (IsPlain.append (h.isPlain_use.append ?_)
    (isPlain_of_isValidName h.relation)) ?_) h.primaryKey.isPlain) ?_
  · exact isPlain_of_all (by decide)
  · exact isPlain_of_all (by decide)
  · exact isPlain_of_all (by decide)

/-! ## Upserts -/

/-- A projection up to the key. -/
def lookup (t : Target) (fields : List String) (values : FieldValues) : String :=
  t.selection (t.columns (fields.map (updatedColumn values))) ++ "="

/-- The projections of some writes. -/
def projections (t : Target) (fields : List String) (writes : List (String × FieldValues)) :
    List String :=
  writes.map fun (key, values) => t.updateProjection key fields values

/-- The alternatives of an upsert, the first of them behind a text of its own. -/
def alternatives (t : Target) (fields : List String) (before : String) :
    List (String × FieldValues) → String
  | [] => ""
  | (key, values) :: writes =>
    before ++ t.lookup fields values ++ quoteLiteral key ++
      t.alternatives fields " UNION ALL " writes

/-- What is outside of the keys in the alternatives of an upsert. -/
def outsideOf (t : Target) (fields : List String) (before : String) :
    List FieldValues → List (Option Char)
  | [] => []
  | values :: writes =>
    (before ++ t.lookup fields values).toList.map some ++
      none :: t.outsideOf fields " UNION ALL " writes

/-- The alternatives are the projections with `UNION ALL` between them. -/
theorem intercalate_projections (writes : List (String × FieldValues)) :
    " UNION ALL ".intercalate (t.projections fields writes) = t.alternatives fields "" writes := by
  induction writes with
  | nil => rfl
  | cons write writes ih =>
      obtain ⟨key, values⟩ := write
      cases writes with
      | nil => simp [projections, alternatives, updateProjection, lookup, String.append_assoc]
      | cons next writes =>
          obtain ⟨key', values'⟩ := next
          simp only [projections, List.map_cons, String.intercalate_cons_cons, alternatives,
            updateProjection, lookup, String.empty_append] at ih ⊢
          rw [ih]
          simp only [String.append_assoc]

/-- A column of an update is plain. -/
theorem isPlain_updatedColumn {field : String} (h : IsWord field) (values : FieldValues) :
    IsPlain (updatedColumn values field) := by
  unfold updatedColumn
  split
  · refine IsPlain.append (IsPlain.append (isPlain_hexConstructor _) ?_) h.isPlain
    exact isPlain_of_all (by decide)
  · exact h.isPlain

theorem IsProper.isPlain_lookup (h : t.IsProper) (hfields : ∀ field ∈ fields, IsWord field)
    (values : FieldValues) : IsPlain (t.lookup fields values) := by
  refine IsPlain.append (h.isPlain_selection (h.isPlain_columns fun column hmem => ?_))
    (isPlain_of_all (by decide))
  obtain ⟨field, hfield, rfl⟩ := List.mem_map.1 hmem
  exact isPlain_updatedColumn (hfields field hfield) values

/-- The keys are the only literals of the alternatives, and values are told outside of them. -/
theorem IsProper.reads_alternatives (h : t.IsProper) (hfields : ∀ field ∈ fields, IsWord field)
    {before : String} (hbefore : IsPlain before) (writes : List (String × FieldValues)) :
    Reads (t.alternatives fields before writes)
      ⟨t.outsideOf fields before (writes.map Prod.snd), writes.map Prod.fst⟩ := by
  induction writes generalizing before with
  | nil => exact (isPlain_of_all (s := "") (by decide)).reads
  | cons write writes ih =>
      obtain ⟨key, values⟩ := write
      have others := ih (isPlain_of_all (s := " UNION ALL ") (by decide))
      -- no quote follows a key, so it ends where its literal was closed
      have hquote : (t.alternatives fields " UNION ALL " writes).toList.head? ≠ some '\x27' := by
        cases writes with
        | nil => simp [alternatives]
        | cons next writes => simp [alternatives]
      have hreads := (hbefore.append (h.isPlain_lookup hfields values)).append_reads
        ((reads_quoteLiteral key).append others hquote)
      simp only [alternatives, String.append_assoc] at hreads ⊢
      exact hreads

/-- What is outside of the keys of an upsert depends on the values only. -/
theorem IsProper.reads_upsertProjections (h : t.IsProper)
    (hfields : ∀ field ∈ fields, IsWord field) (writes : List (String × FieldValues)) :
    Reads (t.upsertProjections (t.projections fields writes))
      ⟨(t.use ++ "UPSERT INTO " ++ t.relation ++ " (").toList.map some ++
          (t.outsideOf fields "" (writes.map Prod.snd) ++ ");".toList.map some),
        writes.map Prod.fst⟩ := by
  have hbefore : IsPlain (t.use ++ "UPSERT INTO " ++ t.relation ++ " (") := by
    refine IsPlain.append (IsPlain.append (h.isPlain_use.append ?_)
      (isPlain_of_isValidName h.relation)) ?_
    · exact isPlain_of_all (by decide)
    · exact isPlain_of_all (by decide)
  have hafter : IsPlain ");" := isPlain_of_all (by decide)
  have hempty : IsPlain "" := isPlain_of_all (by decide)
  have hreads := hbefore.append_reads
    ((h.reads_alternatives hfields hempty writes).append hafter.reads (by decide))
  rw [upsertProjections, intercalate_projections, String.append_assoc]
  refine (congrArg (Reads _) (Reading.eq_of_parts ?_ ?_)).mp hreads
  · rfl
  · simp [Reading.plain]

/-! ## Everything that was written -/

/-- The new value of a field shows in its column. -/
theorem get?_eq_of_updatedColumn {field : String} (h : IsWord field) {values values' : FieldValues}
    (heq : updatedColumn values field = updatedColumn values' field) :
    values.get? field = values'.get? field := by
  have hword : '"' ∉ field.toList := h.not_mem (by decide +kernel) (by decide)
  -- a column with a new value has double quotes, which no name has
  have hconstructor (bytes : Bytes) : hexConstructor bytes ++ " AS " ++ field ≠ field := by
    intro hsame
    apply hword
    rw [← hsame]
    simp [hexConstructor]
  unfold updatedColumn at heq
  cases hvalue : values.get? field with
  | none =>
      cases hvalue' : values'.get? field with
      | none => rfl
      | some bytes' =>
          simp only [hvalue, hvalue'] at heq
          exact absurd heq.symm (hconstructor bytes')
  | some bytes =>
      cases hvalue' : values'.get? field with
      | none =>
          simp only [hvalue, hvalue'] at heq
          exact absurd heq (hconstructor bytes)
      | some bytes' =>
          simp only [hvalue, hvalue', hexConstructor, String.append_left_inj,
            String.append_right_inj] at heq
          rw [Hex.encode_injective .upper heq]

/-- No column of an update has a comma. -/
theorem comma_not_mem_updatedColumn {field : String} (h : IsWord field) (values : FieldValues) :
    ',' ∉ (updatedColumn values field).toList := by
  have hword : ',' ∉ field.toList := h.not_mem (by decide +kernel) (by decide)
  unfold updatedColumn
  split
  · rename_i bytes _
    have hdigits : ',' ∉ Hex.encodeChars .upper bytes :=
      Hex.not_mem_encodeChars (by decide) .upper bytes
    simp [hexConstructor, Hex.encode, hdigits, hword]
  · exact hword

/-- Between commas there is one column each. -/
theorem IsProper.splitOn_columns (h : t.IsProper) (hfields : ∀ field ∈ fields, IsWord field)
    (values : FieldValues) :
    (t.columns (fields.map (updatedColumn values))).toList.splitOn ',' =
      (t.primaryKey :: fields.map (updatedColumn values)).map String.toList := by
  have hcommas : ∀ column ∈ (t.primaryKey :: fields.map (updatedColumn values)).map String.toList,
      ',' ∉ column := by
    intro chars hchars
    obtain ⟨column, hcolumn, rfl⟩ := List.mem_map.1 hchars
    rcases List.mem_cons.1 hcolumn with rfl | hcolumn
    · exact h.primaryKey.not_mem (by decide +kernel) (by decide)
    · obtain ⟨field, hfield, rfl⟩ := List.mem_map.1 hcolumn
      exact comma_not_mem_updatedColumn (hfields field hfield) values
  have hcomma : ",".toList = [','] := rfl
  rw [columns, String.toList_intercalate, hcomma, List.splitOn_intercalate _ hcommas (by simp)]

/-- The new values of all fields show in a lookup. -/
theorem IsProper.values_of_lookup (h : t.IsProper) (hfields : ∀ field ∈ fields, IsWord field)
    {values values' : FieldValues} (heq : t.lookup fields values = t.lookup fields values') :
    fields.map values.get? = fields.map values'.get? := by
  have hcolumns : t.columns (fields.map (updatedColumn values)) =
      t.columns (fields.map (updatedColumn values')) := by
    simpa only [lookup, selection, String.append_left_inj, String.append_right_inj] using heq
  have hsplit := congrArg (fun s : String => s.toList.splitOn ',') hcolumns
  simp only [h.splitOn_columns hfields, List.map_cons, List.cons.injEq, true_and,
    List.map_map] at hsplit
  rw [List.map_inj_left] at hsplit ⊢
  intro field hmem
  exact get?_eq_of_updatedColumn (hfields field hmem) (String.toList_inj.1 (hsplit field hmem))

/-- What is in front of the first gap, and what is behind it. -/
theorem eq_of_append_gap {s s' : List Char} {rest rest' : List (Option Char)}
    (h : s.map some ++ none :: rest = s'.map some ++ none :: rest') : s = s' ∧ rest = rest' := by
  induction s generalizing s' with
  | nil => cases s' <;> simp_all
  | cons c s ih =>
      cases s' with
      | nil => simp at h
      | cons c' s' =>
          simp only [List.map_cons, List.cons_append, List.cons.injEq, Option.some.injEq] at h
          obtain ⟨rfl, hothers⟩ := h
          simpa using ih hothers

/-- What is outside of the keys tells all new values. -/
theorem IsProper.values_of_outsideOf (h : t.IsProper) (hfields : ∀ field ∈ fields, IsWord field)
    {before : String} {writes writes' : List FieldValues}
    (heq : t.outsideOf fields before writes = t.outsideOf fields before writes') :
    writes.map (fun values => fields.map values.get?) =
      writes'.map (fun values => fields.map values.get?) := by
  induction writes generalizing before writes' with
  | nil =>
      cases writes' with
      | nil => rfl
      | cons values' writes' => simp [outsideOf] at heq
  | cons values writes ih =>
      cases writes' with
      | nil => simp [outsideOf] at heq
      | cons values' writes' =>
          obtain ⟨hlookup, hothers⟩ := eq_of_append_gap heq
          rw [String.toList_inj, String.append_right_inj] at hlookup
          rw [List.map_cons, List.map_cons, h.values_of_lookup hfields hlookup, ih hothers]

/-- A write as far as an upsert of some fields tells it. -/
def written (fields : List String) (write : String × FieldValues) :
    String × List (Option Bytes) :=
  (write.1, fields.map write.2.get?)

/-- A reader finds one literal for each key of a statement, which stands for that key, and what is
outside of the literals is the same for all keys. An upsert tells everything that was written: two
lists of writes that differ never give the same statement. -/
theorem keys_cannot_change_a_statement (proper : t.IsProper)
    (words : ∀ field ∈ fields, IsWord field) :
    (∃ outside, ∀ key, read? (t.read key fields) = some ⟨outside, [key]⟩) ∧
      (∀ count, ∃ outside, ∀ key, read? (t.scan key count fields) = some ⟨outside, [key]⟩) ∧
      (∃ outside, ∀ key, read? (t.delete key) = some ⟨outside, [key]⟩) ∧
      (∃ outside : List FieldValues → List (Option Char), ∀ writes,
        read? (t.upsertProjections (t.projections fields writes)) =
          some ⟨outside (writes.map Prod.snd), writes.map Prod.fst⟩) ∧
      ∀ writes writes', t.upsertProjections (t.projections fields writes) =
          t.upsertProjections (t.projections fields writes') →
        writes.map (written fields) = writes'.map (written fields) := by
  refine ⟨?_, ?_, ?_, ?_, ?_⟩
  · obtain ⟨outside, hreads⟩ := proper.reads_read words
    exact ⟨outside, fun key => (hreads key).read?⟩
  · intro count
    obtain ⟨outside, hreads⟩ := proper.reads_scan words count
    exact ⟨outside, fun key => (hreads key).read?⟩
  · obtain ⟨outside, hreads⟩ := proper.reads_delete
    exact ⟨outside, fun key => (hreads key).read?⟩
  · let outside (values : List FieldValues) : List (Option Char) :=
      (t.use ++ "UPSERT INTO " ++ t.relation ++ " (").toList.map some ++
        (t.outsideOf fields "" values ++ ");".toList.map some)
    exact ⟨outside, fun writes => (proper.reads_upsertProjections words writes).read?⟩
  · intro writes writes' hsame
    have hreading := (proper.reads_upsertProjections words writes).read?
    rw [hsame, (proper.reads_upsertProjections words writes').read?] at hreading
    simp only [Option.some.injEq, Reading.mk.injEq, List.append_right_inj,
      List.append_left_inj] at hreading
    obtain ⟨hvalues, hkeys⟩ := hreading
    have hvalues := proper.values_of_outsideOf words hvalues
    simp only [List.map_map, Function.comp_def] at hvalues
    -- keys and values agree, so their pairs do
    have hpairs (writes : List (String × FieldValues)) : writes.map (written fields) =
        (writes.map Prod.fst).zip (writes.map fun write => fields.map write.2.get?) := by
      rw [List.zip_map']
      rfl
    rw [hpairs, hpairs, hkeys, hvalues]

/-- A key that tries to end its literal stays inside of it. -/
theorem keys_cannot_change_a_lookup :
    ∃ outside, ∀ key, read? ((⟨"ycsb", "usertable", "id"⟩ : Target).read key ["field0"]) =
      some ⟨outside, [key]⟩ :=
  (keys_cannot_change_a_statement ⟨by decide, by decide, by decide +kernel⟩
    (by decide +kernel)).1

end Target

end SqlppBench.Sqlpp
