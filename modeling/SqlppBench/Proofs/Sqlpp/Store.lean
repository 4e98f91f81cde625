import Mathlib.Data.List.Induction
import Mathlib.Logic.Function.Basic
import SqlppBench.Proofs.Sqlpp.Projections

/-! # What upserts do to stored records

A service that runs an upsert computes the rows of all its projections from the records as they were
before, and then each row takes the place of the record with its key (`Store.upsert`). The
projections of several updates are therefore not the same as the updates one after the other: of the
updates of one record, only the last counts (`upsert_apply`). They agree for all stores exactly if
the last update of each record gives all the fields that the updates before it give
(`upsert_eq_patchAll_iff`).
-/

namespace SqlppBench.Sqlpp

/-- A record as it is stored: the values under the names of its fields. -/
abbrev Stored (V : Type) := String → Option V

/-- The records of a relation by their keys. -/
abbrev Store (V : Type) := String → Option (Stored V)

/-! ## Rows -/

section Rows

variable {V : Type} (binary : Bytes → V)

/-- What a column gives for a record. -/
def Column.value (record : Stored V) : Column → Option V
  | .stored field => record field
  | .given bytes _ => some (binary bytes)

/-- The row that a projection gives for a record. -/
def Projection.row (p : Projection) (record : Stored V) : Stored V := fun field =>
  (p.columns.find? fun column => column.field = field).bind (Column.value binary record)

/-- The row that a projection gives, if there is a record with its key. -/
def Projection.row? (p : Projection) (store : Store V) : Option (String × Stored V) :=
  (store p.key).map fun record => (p.key, p.row binary record)

namespace Store

/-- A row takes the place of the record with its key. -/
def replace (store : Store V) (row : String × Stored V) : Store V :=
  Function.update store row.1 (some row.2)

/-- The rows of all projections are computed first, and then they replace records in their order. -/
def upsert (store : Store V) (projections : List Projection) : Store V :=
  (projections.filterMap fun p => p.row? binary store).foldl replace store

/-- Runs an upsert into a relation, if it is one. -/
def run? (t : Target) (store : Store V) (statement : String) : Option (Store V) :=
  (t.upsert? statement).map (store.upsert binary)

/-- Runs some upserts one after the other. -/
def runAll? (t : Target) (store : Store V) (statements : List String) : Option (Store V) :=
  statements.foldlM (run? binary t) store

end Store

/-! ## Partial updates -/

/-- The record when some values are new: they replace those of the same fields of the schema, and
the other fields of the schema and the key stay as they are. -/
def Target.patched (t : Target) (fields : List String) (values : FieldValues)
    (record : Stored V) : Stored V := fun field =>
  if field = t.primaryKey then record field
  else if field ∈ fields then ((values.get? field).map binary).or (record field)
  else none

/-- The record when some values are new, one after the other. -/
def Target.patchedAll (t : Target) (fields : List String) (updates : List FieldValues)
    (record : Stored V) : Stored V :=
  updates.foldl (fun record values => t.patched binary fields values record) record

namespace Store

/-- The records when one of them is updated, if there is one with the key. -/
def patch (t : Target) (fields : List String) (store : Store V)
    (write : String × FieldValues) : Store V :=
  Function.update store write.1 ((store write.1).map (t.patched binary fields write.2))

/-- The records when some updates are made one after the other. -/
def patchAll (t : Target) (fields : List String) (store : Store V)
    (writes : List (String × FieldValues)) : Store V :=
  writes.foldl (patch binary t fields) store

end Store

end Rows

/-- The last update of each record gives all the fields that the updates of the record give. -/
def LastGivesAll (fields : List String) (writes : List (String × FieldValues)) : Prop :=
  ∀ write ∈ writes, ∀ field ∈ fields, (write.2.get? field).isSome →
    ∀ last ∈ (writes.filter fun other => other.1 = write.1).getLast?,
      (last.2.get? field).isSome

instance (fields : List String) (writes : List (String × FieldValues)) :
    Decidable (LastGivesAll fields writes) :=
  inferInstanceAs (Decidable (∀ write ∈ writes, ∀ field ∈ fields,
    (write.2.get? field).isSome = true →
      ∀ last ∈ (writes.filter fun other => other.1 = write.1).getLast?,
        (last.2.get? field).isSome = true))

variable {V : Type} {binary : Bytes → V} {t : Target} {fields : List String}

@[simp] theorem Column.field_stored (field : String) : (stored field).field = field := rfl

@[simp] theorem Column.field_columnOf (values : FieldValues) (field : String) :
    (Target.columnOf values field).field = field := by
  unfold Target.columnOf
  split <;> rfl

theorem Column.value_columnOf (values : FieldValues) (field : String) (record : Stored V) :
    Column.value binary record (Target.columnOf values field) =
      ((values.get? field).map binary).or (record field) := by
  unfold Target.columnOf
  cases values.get? field <;> rfl

theorem find?_field (fields : List String) (field : String) :
    (fields.find? fun other => decide (other = field)) =
      if field ∈ fields then some field else none := by
  induction fields with
  | nil => rfl
  | cons other fields ih =>
      by_cases h : other = field
      · simp [h]
      · simp [h, Ne.symm h, ih]

/-- The row of an update is the record with the new values. -/
theorem Projection.row_projectionOf (write : String × FieldValues) (record : Stored V) :
    (t.projectionOf fields write).row binary record = t.patched binary fields write.2 record := by
  funext field
  rw [row, Target.projectionOf, Target.patched, List.find?_cons]
  by_cases hkey : field = t.primaryKey
  · simp [hkey, Column.value]
  · have hkey' : ¬ t.primaryKey = field := fun h => hkey h.symm
    simp only [Column.field_stored, hkey', decide_false, List.find?_map, hkey, if_false,
      Function.comp_def, Column.field_columnOf, find?_field]
    split
    · exact Column.value_columnOf write.2 field record
    · rfl

namespace Store

/-- A projection at the end replaces its record after all others. -/
theorem upsert_append_singleton (store : Store V) (ps : List Projection) (p : Projection) :
    store.upsert binary (ps ++ [p]) =
      match p.row? binary store with
      | none => store.upsert binary ps
      | some row => (store.upsert binary ps).replace row := by
  rw [upsert, List.filterMap_append, List.foldl_append, List.filterMap_cons]
  cases p.row? binary store <;> rfl

/-- Of the projections of one record, only the last counts. -/
theorem upsert_apply (store : Store V) (ps : List Projection) (key : String) :
    store.upsert binary ps key =
      match (ps.filter fun p => p.key = key).getLast? with
      | none => store key
      | some p => (store key).map (p.row binary) := by
  induction ps using List.reverseRecOn with
  | nil => rfl
  | append_singleton ps p ih =>
      rw [upsert_append_singleton, List.filter_append, Projection.row?]
      by_cases hkey : p.key = key
      · subst hkey
        cases hrecord : store p.key with
        | none =>
            -- without a record there is none to replace, whatever the projections are
            have absent : store.upsert binary ps p.key = none := by
              rw [ih, hrecord]
              split <;> rfl
            simpa using absent
        | some record => simp [replace]
      · cases store p.key with
        | none => simpa [hkey] using ih
        | some record => simpa [hkey, replace, Ne.symm hkey] using ih

end Store

/-! ## Updates of one record -/

namespace Target

variable {field : String}

theorem patched_apply (hfield : field ∈ fields) (hkey : field ≠ t.primaryKey)
    (values : FieldValues) (record : Stored V) :
    t.patched binary fields values record field =
      ((values.get? field).map binary).or (record field) := by
  rw [patched, if_neg hkey, if_pos hfield]

theorem patchedAll_append_singleton (updates : List FieldValues) (values : FieldValues)
    (record : Stored V) :
    t.patchedAll binary fields (updates ++ [values]) record =
      t.patched binary fields values (t.patchedAll binary fields updates record) := by
  rw [patchedAll, List.foldl_append]
  rfl

/-- After some updates a field has the value that was given last, or the stored one if none was
given. -/
theorem patchedAll_apply (hfield : field ∈ fields) (hkey : field ≠ t.primaryKey)
    (updates : List FieldValues) (record : Stored V) :
    t.patchedAll binary fields updates record field =
      ((updates.filterMap fun values => values.get? field).getLast?.map binary).or
        (record field) := by
  induction updates using List.reverseRecOn with
  | nil => rfl
  | append_singleton updates values ih =>
      rw [patchedAll_append_singleton, patched_apply hfield hkey, ih, List.filterMap_append]
      cases hvalue : values.get? field <;> simp [hvalue]

/-- The key stays as it is. -/
theorem patchedAll_primaryKey (updates : List FieldValues) (record : Stored V) :
    t.patchedAll binary fields updates record t.primaryKey = record t.primaryKey := by
  induction updates using List.reverseRecOn with
  | nil => rfl
  | append_singleton updates values ih =>
      rw [patchedAll_append_singleton, patched, if_pos rfl, ih]

/-- The last of some updates makes the others superfluous, for all records, exactly if it gives all
the fields that they give. -/
theorem patched_patchedAll_iff (binary : Bytes → V) (hkey : t.primaryKey ∉ fields)
    (updates : List FieldValues) (values : FieldValues) :
    (∀ record : Stored V,
        t.patched binary fields values (t.patchedAll binary fields updates record) =
          t.patched binary fields values record) ↔
      ∀ earlier ∈ updates, ∀ field ∈ fields, (earlier.get? field).isSome →
        (values.get? field).isSome := by
  constructor
  · intro same earlier hearlier field hfield hgiven
    have hne : field ≠ t.primaryKey := fun h => hkey (h ▸ hfield)
    -- a record without any values shows which of them were given
    have hrecord := congrFun (same fun _ => none) field
    rw [patched_apply hfield hne, patched_apply hfield hne, patchedAll_apply hfield hne] at hrecord
    by_contra hvalue
    rw [Option.not_isSome_iff_eq_none.1 hvalue] at hrecord
    have none : (updates.filterMap fun values => values.get? field) = [] := by
      simpa using hrecord
    rw [List.filterMap_eq_nil_iff.1 none earlier hearlier] at hgiven
    cases hgiven
  · intro given record
    funext field
    by_cases hne : field = t.primaryKey
    · rw [patched, patched, if_pos hne, if_pos hne, hne, patchedAll_primaryKey]
    · by_cases hfield : field ∈ fields
      · rw [patched_apply hfield hne, patched_apply hfield hne, patchedAll_apply hfield hne]
        cases hvalue : values.get? field with
        | some bytes => rfl
        | none =>
            have none : (updates.filterMap fun values => values.get? field) = [] := by
              rw [List.filterMap_eq_nil_iff]
              intro earlier hearlier
              by_contra hgiven
              have hsome := given earlier hearlier field hfield (Option.isSome_iff_ne_none.2 hgiven)
              rw [hvalue] at hsome
              cases hsome
            simp [none]
      · rw [patched, patched, if_neg hne, if_neg hne, if_neg hfield, if_neg hfield]

end Target

/-- The same, with the updates of each record before the last set apart. -/
theorem lastGivesAll_iff {writes : List (String × FieldValues)} :
    LastGivesAll fields writes ↔
      ∀ key before last, (writes.filter fun write => write.1 = key) = before ++ [last] →
        ∀ earlier ∈ before.map Prod.snd, ∀ field ∈ fields, (earlier.get? field).isSome →
          (last.2.get? field).isSome := by
  constructor
  · intro given key before last hmine earlier hearlier field hfield hgiven
    obtain ⟨write, hwrite, rfl⟩ := List.mem_map.1 hearlier
    have hmem : write ∈ writes.filter fun write => write.1 = key := by
      rw [hmine]
      exact List.mem_append_left _ hwrite
    obtain ⟨hmem, hkey⟩ := List.mem_filter.1 hmem
    refine given write hmem field hfield hgiven last ?_
    rw [of_decide_eq_true hkey, hmine, List.getLast?_concat]
    rfl
  · intro given write hwrite field hfield hgiven last hlast
    obtain ⟨before, hmine⟩ := List.getLast?_eq_some_iff.1 hlast
    have hmem : write ∈ before ++ [last] := by
      rw [← hmine]
      exact List.mem_filter.2 ⟨hwrite, decide_eq_true rfl⟩
    rcases List.mem_append.1 hmem with hmem | hmem
    · exact given write.1 before last hmine write.2 (List.mem_map_of_mem hmem) field hfield hgiven
    · rw [← List.mem_singleton.1 hmem]
      exact hgiven

/-- An update alone gives all the fields that it gives. -/
theorem lastGivesAll_singleton (fields : List String) (write : String × FieldValues) :
    LastGivesAll fields [write] := by
  rw [lastGivesAll_iff]
  intro key before last hmine
  have hlength := congrArg List.length hmine
  have hle := List.length_filter_le (fun write => decide (write.1 = key)) [write]
  rw [List.length_append, List.length_singleton] at *
  obtain rfl : before = [] := List.length_eq_zero_iff.1 (by omega)
  simp

namespace Store

/-- What becomes of a record when some updates are made one after the other. -/
theorem patchAll_apply (store : Store V) (writes : List (String × FieldValues)) (key : String) :
    store.patchAll binary t fields writes key = (store key).map
      (t.patchedAll binary fields ((writes.filter fun write => write.1 = key).map Prod.snd)) := by
  induction writes generalizing store with
  | nil => cases hrecord : store key <;> simp [patchAll, Target.patchedAll, hrecord]
  | cons write writes ih =>
      rw [patchAll, List.foldl_cons, ← patchAll, ih, patch]
      by_cases hkey : write.1 = key
      · subst hkey
        cases store write.1 <;> simp [Target.patchedAll]
      · simp [hkey, Ne.symm hkey]

/-- Of the updates of one record in an upsert, only the last counts. -/
theorem upsert_projectionOf_apply (store : Store V) (writes : List (String × FieldValues))
    (key : String) :
    store.upsert binary (writes.map (t.projectionOf fields)) key =
      match (writes.filter fun write => write.1 = key).getLast? with
      | none => store key
      | some last => (store key).map (t.patched binary fields last.2) := by
  have hfilter : ((writes.map (t.projectionOf fields)).filter fun p => p.key = key) =
      (writes.filter fun write => write.1 = key).map (t.projectionOf fields) := by
    rw [List.filter_map]
    rfl
  rw [upsert_apply, hfilter, List.getLast?_map]
  cases (writes.filter fun write => write.1 = key).getLast? with
  | none => rfl
  | some last =>
      exact congrArg (fun row => (store key).map row) (funext (Projection.row_projectionOf last))

/-- Updates in one upsert leave every store as they do one after the other exactly if the last
update of each record gives all the fields that the updates before it give. -/
theorem upsert_eq_patchAll_iff (binary : Bytes → V) (hkey : t.primaryKey ∉ fields)
    (writes : List (String × FieldValues)) :
    (∀ store : Store V, store.upsert binary (writes.map (t.projectionOf fields)) =
        store.patchAll binary t fields writes) ↔
      LastGivesAll fields writes := by
  rw [lastGivesAll_iff]
  constructor
  · intro same key before last hmine
    refine (Target.patched_patchedAll_iff binary hkey (before.map Prod.snd) last.2).1
      fun record => ?_
    have hrecord := congrFun (same fun _ => some record) key
    rw [upsert_projectionOf_apply, patchAll_apply, hmine, List.getLast?_concat, List.map_append,
      List.map_singleton] at hrecord
    have hrow := Option.some.inj hrecord
    rw [Target.patchedAll_append_singleton] at hrow
    exact hrow.symm
  · intro given store
    funext key
    rw [upsert_projectionOf_apply, patchAll_apply]
    rcases List.eq_nil_or_concat (writes.filter fun write => write.1 = key) with
      hmine | ⟨before, last, hmine⟩
    · rw [hmine]
      cases store key <;> rfl
    · rw [List.concat_eq_append] at hmine
      rw [hmine, List.getLast?_concat, List.map_append, List.map_singleton]
      refine congrArg (fun row => (store key).map row) (funext fun record => ?_)
      rw [Target.patchedAll_append_singleton]
      exact ((Target.patched_patchedAll_iff binary hkey _ last.2).2 (given key before last hmine)
        record).symm

/-! ## Statements -/

/-- The statement for some updates is understood as an upsert of their projections. -/
theorem run?_upsertProjections (proper : t.IsProper) (words : ∀ field ∈ fields, IsWord field)
    (store : Store V) {writes : List (String × FieldValues)} (hne : writes ≠ []) :
    run? binary t store (t.upsertProjections (t.projections fields writes)) =
      some (store.upsert binary (writes.map (t.projectionOf fields))) := by
  rw [run?, proper.upsert?_upsertProjections words hne, Option.map_some]

/-- Updates in batches leave a store as they do one after the other if the last update of each
record in a batch gives all the fields that the updates before it in the batch give. -/
theorem runAll?_of_lastGivesAll (proper : t.IsProper) (words : ∀ field ∈ fields, IsWord field)
    (hkey : t.primaryKey ∉ fields) {batches : List (List (String × FieldValues))}
    (hne : ∀ batch ∈ batches, batch ≠ []) (given : ∀ batch ∈ batches, LastGivesAll fields batch)
    (store : Store V) :
    runAll? binary t store
        (batches.map fun batch => t.upsertProjections (t.projections fields batch)) =
      some (store.patchAll binary t fields batches.flatten) := by
  induction batches generalizing store with
  | nil => rfl
  | cons batch batches ih =>
      have hbatch := (upsert_eq_patchAll_iff binary hkey batch).2
        (given batch (List.mem_cons_self ..)) store
      have hothers := ih (fun other hmem => hne other (List.mem_cons_of_mem batch hmem))
        (fun other hmem => given other (List.mem_cons_of_mem batch hmem))
        (store.patchAll binary t fields batch)
      rw [List.map_cons, runAll?, List.foldlM_cons,
        run?_upsertProjections proper words store (hne batch (List.mem_cons_self ..)), hbatch]
      refine hothers.trans ?_
      rw [List.flatten_cons, patchAll, patchAll, patchAll, List.foldl_append]

end Store

end SqlppBench.Sqlpp
