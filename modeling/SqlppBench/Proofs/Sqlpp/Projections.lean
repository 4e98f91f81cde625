import SqlppBench.Proofs.Sqlpp.Constructors

/-! # Reading upserts

A reader of SQL++ takes the statement that replaces records apart into projections, each of one
record, whose columns are stored values or given byte strings (`upsert?`). What was written for some
updates is read as their projections (`upsert?_upsertProjections`): keys are literals, so what is
between two literals belongs to one projection, and no name or number of hexadecimal digits has a
comma.
-/

namespace SqlppBench.Sqlpp

/-- A column of a projection. -/
inductive Column where
  /-- The stored value of a field. -/
  | stored (field : String)
  /-- A byte string under the name of a field. -/
  | given (bytes : Bytes) (field : String)
deriving DecidableEq, Repr

/-- The field that a column gives. -/
def Column.field : Column → String
  | .stored field | .given _ field => field

/-- The lookup of one record, by its key and its columns. -/
structure Projection where
  key : String
  columns : List Column
deriving DecidableEq, Repr

namespace Target

/-! ## Reading -/

/-- Reads a column: the constructor of a byte string with a name, or a name alone. -/
def column? (s : List Char) : Option Column :=
  match Constructor.value? s with
  | some (.bytes bytes, rest) =>
    (Text.after? " AS ".toList rest).map fun name => .given bytes (String.ofList name)
  | some (.text _, _) => none
  | none => some (.stored (String.ofList s))

/-- Reads a lookup in the relation, up to the key. -/
def columns? (t : Target) (s : List Char) : Option (List Column) :=
  let ending := (" FROM " ++ t.relation ++ " WHERE " ++ t.primaryKey ++ "=").toList
  (Text.after? "SELECT ".toList s).bind fun s =>
    (Text.after? ending.reverse s.reverse).bind fun columns =>
      (columns.reverse.splitOn ',').mapM column?

/-- Reads the projections of an upsert, the first of them behind a text of its own, from the keys
and from what is between them. -/
def alternatives? (t : Target) (before : List Char) :
    List (List Char) → List String → Option (List Projection)
  | [last], [] => if last = ");".toList then some [] else none
  | piece :: pieces, key :: keys =>
    ((Text.after? before piece).bind t.columns?).bind fun columns =>
      (t.alternatives? " UNION ALL ".toList pieces keys).map (⟨key, columns⟩ :: ·)
  | _, _ => none

/-- What is between the literals of a text. -/
def piecesOf (outside : List (Option Char)) : List (List Char) :=
  (outside.splitOnP Option.isNone).map fun piece => piece.filterMap id

/-- Reads an upsert. -/
def upsert? (t : Target) (statement : String) : Option (List Projection) :=
  (read? statement).bind fun r =>
    t.alternatives? (t.use ++ "UPSERT INTO " ++ t.relation ++ " (").toList (piecesOf r.outside)
      r.literals

/-! ## What was written is read -/

/-- The column of an update for a field. -/
def columnOf (values : FieldValues) (field : String) : Column :=
  match values.get? field with
  | some bytes => .given bytes field
  | none => .stored field

/-- The projection of an update. -/
def projectionOf (t : Target) (fields : List String) (write : String × FieldValues) :
    Projection :=
  ⟨write.1, .stored t.primaryKey :: fields.map (columnOf write.2)⟩

variable {t : Target} {fields : List String}

/-- A name is read as the column of its field. -/
theorem column?_of_isWord {field : String} (h : IsWord field) :
    column? field.toList = some (.stored field) := by
  have hvalue : Constructor.value? field.toList = none := by
    have hafter : Text.after? "hex(".toList field.toList = none := by
      rw [Text.after?_eq_none_iff]
      intro hstart
      exact h.not_mem (c := '(') (by decide +kernel) (by decide) (hstart.subset (by decide))
    rw [Constructor.value?, hafter]
    cases hchars : field.toList with
    | nil => rfl
    | cons c rest =>
        have hquote : c ≠ '"' := by
          rintro rfl
          exact h.not_mem (c := '"') (by decide +kernel) (by decide) (by simp [hchars])
        simp [Constructor.text?, hquote]
  rw [column?, hvalue, String.ofList_toList]

/-- The column of an update is read. -/
theorem column?_updatedColumn {field : String} (h : IsWord field) (values : FieldValues) :
    column? (updatedColumn values field).toList = some (columnOf values field) := by
  unfold updatedColumn columnOf
  cases hvalue : values.get? field with
  | none => exact column?_of_isWord h
  | some bytes =>
      have htaken := Constructor.takes_value (.bytes bytes) (" AS ".toList ++ field.toList)
      rw [Constructor.valueText] at htaken
      simp only [String.toList_append, List.append_assoc, column?, htaken, Text.after?_append,
        Option.map_some, String.ofList_toList]

theorem mapM_column? (words : ∀ field ∈ fields, IsWord field) (values : FieldValues) :
    ((fields.map (updatedColumn values)).map String.toList).mapM column? =
      some (fields.map (columnOf values)) := by
  induction fields with
  | nil => rfl
  | cons field fields ih =>
      rw [List.map_cons, List.map_cons, List.mapM_cons,
        column?_updatedColumn (words field (List.mem_cons_self ..)),
        ih fun other hmem => words other (List.mem_cons_of_mem field hmem)]
      rfl

/-- The columns of a lookup are read. -/
theorem IsProper.columns?_lookup (h : t.IsProper) (words : ∀ field ∈ fields, IsWord field)
    (values : FieldValues) :
    t.columns? (t.lookup fields values).toList =
      some (.stored t.primaryKey :: fields.map (columnOf values)) := by
  have hchars : (t.lookup fields values).toList =
      "SELECT ".toList ++ ((t.columns (fields.map (updatedColumn values))).toList ++
        (" FROM " ++ t.relation ++ " WHERE " ++ t.primaryKey ++ "=").toList) := by
    simp [lookup, selection]
  rw [columns?, hchars, Text.after?_append, Option.bind_some, List.reverse_append,
    Text.after?_append, Option.bind_some, List.reverse_reverse, h.splitOn_columns words,
    List.map_cons, List.mapM_cons, column?_of_isWord h.primaryKey, mapM_column? words]
  rfl

theorem piecesOf_append (s : List Char) (rest : List (Option Char)) :
    piecesOf (s.map some ++ none :: rest) = s :: piecesOf rest := by
  rw [piecesOf, List.splitOnP_append_cons_of_forall_mem (by simp) _ rfl]
  simp [piecesOf, List.filterMap_map]

theorem piecesOf_map_some (s : List Char) : piecesOf (s.map some) = [s] := by
  rw [piecesOf, List.splitOnP_eq_singleton (by simp)]
  simp [List.filterMap_map]

/-- The alternatives of an upsert are read from what is between the keys. -/
theorem IsProper.alternatives?_outsideOf (h : t.IsProper) (words : ∀ field ∈ fields, IsWord field)
    (before : String) (writes : List (String × FieldValues)) :
    t.alternatives? before.toList
        (piecesOf (t.outsideOf fields before (writes.map Prod.snd) ++ ");".toList.map some))
        (writes.map Prod.fst) =
      some (writes.map (t.projectionOf fields)) := by
  induction writes generalizing before with
  | nil => 
      rw [List.map_nil, outsideOf, List.nil_append, piecesOf_map_some]
      rfl
  | cons write writes ih =>
      rw [List.map_cons, List.map_cons, outsideOf, List.append_assoc, List.cons_append,
        piecesOf_append, alternatives?, String.toList_append, Text.after?_append, Option.bind_some,
        h.columns?_lookup words, Option.bind_some, ih]
      rfl

/-- What was written for some updates is read as their projections. -/
theorem IsProper.upsert?_upsertProjections (h : t.IsProper)
    (words : ∀ field ∈ fields, IsWord field) {writes : List (String × FieldValues)}
    (hne : writes ≠ []) :
    t.upsert? (t.upsertProjections (t.projections fields writes)) =
      some (writes.map (t.projectionOf fields)) := by
  obtain ⟨write, others, rfl⟩ := List.exists_cons_of_ne_nil hne
  have hread := h.alternatives?_outsideOf words (t.use ++ "UPSERT INTO " ++ t.relation ++ " (")
    (write :: others)
  rw [upsert?, (h.reads_upsertProjections words (write :: others)).read?, Option.bind_some]
  -- what is in front of the projections stands in the same piece as the first of them
  refine (congrArg (fun outside => t.alternatives? _ (piecesOf outside) _) ?_).trans hread
  simp [outsideOf]

end Target

end SqlppBench.Sqlpp
