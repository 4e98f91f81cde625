import Mathlib.Data.List.Destutter
import Mathlib.Data.List.Sort
import Mathlib.Data.Set.Defs
import Mathlib.Data.String.Basic
import SqlppBench.Proofs.Text.Utf8
import SqlppBench.Schema

/-! # The fields of a schema

The fields that a schema is made of are in ascending order, so each of them is there once, and the
primary key is not among them. Since an ascending list is determined by its members, schemas with
one key are equal exactly if the same names are described for them (`ofCatalog_eq_iff`).
-/

namespace SqlppBench

/-- Adding a name keeps a list of names ascending. -/
theorem pairwise_insertName (name : String) {names : List String}
    (h : names.Pairwise (· < ·)) : (insertName name names).Pairwise (· < ·) := by
  induction names with
  | nil => exact List.pairwise_singleton _ _
  | cons other rest ih =>
      obtain ⟨hother, hrest⟩ := List.pairwise_cons.1 h
      unfold insertName
      split
      · rename_i hlt
        refine List.pairwise_cons.2 ⟨fun b hb => ?_, h⟩
        rcases List.mem_cons.1 hb with rfl | hb
        · exact hlt
        · exact lt_trans hlt (hother b hb)
      · rename_i hlt
        split
        · exact h
        · rename_i hne
          refine List.pairwise_cons.2 ⟨fun b hb => ?_, ih hrest⟩
          rcases mem_insertName.1 hb with rfl | hb
          · exact lt_of_le_of_ne (not_lt.1 hlt) (Ne.symm hne)
          · exact hother b hb

/-- Sorted names are ascending. -/
theorem pairwise_sortNames (names : List String) : (sortNames names).Pairwise (· < ·) := by
  induction names with
  | nil => exact List.Pairwise.nil
  | cons name names ih => exact pairwise_insertName name ih

/-- To sort names is to sort them with their repetitions and then to keep one of each run of equal
neighbours: behind the sort, equal names are neighbours. -/
theorem sortNames_eq_destutter (names : List String) :
    sortNames names = (names.mergeSort (· ≤ ·)).destutter (· ≠ ·) := by
  have sorted : (names.mergeSort (· ≤ ·)).Pairwise (· ≤ ·) := List.pairwise_mergeSort' _ names
  rw [sorted.destutter_eq_dedup]
  have once := List.nodup_dedup (names.mergeSort (· ≤ ·))
  have ascending : (names.mergeSort (· ≤ ·)).dedup.Pairwise (· < ·) :=
    ((sorted.sublist (List.dedup_sublist _)).and once).imp fun h => lt_of_le_of_ne h.1 h.2
  refine (pairwise_sortNames names).eq_of_mem_iff ascending fun name => ?_
  rw [mem_sortNames, List.mem_dedup, List.mem_mergeSort]

namespace TableSchema

/-- The names that are described, apart from that of the key. -/
def describedNames (primaryKey : String) (fields : List FieldInfo) : Set String :=
  { name | name ≠ primaryKey ∧ ∃ f ∈ fields, f.name = name }

variable (primaryKey : String) (fields : List FieldInfo)

/-- The fields of a schema are ascending. -/
theorem pairwise_fields_ofCatalog : (ofCatalog primaryKey fields).fields.Pairwise (· < ·) :=
  pairwise_sortNames _

/-- A schema has each of its fields once. -/
theorem nodup_fields_ofCatalog : (ofCatalog primaryKey fields).fields.Nodup :=
  (pairwise_fields_ofCatalog primaryKey fields).imp ne_of_lt

/-- The primary key of a schema is none of its fields. -/
theorem primaryKey_not_mem_fields_ofCatalog :
    primaryKey ∉ (ofCatalog primaryKey fields).fields := by
  intro hmem
  have hkept := mem_sortNames.1 hmem
  simp at hkept

variable {primaryKey fields}

/-- The fields of a schema are the names that are described. -/
theorem mem_fields_ofCatalog {name : String} :
    name ∈ (ofCatalog primaryKey fields).fields ↔ name ∈ describedNames primaryKey fields := by
  rw [ofCatalog, mem_sortNames, List.mem_filter, List.mem_map]
  simp [describedNames, and_comm]

/-- A schema has the fields that are described for it, and no others. -/
theorem hasField_ofCatalog {name : String} :
    (ofCatalog primaryKey fields).hasField name = true ↔
      name ∈ describedNames primaryKey fields := by
  rw [hasField, List.contains_iff_mem, mem_fields_ofCatalog]

/-- In which order, how often and with which types names are described does not matter, nor whether
the key is. -/
theorem ofCatalog_eq_iff {others : List FieldInfo} :
    ofCatalog primaryKey fields = ofCatalog primaryKey others ↔
      describedNames primaryKey fields = describedNames primaryKey others := by
  constructor
  · intro h
    ext name
    rw [← mem_fields_ofCatalog, h, mem_fields_ofCatalog]
  · intro same
    have hfields : (ofCatalog primaryKey fields).fields = (ofCatalog primaryKey others).fields := by
      refine (pairwise_fields_ofCatalog primaryKey fields).eq_of_mem_iff
        (pairwise_fields_ofCatalog primaryKey others) fun name => ?_
      rw [mem_fields_ofCatalog, mem_fields_ofCatalog, same]
    exact congrArg (mk primaryKey) hfields

/-- A schema in normal form: of the names that are described, the key is left out, and the others
are in ascending order. -/
structure IsNormalForm (schema : TableSchema) (primaryKey : String) (fields : List FieldInfo) :
    Prop where
  primaryKey_eq : schema.primaryKey = primaryKey
  /-- The order is that of the bytes. -/
  ascending : schema.fields.Pairwise fun a b => Utf8.encode a < Utf8.encode b
  primaryKey_not_mem : primaryKey ∉ schema.fields
  mem_iff : ∀ name, name ∈ schema.fields ↔ name ∈ describedNames primaryKey fields
  hasField_iff : ∀ name,
    schema.hasField name = true ↔ name ∈ describedNames primaryKey fields
  /-- The fields are what is left when the key is dropped, the other names are sorted, and equal
  neighbours are made one. -/
  fields_eq : schema.fields =
    (((fields.map FieldInfo.name).filter (· ≠ primaryKey)).mergeSort (· ≤ ·)).destutter (· ≠ ·)

theorem isNormalForm_ofCatalog : (ofCatalog primaryKey fields).IsNormalForm primaryKey fields where
  primaryKey_eq := rfl
  ascending := (pairwise_fields_ofCatalog primaryKey fields).imp Utf8.encode_lt
  primaryKey_not_mem := primaryKey_not_mem_fields_ofCatalog primaryKey fields
  mem_iff _ := mem_fields_ofCatalog
  hasField_iff _ := hasField_ofCatalog
  fields_eq := sortNames_eq_destutter _

end TableSchema

end SqlppBench
