import Mathlib.Algebra.GroupWithZero.Nat
import SqlppBench.Summary

/-! # Counting and merging

What a summary says of one operation is the counts under it, all zero where there are none
(`RunSummary.counts`). Recording a status adds one to a single counter, and merging adds the counts
up, so a summary that was put together in any way says how many statuses of each kind there were.
-/

namespace SqlppBench

namespace OperationCounts

@[simp] theorem total_record (c : OperationCounts) (s : Status) :
    (c.record s).total = c.total + 1 := by
  cases s <;> simp only [record, total] <;> omega

@[simp] theorem total_merge (c d : OperationCounts) : (c.merge d).total = c.total + d.total := by
  simp only [merge, total]
  omega

/-- Counting some statuses counts each kind of them. -/
theorem foldl_record (c : OperationCounts) (statuses : List Status) :
    statuses.foldl record c =
      ⟨c.ok + statuses.count .ok, c.batched + statuses.count .batchedOk,
        c.error + statuses.count .error⟩ := by
  induction statuses generalizing c with
  | nil => rfl
  | cons s statuses ih =>
      rw [List.foldl_cons, ih]
      cases s <;> simp [record] <;> omega

end OperationCounts

/-- The number of statuses is the sum of the numbers of each kind. -/
theorem length_eq_count_add (statuses : List Status) :
    statuses.length =
      statuses.count .ok + statuses.count .batchedOk + statuses.count .error := by
  induction statuses with
  | nil => rfl
  | cons s statuses ih => cases s <;> simp <;> omega

namespace RunSummary

/-- What a summary says of an operation. -/
def counts (s : RunSummary) (o : Operation) : OperationCounts :=
  (s.operations.counts? o).getD {}

/-- Counts some statuses of one operation. -/
def recordAll (s : RunSummary) (o : Operation) (statuses : List Status) : RunSummary :=
  statuses.foldl (fun s status => s.record o status) s

variable (s t : RunSummary) (o : Operation)

theorem counts_record (status : Status) (other : Operation) :
    (s.record o status).counts other =
      if other = o then (s.counts o).record status else s.counts other := by
  simp only [counts, record, OperationTable.record, OperationTable.set]
  split <;> rfl

@[simp] theorem counts_merge : (s.merge t).counts o = (s.counts o).merge (t.counts o) := by
  simp only [counts, merge, OperationTable.merge]
  cases s.operations.counts? o <;> cases t.operations.counts? o <;>
    simp [OperationCounts.merge]

@[simp] theorem clients_recordAll (statuses : List Status) :
    (s.recordAll o statuses).clients = s.clients := by
  induction statuses generalizing s with
  | nil => rfl
  | cons status statuses ih => exact ih _

theorem counts_recordAll (statuses : List Status) (other : Operation) :
    (s.recordAll o statuses).counts other =
      if other = o then statuses.foldl OperationCounts.record (s.counts o)
      else s.counts other := by
  induction statuses generalizing s with
  | nil =>
      split
      · rename_i h
        rw [h]
        rfl
      · rfl
  | cons status statuses ih =>
      rw [recordAll, List.foldl_cons, ← recordAll, ih, counts_record, counts_record, if_pos rfl]
      split <;> rfl

theorem recordAll_append (earlier later : List Status) :
    s.recordAll o (earlier ++ later) = (s.recordAll o earlier).recordAll o later :=
  List.foldl_append

/-- What merging adds up is, over several summaries, the sum of what they say. -/
theorem foldl_merge_of_add (f : RunSummary → Nat) (add : ∀ s t, f (s.merge t) = f s + f t)
    (summaries : List RunSummary) :
    f (summaries.foldl merge s) = f s + (summaries.map f).sum := by
  induction summaries generalizing s with
  | nil => rfl
  | cons t summaries ih =>
      rw [List.foldl_cons, ih, add, List.map_cons, List.sum_cons, Nat.add_assoc]

/-- An operation that occurs in no summary does not occur in all of them together. -/
theorem counts_foldl_merge_of_none {summaries : List RunSummary} (hs : s.counts o = {})
    (h : ∀ t ∈ summaries, t.counts o = {}) : (summaries.foldl merge s).counts o = {} := by
  induction summaries generalizing s with
  | nil => exact hs
  | cons t summaries ih =>
      obtain ⟨ht, hrest⟩ := List.forall_mem_cons.1 h
      refine ih (s.merge t) ?_ hrest
      rw [counts_merge, hs, ht]
      rfl

/-- The failures of all operations that may occur, added up. -/
theorem errors_eq_sum : s.errors = (Operation.all.map fun o => (s.counts o).error).sum := by
  rw [errors, OperationTable.toList]
  generalize Operation.all = operations
  induction operations with
  | nil => rfl
  | cons o operations ih =>
      rw [List.map_cons, List.sum_cons, ← ih, List.filterMap_cons, counts]
      cases s.operations.counts? o with
      | none => simp
      | some c => rfl

/-- Where nothing but one operation occurred, its failures are all there are. -/
theorem errors_of_only (h : ∀ other, other ≠ o → s.counts other = {}) :
    s.errors = (s.counts o).error := by
  have zero (other : Operation) (hother : other ≠ o) : (s.counts other).error = 0 := by
    rw [h other hother]
  rw [errors_eq_sum, Operation.all]
  cases o <;> simp [zero]

end RunSummary

end SqlppBench
