import SqlppBench.Proofs.Executor.Session

/-! # How writes are gathered

Writes are gathered until as many wait as go into one statement. `gather` says which batches that
makes of some writes, and what waits in the end; all batches but the last are full, so their number
is known (`length_gather`).
-/

namespace SqlppBench.Executor

variable {α : Type}

/-- The batches that some writes make, behind those that wait already, and those that wait in the
end. -/
def gather (threshold : Nat) (waiting : List α) :
    List α → List (List α) × List α
  | [] => ([], waiting)
  | write :: writes =>
    if (waiting ++ [write]).length < max 1 threshold then
      gather threshold (waiting ++ [write]) writes
    else
      let later := gather threshold [] writes
      ((waiting ++ [write]) :: later.1, later.2)

/-- The batches in which some writes are sent until nothing waits. -/
def batchesOf (threshold : Nat) (writes : List α) : List (List α) :=
  let gathered := gather threshold [] writes
  gathered.1 ++ if gathered.2 = [] then [] else [gathered.2]

variable {threshold : Nat} {waiting : List α}

theorem gather_of_room {write : α}
    (room : (waiting ++ [write]).length < max 1 threshold) (writes : List α) :
    gather threshold waiting (write :: writes) = gather threshold (waiting ++ [write]) writes := by
  rw [gather, if_pos room]

theorem gather_of_full {write : α}
    (full : max 1 threshold ≤ (waiting ++ [write]).length) (writes : List α) :
    gather threshold waiting (write :: writes) =
      ((waiting ++ [write]) :: (gather threshold [] writes).1, (gather threshold [] writes).2) := by
  rw [gather, if_neg (Nat.not_lt.2 full)]

/-- Gathering keeps all writes, in their order. -/
theorem flatten_gather (threshold : Nat) (waiting writes : List α) :
    (gather threshold waiting writes).1.flatten ++ (gather threshold waiting writes).2 =
      waiting ++ writes := by
  induction writes generalizing waiting with
  | nil => simp [gather]
  | cons write writes ih =>
      by_cases room : (waiting ++ [write]).length < max 1 threshold
      · rw [gather_of_room room, ih, List.append_assoc, List.singleton_append]
      · rw [gather_of_full (Nat.le_of_not_lt room), List.flatten_cons, List.append_assoc, ih]
        simp

/-- What waits in the end does not fill a statement, and all batches do. -/
theorem sizes_gather (fits : waiting.length < max 1 threshold) (writes : List α) :
    (∀ batch ∈ (gather threshold waiting writes).1, batch.length = max 1 threshold) ∧
      (gather threshold waiting writes).2.length < max 1 threshold := by
  induction writes generalizing waiting with
  | nil => exact ⟨by simp [gather], fits⟩
  | cons write writes ih =>
      by_cases room : (waiting ++ [write]).length < max 1 threshold
      · rw [gather_of_room room]
        exact ih room
      · obtain ⟨full, rest⟩ := ih (length_nil_lt threshold)
        have hlength : (waiting ++ [write]).length = max 1 threshold := by
          rw [List.length_append, List.length_singleton] at room ⊢
          omega
        rw [gather_of_full (Nat.le_of_not_lt room)]
        exact ⟨List.forall_mem_cons.2 ⟨hlength, full⟩, rest⟩

/-- All writes are in full batches or wait in the end. -/
theorem length_gather_mul_add (fits : waiting.length < max 1 threshold) (writes : List α) :
    (gather threshold waiting writes).1.length * max 1 threshold +
        (gather threshold waiting writes).2.length =
      waiting.length + writes.length := by
  have hlength := congrArg List.length (flatten_gather threshold waiting writes)
  rwa [List.length_append, List.length_append, List.length_flatten,
    List.map_congr_left (sizes_gather fits writes).1, List.map_const', List.sum_replicate_nat]
    at hlength

/-- There are as many batches as full ones can be made. -/
theorem length_gather (fits : waiting.length < max 1 threshold) (writes : List α) :
    (gather threshold waiting writes).1.length =
      (waiting.length + writes.length) / max 1 threshold := by
  rw [← length_gather_mul_add fits, Nat.mul_comm, Nat.mul_add_div (by omega),
    Nat.div_eq_of_lt (sizes_gather fits writes).2, Nat.add_zero]

/-- Every write is in exactly one batch, and the batches are in the order of the writes. -/
theorem flatten_batchesOf (threshold : Nat) (writes : List α) :
    (batchesOf threshold writes).flatten = writes := by
  have flat := flatten_gather threshold [] writes
  rw [batchesOf]
  split
  · rename_i hnil
    rw [hnil] at flat
    simpa using flat
  · simpa using flat

/-- A batch is never empty. -/
theorem ne_nil_of_mem_batchesOf {writes batch : List α}
    (h : batch ∈ batchesOf threshold writes) : batch ≠ [] := by
  rintro rfl
  rcases List.mem_append.1 h with h | h
  · have hlength := (sizes_gather (length_nil_lt threshold) writes).1 _ h
    rw [List.length_nil] at hlength
    omega
  · split at h
    · simp at h
    · rename_i hne
      exact hne (List.mem_singleton.1 h).symm

/-- No batch has more writes than go into one statement. -/
theorem length_le_of_mem_batchesOf {writes batch : List α}
    (h : batch ∈ batchesOf threshold writes) : batch.length ≤ max 1 threshold := by
  obtain ⟨full, rest⟩ := sizes_gather (length_nil_lt threshold) writes
  rcases List.mem_append.1 h with h | h
  · exact Nat.le_of_eq (full batch h)
  · split at h
    · cases h
    · rw [List.mem_singleton.1 h]
      exact Nat.le_of_lt rest

/-- The number of batches is the number of writes divided by the threshold, rounded up. -/
theorem length_batchesOf (threshold : Nat) (writes : List α) :
    (batchesOf threshold writes).length =
      (writes.length + max 1 threshold - 1) / max 1 threshold := by
  have hlength := length_gather_mul_add (length_nil_lt threshold) writes
  have rest := (sizes_gather (length_nil_lt threshold) writes).2
  rw [List.length_nil, Nat.zero_add] at hlength
  rw [batchesOf, List.length_append, ← hlength, Nat.mul_comm, Nat.add_assoc,
    Nat.add_sub_assoc (by omega), Nat.mul_add_div (by omega)]
  congr 1
  -- the last batch makes one more, if there is anything in it
  split
  · rename_i hnil
    rw [hnil, List.length_nil, List.length_nil, Nat.div_eq_of_lt (by omega)]
  · rename_i hne
    have hpos := List.length_pos_iff.2 hne
    rw [List.length_singleton]
    exact (Nat.div_eq_of_lt_le (by omega) (by omega)).symm

/-- Writes for which there is room in one batch are one batch. -/
theorem batchesOf_of_le {writes : List α} (hne : writes ≠ [])
    (h : writes.length ≤ max 1 threshold) : batchesOf threshold writes = [writes] := by
  have hpos := List.length_pos_iff.2 hne
  have hlength : (batchesOf threshold writes).length = 1 := by
    rw [length_batchesOf]
    exact Nat.div_eq_of_lt_le (by omega) (by omega)
  obtain ⟨batch, hbatch⟩ := List.length_eq_one_iff.1 hlength
  have flat := flatten_batchesOf threshold writes
  rw [hbatch, List.flatten_singleton] at flat
  rw [hbatch, flat]

end SqlppBench.Executor
