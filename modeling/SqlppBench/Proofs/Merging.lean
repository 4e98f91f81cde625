import Mathlib.Algebra.BigOperators.Group.List.Basic
import Mathlib.Data.List.Perm.Basic
import SqlppBench.Proofs.Summary

/-! # Merging in any order

Merging is commutative and associative, and the summary of no client changes nothing. To record a
status is to merge a table with nothing but that status (`record_eq_merge`), so it does not matter
which client counts an event, nor in which order and in which groups the summaries of the clients
are merged: all of it is the same as recording every event once (`merging_is_recording`).
-/

namespace SqlppBench

/-! ## Laws -/

namespace OperationCounts

theorem merge_comm (c d : OperationCounts) : c.merge d = d.merge c := by
  simp only [merge, Nat.add_comm]

theorem merge_assoc (c d e : OperationCounts) : (c.merge d).merge e = c.merge (d.merge e) := by
  simp only [merge, Nat.add_assoc]

instance : Std.Commutative merge := ⟨merge_comm⟩

instance : Std.Associative merge := ⟨merge_assoc⟩

theorem record_eq_merge (c : OperationCounts) (s : Status) :
    c.record s = c.merge (({} : OperationCounts).record s) := by
  cases s <;> rfl

end OperationCounts

namespace OperationTable

/-- A table is what it says of each operation. -/
@[ext] theorem ext {t u : OperationTable} (h : ∀ o, t.counts? o = u.counts? o) : t = u := by
  cases t
  cases u
  exact congrArg _ (funext h)

variable (t u v : OperationTable)

theorem counts?_merge (o : Operation) :
    (t.merge u).counts? o = Option.merge OperationCounts.merge (t.counts? o) (u.counts? o) := by
  simp only [merge]
  cases t.counts? o <;> cases u.counts? o <;> rfl

theorem merge_comm : t.merge u = u.merge t := by
  ext1 o
  rw [counts?_merge, counts?_merge]
  exact (Option.commutative_merge _).comm _ _

theorem merge_assoc : (t.merge u).merge v = t.merge (u.merge v) := by
  ext1 o
  simp only [counts?_merge]
  exact (Option.associative_merge _).assoc _ _ _

theorem merge_empty : t.merge empty = t := by
  ext1 o
  rw [counts?_merge]
  exact Option.merge_none_right

/-- To record a status is to merge a table with nothing else. -/
theorem record_eq_merge (o : Operation) (s : Status) :
    t.record o s = t.merge (empty.record o s) := by
  ext1 other
  rw [counts?_merge]
  simp only [record, set]
  split
  · rename_i h
    rw [h, OperationCounts.record_eq_merge]
    cases t.counts? o with
    | none => cases s <;> rfl
    | some c => rfl
  · exact Option.merge_none_right.symm

/-- It makes no difference whether a status is recorded before merging or after it. -/
theorem merge_record (o : Operation) (s : Status) :
    t.merge (u.record o s) = (t.merge u).record o s := by
  rw [record_eq_merge u, record_eq_merge (t.merge u), merge_assoc]

theorem record_right_comm (o o' : Operation) (s s' : Status) :
    (t.record o s).record o' s' = (t.record o' s').record o s := by
  rw [record_eq_merge _ o', record_eq_merge t, merge_assoc, merge_comm (empty.record o s),
    ← merge_assoc, ← record_eq_merge, ← record_eq_merge]

end OperationTable

namespace RunSummary

variable (s t u : RunSummary)

theorem merge_comm : s.merge t = t.merge s := by
  simp only [merge, Nat.add_comm, Nat.max_comm, s.operations.merge_comm]

theorem merge_assoc : (s.merge t).merge u = s.merge (t.merge u) := by
  simp only [merge, Nat.add_assoc, Nat.max_assoc, OperationTable.merge_assoc]

/-- The summary of no client changes nothing. -/
theorem merge_default : s.merge {} = s := by
  rw [merge, Nat.max_zero, OperationTable.merge_empty]
  rfl

theorem default_merge : merge {} s = s :=
  (merge_comm {} s).trans s.merge_default

instance : Std.Commutative merge := ⟨merge_comm⟩

instance : Std.Associative merge := ⟨merge_assoc⟩

theorem errors_merge : (s.merge t).errors = s.errors + t.errors := by
  simp only [errors_eq_sum, counts_merge, OperationCounts.merge]
  exact List.sum_map_add

end RunSummary

/-! ## Events -/

namespace OperationTable

variable (t u : OperationTable)

/-- Records events, one after the other. -/
def recordEach (events : List (Operation × Status)) : OperationTable :=
  events.foldl (fun t event => t.record event.1 event.2) t

theorem recordEach_cons (event : Operation × Status) (events : List (Operation × Status)) :
    t.recordEach (event :: events) = (t.record event.1 event.2).recordEach events :=
  rfl

theorem recordEach_append (earlier later : List (Operation × Status)) :
    t.recordEach (earlier ++ later) = (t.recordEach earlier).recordEach later :=
  List.foldl_append

/-- The order of events makes no difference. -/
theorem recordEach_perm {events events' : List (Operation × Status)} (h : events.Perm events') :
    t.recordEach events = t.recordEach events' :=
  h.foldl_eq' (fun _ _ _ _ t => t.record_right_comm ..) t

/-- Events may be recorded before merging or after it. -/
theorem merge_recordEach (events : List (Operation × Status)) :
    t.merge (u.recordEach events) = (t.merge u).recordEach events := by
  induction events generalizing u with
  | nil => rfl
  | cons event events ih => rw [recordEach_cons, recordEach_cons, ih, merge_record]

/-- The operations of a table are those that were there, and those that were recorded. -/
theorem isSome_counts?_recordEach (events : List (Operation × Status)) (o : Operation) :
    ((t.recordEach events).counts? o).isSome = true ↔
      (t.counts? o).isSome = true ∨ ∃ status, (o, status) ∈ events := by
  induction events generalizing t with
  | nil => simp [recordEach]
  | cons event events ih =>
      obtain ⟨other, status⟩ := event
      rw [recordEach_cons, ih]
      simp only [record, set, List.mem_cons, Prod.mk.injEq]
      by_cases h : o = other
      · simp [h]
      · simp [h]

end OperationTable

/-- Records events in a summary, one after the other. -/
def RunSummary.recordEach (s : RunSummary) (events : List (Operation × Status)) : RunSummary :=
  events.foldl (fun s event => s.record event.1 event.2) s

/-- Recording leaves alone what has nothing to do with operations. -/
theorem RunSummary.recordEach_eq (s : RunSummary) (events : List (Operation × Status)) :
    s.recordEach events = { s with operations := s.operations.recordEach events } := by
  induction events generalizing s with
  | nil => rfl
  | cons event events ih => exact ih (s.record event.1 event.2)

/-! ## Clients -/

/-- What one client reports: the events that it counted, and how long it took. -/
structure ClientReport where
  events : List (Operation × Status)
  elapsedMs : Nat

namespace ClientReport

/-- The summary in which a client counted its events. -/
def summary (r : ClientReport) : RunSummary :=
  { RunSummary.forClient.recordEach r.events with elapsedMs := r.elapsedMs }

theorem summary_eq (r : ClientReport) :
    r.summary = ⟨1, r.elapsedMs, OperationTable.empty.recordEach r.events⟩ := by
  rw [summary, RunSummary.recordEach_eq]
  rfl

variable (s : RunSummary) (reports : List ClientReport)

/-- In the merged summaries of some clients are the operations of all their events. -/
theorem operations_foldl_merge : ((reports.map summary).foldl RunSummary.merge s).operations =
    s.operations.recordEach (reports.flatMap events) := by
  induction reports generalizing s with
  | nil => rfl
  | cons r reports ih =>
      have head : (s.merge r.summary).operations = s.operations.recordEach r.events := by
        rw [summary_eq, RunSummary.merge, OperationTable.merge_recordEach,
          OperationTable.merge_empty]
      rw [List.map_cons, List.foldl_cons, ih, head, List.flatMap_cons,
        OperationTable.recordEach_append]

theorem clients_foldl_merge : ((reports.map summary).foldl RunSummary.merge s).clients =
    s.clients + reports.length := by
  induction reports generalizing s with
  | nil => rfl
  | cons r reports ih =>
      have head : (s.merge r.summary).clients = s.clients + 1 := by
        rw [summary_eq, RunSummary.merge]
      rw [List.map_cons, List.foldl_cons, ih, head, List.length_cons]
      omega

/-- The longest time counts. -/
theorem elapsedMs_foldl_merge : ((reports.map summary).foldl RunSummary.merge s).elapsedMs =
    (reports.map elapsedMs).foldl max s.elapsedMs := by
  induction reports generalizing s with
  | nil => rfl
  | cons r reports ih =>
      rw [List.map_cons, List.foldl_cons, ih, List.map_cons, List.foldl_cons, summary_eq,
        RunSummary.merge]

end ClientReport

/-! ## Orders and groups -/

/-- A way to merge summaries: in which order, and in which groups. -/
inductive Merging where
  /-- The summary of no client, which a merging may begin with. -/
  | nothing
  | one (s : RunSummary)
  | both (first second : Merging)

namespace Merging

/-- The summary that comes out. -/
def result : Merging → RunSummary
  | .nothing => {}
  | .one s => s
  | .both m n => m.result.merge n.result

/-- The summaries that are merged. -/
def summaries : Merging → List RunSummary
  | .nothing => []
  | .one s => [s]
  | .both m n => m.summaries ++ n.summaries

/-- All groups, down to the single summaries. -/
def parts : Merging → List Merging
  | .both m n => .both m n :: (m.parts ++ n.parts)
  | m => [m]

/-- Groups make no difference. -/
theorem result_eq_foldl (m : Merging) : m.result = m.summaries.foldl RunSummary.merge {} := by
  induction m with
  | nothing => rfl
  | one s => exact (RunSummary.default_merge s).symm
  | both m n hm hn =>
      rw [result, summaries, List.foldl_append, ← hm, hn]
      conv => rhs; rw [← m.result.merge_default]
      exact List.foldl_assoc.symm

/-- Neither groups nor the order make a difference. -/
theorem result_eq_of_perm {m : Merging} {summaries : List RunSummary}
    (h : m.summaries.Perm summaries) : m.result = summaries.foldl RunSummary.merge {} := by
  rw [result_eq_foldl]
  exact h.foldl_op_eq

end Merging

/-! ## Words -/

namespace RunSummary

/-- All numbers of a summary, and the sums that it is asked for, fit into their words. -/
structure Fits (s : RunSummary) : Prop where
  clients : s.clients < UInt32.size
  elapsedMs : s.elapsedMs < UInt64.size
  totals : ∀ o, (s.counts o).total < UInt64.size
  errors : s.errors < UInt64.size

/-- Merging makes no number smaller. -/
theorem Fits.of_merge {s t : RunSummary} (h : (s.merge t).Fits) : s.Fits where
  clients := Nat.lt_of_le_of_lt (Nat.le_add_right ..) h.clients
  elapsedMs := Nat.lt_of_le_of_lt (Nat.le_max_left ..) h.elapsedMs
  totals o := by
    have hsum := h.totals o
    rw [counts_merge, OperationCounts.total_merge] at hsum
    exact Nat.lt_of_le_of_lt (Nat.le_add_right ..) hsum
  errors := by
    have hsum := h.errors
    rw [errors_merge] at hsum
    exact Nat.lt_of_le_of_lt (Nat.le_add_right ..) hsum

end RunSummary

/-- Where the result of a merging fits into words, so does every sum on the way to it. -/
theorem Merging.fits_of_mem_parts {m part : Merging} (h : m.result.Fits) (hpart : part ∈ m.parts) :
    part.result.Fits := by
  induction m with
  | nothing =>
      obtain rfl := List.mem_singleton.1 hpart
      exact h
  | one s =>
      obtain rfl := List.mem_singleton.1 hpart
      exact h
  | both m n hm hn =>
      rcases List.mem_cons.1 hpart with rfl | hpart
      · exact h
      rcases List.mem_append.1 hpart with hpart | hpart
      · exact hm (RunSummary.Fits.of_merge h) hpart
      · rw [result, RunSummary.merge_comm] at h
        exact hn (RunSummary.Fits.of_merge h) hpart

/-! ## Merging and recording -/

/-- The result of a merging says of the events of some clients what recording them once says. -/
structure Merging.Tallies (m : Merging) (reports : List ClientReport)
    (events : List (Operation × Status)) : Prop where
  operations : m.result.operations = (RunSummary.recordEach {} events).operations
  clients : m.result.clients = reports.length
  elapsedMs : m.result.elapsedMs = (reports.map ClientReport.elapsedMs).foldl max 0
  errors : m.result.errors = (reports.map fun r => r.summary.errors).sum
  totals : ∀ o, (m.result.counts o).total = (reports.map fun r => (r.summary.counts o).total).sum
  /-- The operations that are listed are those that occur. -/
  occurring : ∀ o, (m.result.operations.counts? o).isSome = true ↔ ∃ status, (o, status) ∈ events
  /-- No sum on the way is too large for its word, unless the result is. -/
  fits : m.result.Fits → ∀ part ∈ m.parts, part.result.Fits

/-- Merging is recording. Summaries may be merged in any order and in any groups, and the summary of
no client changes nothing; so however events are dealt out to clients, and however the summaries of
the clients are merged, the result says what recording all the events once says, in any order. -/
theorem merging_is_recording {reports : List ClientReport} {events : List (Operation × Status)}
    {m : Merging} (dealt : (reports.flatMap ClientReport.events).Perm events)
    (merged : m.summaries.Perm (reports.map ClientReport.summary)) :
    (∀ s t u : RunSummary, s.merge t = t.merge s ∧ (s.merge t).merge u = s.merge (t.merge u) ∧
      s.merge {} = s ∧ RunSummary.merge {} s = s) ∧ m.Tallies reports events := by
  have result := Merging.result_eq_of_perm merged
  have operations : m.result.operations = OperationTable.empty.recordEach events := by
    rw [result, ClientReport.operations_foldl_merge]
    exact OperationTable.empty.recordEach_perm dealt
  refine ⟨fun s t u => ⟨s.merge_comm t, s.merge_assoc t u, s.merge_default, s.default_merge⟩, ?_⟩
  refine ⟨?_, ?_, ?_, ?_, fun o => ?_, fun o => ?_, fun h _ => Merging.fits_of_mem_parts h⟩
  · rw [operations, RunSummary.recordEach_eq]
  · rw [result, ClientReport.clients_foldl_merge]
    exact Nat.zero_add _
  · rw [result, ClientReport.elapsedMs_foldl_merge]
  · rw [result, RunSummary.foldl_merge_of_add {} RunSummary.errors RunSummary.errors_merge,
      List.map_map]
    exact Nat.zero_add _
  · have add (s t : RunSummary) :
        ((s.merge t).counts o).total = (s.counts o).total + (t.counts o).total := by
      rw [RunSummary.counts_merge, OperationCounts.total_merge]
    rw [result, RunSummary.foldl_merge_of_add {} (fun s => (s.counts o).total) add, List.map_map]
    exact Nat.zero_add _
  · rw [operations, OperationTable.isSome_counts?_recordEach]
    exact or_iff_right nofun

/-- Two clients that report three events, merged in another order than they are listed. -/
theorem two_reports_are_merged :
    let first : ClientReport := ⟨[(.update, .ok), (.delete, .error)], 10⟩
    let second : ClientReport := ⟨[(.update, .error)], 25⟩
    let m : Merging := .both (.one second.summary) (.both .nothing (.one first.summary))
    m.Tallies [first, second] [(.update, .error), (.update, .ok), (.delete, .error)] := by
  intro first second m
  have dealt : ([first, second].flatMap ClientReport.events).Perm
      [(.update, .error), (.update, .ok), (.delete, .error)] := by decide
  have merged : m.summaries.Perm ([first, second].map ClientReport.summary) :=
    List.Perm.swap first.summary second.summary []
  exact (merging_is_recording dealt merged).2

end SqlppBench
