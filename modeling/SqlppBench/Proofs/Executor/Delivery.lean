import SqlppBench.Proofs.Executor.Session

/-! # Every write is sent once

Batching neither loses nor doubles nor reorders writes. Of the statements that a session sent, those
that insert records carry, one after the other, the records of the inserts so far except for the
ones that wait in the buffer (`Spread`), and so do those that replace records for the updates. The
invariant of a session (`Accounts`) is kept by every call, whatever the service answers, because a
buffer is emptied by the very call that sends its contents.
-/

namespace SqlppBench

namespace Sqlpp.Target

/-- How a statement begins that inserts records. -/
def insertionHead (t : Target) (keyword : String) : String :=
  t.use ++ keyword ++ " INTO " ++ t.relation ++ " (["

/-- How a statement begins that replaces records by what lookups give. -/
def replacementHead (t : Target) : String :=
  t.use ++ "UPSERT INTO " ++ t.relation ++ " (SELECT "

/-- Whether a statement inserts records. -/
def isInsertion (t : Target) (statement : String) : Bool :=
  ["INSERT", "UPSERT"].any fun keyword =>
    (t.insertionHead keyword).toList <+: statement.toList

/-- Whether a statement replaces records by what lookups give. -/
def isReplacement (t : Target) (statement : String) : Bool :=
  t.replacementHead.toList <+: statement.toList

variable (t : Target)

theorem isInsertion_insert {keyword : String} (h : keyword ∈ ["INSERT", "UPSERT"])
    (literals : List String) : t.isInsertion (t.insert keyword literals) = true := by
  rw [isInsertion, List.any_eq_true]
  refine ⟨keyword, h, ?_⟩
  simp [insertionHead, insert]

theorem isReplacement_insert {keyword : String} (h : keyword ∈ ["INSERT", "UPSERT"])
    (literals : List String) : t.isReplacement (t.insert keyword literals) = false := by
  simp only [List.mem_cons, List.not_mem_nil, or_false] at h
  rcases h with rfl | rfl <;> simp [isReplacement, replacementHead, insert]

theorem isInsertion_upsertProjections (key : String) (fields : List String) (values : FieldValues)
    (projections : List String) :
    t.isInsertion
      (t.upsertProjections (t.updateProjection key fields values :: projections)) = false := by
  cases projections <;>
    simp [isInsertion, insertionHead, upsertProjections, updateProjection, selection]

theorem isReplacement_upsertProjections (key : String) (fields : List String)
    (values : FieldValues) (projections : List String) :
    t.isReplacement
      (t.upsertProjections (t.updateProjection key fields values :: projections)) = true := by
  cases projections <;>
    simp [isReplacement, replacementHead, upsertProjections, updateProjection, selection]

theorem isInsertion_read (key : String) (fields : List String) :
    t.isInsertion (t.read key fields) = false := by
  simp [isInsertion, insertionHead, read, selection]

theorem isReplacement_read (key : String) (fields : List String) :
    t.isReplacement (t.read key fields) = false := by
  simp [isReplacement, replacementHead, read, selection]

theorem isInsertion_scan (start : String) (count : Nat) (fields : List String) :
    t.isInsertion (t.scan start count fields) = false := by
  simp [isInsertion, insertionHead, scan, selection]

theorem isReplacement_scan (start : String) (count : Nat) (fields : List String) :
    t.isReplacement (t.scan start count fields) = false := by
  simp [isReplacement, replacementHead, scan, selection]

theorem isInsertion_delete (key : String) : t.isInsertion (t.delete key) = false := by
  simp [isInsertion, insertionHead, delete]

theorem isReplacement_delete (key : String) : t.isReplacement (t.delete key) = false := by
  simp [isReplacement, replacementHead, delete]

end Sqlpp.Target

/-! ## Writes, spread over statements and a buffer -/

/-- How writes are spread: the statements of one kind carry, one batch each, all writes in their
order except for those that still wait. -/
def Spread (isKind : String → Bool) (render : List String → String)
    (sent waiting writes : List String) : Prop :=
  ∃ batches : List (List String), (∀ batch ∈ batches, batch ≠ []) ∧
    sent.filter isKind = batches.map render ∧ batches.flatten ++ waiting = writes

namespace Spread

variable {isKind : String → Bool} {render : List String → String}
  {sent waiting writes : List String}

/-- Nothing was written yet. -/
theorem nil : Spread isKind render [] [] [] := ⟨[], by simp, rfl, rfl⟩

/-- Another write waits. -/
theorem wait (h : Spread isKind render sent waiting writes) (write : String) :
    Spread isKind render sent (waiting ++ [write]) (writes ++ [write]) := by
  obtain ⟨batches, hne, hsent, hwrites⟩ := h
  exact ⟨batches, hne, hsent, by rw [← List.append_assoc, hwrites]⟩

/-- All writes that wait are sent. -/
theorem send (h : Spread isKind render sent waiting writes) (hne : waiting ≠ [])
    (hkind : isKind (render waiting) = true) :
    Spread isKind render (sent ++ [render waiting]) [] writes := by
  obtain ⟨batches, hbatches, hsent, hwrites⟩ := h
  refine ⟨batches ++ [waiting], ?_, ?_, ?_⟩
  · intro batch hmem
    rcases List.mem_append.1 hmem with hmem | hmem
    · exact hbatches batch hmem
    · rw [List.mem_singleton.1 hmem]
      exact hne
  · simp [hsent, hkind]
  · simpa using hwrites

/-- Statements of another kind do not matter. -/
theorem skip (h : Spread isKind render sent waiting writes) {others : List String}
    (hkind : ∀ statement ∈ others, isKind statement = false) :
    Spread isKind render (sent ++ others) waiting writes := by
  obtain ⟨batches, hbatches, hsent, hwrites⟩ := h
  have hothers : others.filter isKind = [] := by
    rw [List.filter_eq_nil_iff]
    intro statement hmem
    simp [hkind statement hmem]
  exact ⟨batches, hbatches, by simp [hsent, hothers], hwrites⟩

end Spread

/-! ## The accounts of a session -/

namespace Executor

/-- The record constructor of a call, if it is an insert. -/
def inserted? (e : Executor) : Action → Option String
  | .insert key values => some (e.literalOf key values)
  | _ => none

/-- The projection of a call, if it is an update. -/
def updated? (e : Executor) : Action → Option String
  | .update key values => some (e.projectionOf key values)
  | _ => none

/-- The inserts of some calls are spread over what was sent and what waits. -/
def InsertsSpread (e : Executor) (sent waiting : List String) (calls : List Action) : Prop :=
  Spread e.target.isInsertion e.insertion sent waiting (calls.filterMap e.inserted?)

/-- The updates of some calls are spread over what was sent and what waits. -/
def UpdatesSpread (e : Executor) (sent waiting : List String) (calls : List Action) : Prop :=
  Spread e.target.isReplacement e.target.upsertProjections sent waiting
    (calls.filterMap e.updated?)

/-- The invariant of a session that began with `e₀` in `w₀`: no write of the calls so far is lost,
doubled or out of order. -/
structure Accounts (e₀ : Executor) (w₀ : World) (calls : List Action) (e : Executor) (w : World) :
    Prop where
  noFeed : e.feed = none
  spread : ∃ sent, Leaves e₀ w₀ sent e.inserts e.updates e w ∧
    InsertsSpread e₀ sent e.inserts calls ∧ UpdatesSpread e₀ sent e.updates calls

variable {e₀ e e' : Executor} {w₀ w w' : World} {calls : List Action}

theorem insertKeyword_mem (config : ClientConfig) :
    config.insertKeyword ∈ ["INSERT", "UPSERT"] := by
  unfold ClientConfig.insertKeyword
  split <;> simp

/-- The updates that wait are some of those of the calls, so their statement replaces records. -/
theorem UpdatesSpread.replaces {sent waiting : List String}
    (h : UpdatesSpread e sent waiting calls) (hne : waiting ≠ []) :
    e.target.isReplacement (e.target.upsertProjections waiting) = true ∧
      e.target.isInsertion (e.target.upsertProjections waiting) = false := by
  obtain ⟨batches, -, -, hwrites⟩ := h
  obtain ⟨projection, rest, rfl⟩ := List.exists_cons_of_ne_nil hne
  have hmem : projection ∈ calls.filterMap e.updated? := by
    rw [← hwrites]
    simp
  -- the first projection that waits comes from a call, and only updates give projections
  obtain ⟨call, -, hcall⟩ := List.mem_filterMap.1 hmem
  cases call with
  | update key values =>
      obtain rfl : e.projectionOf key values = projection := by simpa [updated?] using hcall
      exact ⟨e.target.isReplacement_upsertProjections _ _ _ _,
        e.target.isInsertion_upsertProjections _ _ _ _⟩
  | _ => simp [updated?] at hcall

namespace Accounts

theorem idle (h : Accounts e₀ w₀ calls e w) : e.connector.results = none := by
  obtain ⟨sent, left, -⟩ := h.spread
  exact left.idle

/-- A call that sends nothing but statements of other kinds. -/
theorem other (h : Accounts e₀ w₀ calls e w) {sent : List String}
    (left : Leaves e w sent e.inserts e.updates e' w')
    (hsent : ∀ statement ∈ sent, e.target.isInsertion statement = false ∧
      e.target.isReplacement statement = false)
    {call : Action} (hinserted : e₀.inserted? call = none) (hupdated : e₀.updated? call = none) :
    Accounts e₀ w₀ (calls ++ [call]) e' w' := by
  obtain ⟨before, began, hinserts, hupdates⟩ := h.spread
  refine ⟨left.feed.trans h.noFeed, before ++ sent, ?_, ?_, ?_⟩
  · rw [left.inserts, left.updates]
    exact began.trans left
  · rw [began.continues.target] at hsent
    have skipped := hinserts.skip fun statement hmem => (hsent statement hmem).1
    simpa [InsertsSpread, hinserted, left.inserts] using skipped
  · rw [began.continues.target] at hsent
    have skipped := hupdates.skip fun statement hmem => (hsent statement hmem).2
    simpa [UpdatesSpread, hupdated, left.updates] using skipped

/-- An insert that joins those that wait. -/
theorem gatherInsert (h : Accounts e₀ w₀ calls e w) (key : String) (values : FieldValues) :
    Accounts e₀ w₀ (calls ++ [.insert key values])
      { e with inserts := e.inserts ++ [e.literalOf key values] } w := by
  obtain ⟨sent, began, hinserts, hupdates⟩ := h.spread
  refine ⟨h.noFeed, sent, ?_, ?_, ?_⟩
  · exact ⟨began.config, began.schema, began.feed, began.idle, began.endpoint, rfl, rfl,
      began.statements⟩
  · have waited := hinserts.wait (e₀.literalOf key values)
    simpa [InsertsSpread, inserted?, began.continues.literalOf] using waited
  · simpa [UpdatesSpread, updated?, List.filterMap_cons] using hupdates

/-- An update that joins those that wait. -/
theorem gatherUpdate (h : Accounts e₀ w₀ calls e w) (key : String) (values : FieldValues) :
    Accounts e₀ w₀ (calls ++ [.update key values])
      { e with updates := e.updates ++ [e.projectionOf key values] } w := by
  obtain ⟨sent, began, hinserts, hupdates⟩ := h.spread
  refine ⟨h.noFeed, sent, ?_, ?_, ?_⟩
  · exact ⟨began.config, began.schema, began.feed, began.idle, began.endpoint, rfl, rfl,
      began.statements⟩
  · simpa [InsertsSpread, inserted?, List.filterMap_cons] using hinserts
  · have waited := hupdates.wait (e₀.projectionOf key values)
    simpa [UpdatesSpread, updated?, began.continues.projectionOf] using waited

/-- The inserts that wait are sent in one statement. -/
theorem flushInserts (h : Accounts e₀ w₀ calls e w) :
    Accounts e₀ w₀ calls (e.flushInserts.run w).1.2 (e.flushInserts.run w).2 := by
  obtain ⟨sent, began, hinserts, hupdates⟩ := h.spread
  have left := leaves_flushInserts h.idle w
  refine ⟨left.feed.trans h.noFeed,
    sent ++ (if e.inserts = [] then [] else [e.insertion e.inserts]), ?_, ?_, ?_⟩
  · rw [left.inserts, left.updates]
    exact began.trans left
  · rw [left.inserts, InsertsSpread]
    split
    · rename_i hnil
      simpa [hnil, InsertsSpread] using hinserts
    · rename_i hne
      rw [began.continues.insertion]
      exact hinserts.send hne (e₀.target.isInsertion_insert (insertKeyword_mem _) _)
  · rw [left.updates, UpdatesSpread]
    refine hupdates.skip fun statement hmem => ?_
    split at hmem
    · simp at hmem
    · rw [List.mem_singleton.1 hmem, began.continues.insertion]
      exact e₀.target.isReplacement_insert (insertKeyword_mem _) _

/-- The updates that wait are sent in one statement. -/
theorem flushUpdates (h : Accounts e₀ w₀ calls e w) :
    Accounts e₀ w₀ calls (e.flushUpdates.run w).1.2 (e.flushUpdates.run w).2 := by
  obtain ⟨sent, began, hinserts, hupdates⟩ := h.spread
  have left := leaves_flushUpdates h.idle w
  refine ⟨left.feed.trans h.noFeed,
    sent ++ (if e.updates = [] then [] else [e.target.upsertProjections e.updates]), ?_, ?_, ?_⟩
  · rw [left.inserts, left.updates]
    exact began.trans left
  · rw [left.inserts, InsertsSpread]
    refine hinserts.skip fun statement hmem => ?_
    split at hmem
    · simp at hmem
    · rename_i hne
      rw [List.mem_singleton.1 hmem, began.continues.target]
      exact (hupdates.replaces hne).2
  · rw [left.updates, UpdatesSpread]
    split
    · rename_i hnil
      simpa [hnil, UpdatesSpread] using hupdates
    · rename_i hne
      rw [began.continues.target]
      exact hupdates.send hne (hupdates.replaces hne).1

/-- All writes that wait are sent, the updates whatever became of the inserts. -/
theorem flush (h : Accounts e₀ w₀ calls e w) :
    Accounts e₀ w₀ calls (e.flush.run w).1.2 (e.flush.run w).2 := by
  rw [run_flush]
  exact h.flushInserts.flushUpdates

/-- A flush is itself a call, and no write. -/
theorem snoc_flush (h : Accounts e₀ w₀ calls e w) : Accounts e₀ w₀ (calls ++ [.flush]) e w := by
  obtain ⟨sent, began, hinserts, hupdates⟩ := h.spread
  refine ⟨h.noFeed, sent, began, ?_, ?_⟩
  · simpa [InsertsSpread, inserted?, List.filterMap_cons] using hinserts
  · simpa [UpdatesSpread, updated?, List.filterMap_cons] using hupdates

end Accounts

/-- What is left behind fits if the buffers do. -/
theorem Leaves.fits {sent inserts updates : List String}
    (h : Leaves e w sent inserts updates e' w')
    (hinserts : inserts.length < max 1 e.config.batchInserts)
    (hupdates : updates.length < max 1 e.config.batchUpdates) : e'.Fits := by
  constructor
  · rw [h.inserts, h.config]
    exact hinserts
  · rw [h.updates, h.config]
    exact hupdates

/-- Nothing waits after a flush, so the buffers are short. -/
theorem leaves_flush (h : e.connector.results = none) (w : World) :
    ∃ sent, Leaves e w sent [] [] (e.flush.run w).1.2 (e.flush.run w).2 := by
  have inserts := leaves_flushInserts h w
  have updates := leaves_flushUpdates inserts.idle (e.flushInserts.run w).2
  rw [inserts.inserts] at updates
  rw [run_flush]
  exact ⟨_, inserts.trans updates⟩

/-- Every call keeps the accounts of the session, and the buffers short. -/
theorem Accounts.perform (h : Accounts e₀ w₀ calls e w) (fits : e.Fits) (call : Action) :
    Accounts e₀ w₀ (calls ++ [call]) ((e.perform call).run w).1.2 ((e.perform call).run w).2 ∧
      ((e.perform call).run w).1.2.Fits := by
  cases call with
  | read key fields =>
      simp only [Executor.perform, run_replying]
      cases hfields : e.requested fields with
      | error fault =>
          rw [run_read_of_unknown hfields]
          exact ⟨h.other (Leaves.refl h.idle w) (by simp) rfl rfl, fits⟩
      | ok names =>
          rw [run_read hfields]
          have left := leaves_fetch h.idle .read (e.target.read key names) names w
          refine ⟨h.other left ?_ rfl rfl, left.fits fits.inserts fits.updates⟩
          simp [e.target.isInsertion_read, e.target.isReplacement_read]
  | scan start count fields =>
      simp only [Executor.perform, run_replying]
      cases hfields : e.requested fields with
      | error fault =>
          rw [run_scan_of_unknown hfields]
          exact ⟨h.other (Leaves.refl h.idle w) (by simp) rfl rfl, fits⟩
      | ok names =>
          rw [run_scan hfields]
          have left := leaves_fetch h.idle .scan (e.target.scan start count names) names w
          refine ⟨h.other left ?_ rfl rfl, left.fits fits.inserts fits.updates⟩
          simp [e.target.isInsertion_scan, e.target.isReplacement_scan]
  | delete key =>
      simp only [Executor.perform, run_replying, delete]
      have left := leaves_execute h.idle .delete (e.target.delete key) w
      refine ⟨h.other left ?_ rfl rfl, left.fits fits.inserts fits.updates⟩
      simp [e.target.isInsertion_delete, e.target.isReplacement_delete]
  | insert key values =>
      simp only [Executor.perform, run_replying]
      -- the record joins those that wait, and then all of them are sent or none
      have gathered := h.gatherInsert key values
      by_cases room : (e.inserts ++ [e.literalOf key values]).length < max 1 e.config.batchInserts
      · rw [run_insert_of_room h.noFeed room]
        exact ⟨gathered, room, fits.updates⟩
      · rw [run_insert_of_full h.noFeed fits (by omega)]
        have left := leaves_flushInserts gathered.idle w
        exact ⟨gathered.flushInserts, left.fits (length_nil_lt _) fits.updates⟩
  | update key values =>
      simp only [Executor.perform, run_replying]
      have gathered := h.gatherUpdate key values
      by_cases room :
          (e.updates ++ [e.projectionOf key values]).length < max 1 e.config.batchUpdates
      · rw [run_update_of_room room]
        exact ⟨gathered, fits.inserts, room⟩
      · rw [run_update_of_full fits (by omega)]
        have left := leaves_flushUpdates gathered.idle w
        exact ⟨gathered.flushUpdates, left.fits fits.inserts (length_nil_lt _)⟩
  | flush =>
      simp only [Executor.perform, run_replying]
      obtain ⟨sent, left⟩ := leaves_flush h.idle w
      exact ⟨h.flush.snoc_flush, left.fits (length_nil_lt _) (length_nil_lt _)⟩

/-- A fresh executor has written nothing. -/
theorem Fresh.accounts {config : ClientConfig} (h : Fresh config e) (hfeed : config.feed = none)
    (w : World) : Accounts e w [] e w ∧ e.Fits := by
  refine ⟨⟨h.noFeed hfeed, [], Leaves.refl h.idle w, ?_, ?_⟩, ?_, ?_⟩
  · rw [h.inserts]
    exact Spread.nil
  · rw [h.updates]
    exact Spread.nil
  · rw [h.inserts]
    exact length_nil_lt _
  · rw [h.updates]
    exact length_nil_lt _

/-- A session keeps its accounts, whatever the service answers. -/
theorem accounts_session {config : ClientConfig} (h : Fresh config e) (hfeed : config.feed = none)
    (w : World) (calls : List Action) :
    let run := (Dialogue.session Executor.perform e calls).run w
    Accounts e w calls run.1.2 run.2 ∧ run.1.2.Fits :=
  @Dialogue.session_induction _ _ _ Executor.perform
    (fun calls e' w' => Accounts e w calls e' w' ∧ e'.Fits)
    (fun _ _ _ call held => held.1.perform held.2 call) [] e w (h.accounts hfeed w) calls

/-- The statements that were sent since the world was `w₀`. -/
def sentSince (w₀ w : World) : List String :=
  w.statements.drop w₀.statements.length

theorem Leaves.sentSince {sent inserts updates : List String}
    (h : Leaves e w sent inserts updates e' w') : sentSince w w' = sent := by
  simp [Executor.sentSince, h.statements]

/-- The accounts of a session, as they show in the statements that were sent. -/
theorem Accounts.shown (h : Accounts e₀ w₀ calls e w) :
    InsertsSpread e₀ (sentSince w₀ w) e.inserts calls ∧
      UpdatesSpread e₀ (sentSince w₀ w) e.updates calls := by
  obtain ⟨sent, began, hinserts, hupdates⟩ := h.spread
  rw [began.sentSince]
  exact ⟨hinserts, hupdates⟩

/-- No write is lost, doubled or out of order. After every run of calls of a connected executor
without a feed, the batches that were sent and the buffers hold all writes of the run in their
order, and the buffers are shorter than their thresholds. After a flush, and after a shutdown,
nothing waits: every write was in exactly one statement. -/
theorem every_write_is_sent_once [Url.Idna] {config : ClientConfig} {w₀ w₁ : World} {e : Executor}
    (connected : (connect config).run w₀ = (.ok e, w₁)) (noFeed : config.feed = none)
    (calls : List Action) :
    let run := (Dialogue.session Executor.perform e calls).run w₁
    let flushed := run.1.2.flush.run run.2
    let ended := run.1.2.shutdown.run run.2
    (InsertsSpread e (sentSince w₁ run.2) run.1.2.inserts calls ∧
        UpdatesSpread e (sentSince w₁ run.2) run.1.2.updates calls) ∧
      run.1.2.inserts.length < max 1 config.batchInserts ∧
      run.1.2.updates.length < max 1 config.batchUpdates ∧
      (flushed.1.2.inserts = [] ∧ flushed.1.2.updates = []) ∧
      (InsertsSpread e (sentSince w₁ flushed.2) [] calls ∧
        UpdatesSpread e (sentSince w₁ flushed.2) [] calls) ∧
      (InsertsSpread e (sentSince w₁ ended.2) [] calls ∧
        UpdatesSpread e (sentSince w₁ ended.2) [] calls) := by
  intro run flushed ended
  have fresh := fresh_of_connect connected
  obtain ⟨held, fits⟩ := accounts_session fresh noFeed w₁ calls
  have hconfig : run.1.2.config = config := by
    obtain ⟨sent, began, -⟩ := held.spread
    exact began.config.trans fresh.configured
  obtain ⟨sent, left⟩ := leaves_flush held.idle run.2
  have heldFlushed := held.flush.shown
  rw [left.inserts, left.updates] at heldFlushed
  -- without a feed a shutdown exchanges what a flush does
  have hended : ended.2 = flushed.2 :=
    congrArg Prod.snd (run_shutdown_of_no_feed held.idle held.noFeed run.2)
  have hinserts := fits.inserts
  have hupdates := fits.updates
  rw [hconfig] at hinserts hupdates
  refine ⟨held.shown, hinserts, hupdates, ⟨left.inserts, left.updates⟩, heldFlushed, ?_⟩
  rw [hended]
  exact heldFlushed

/-- Three inserts, two of which share a statement, are sent once though no statement is
answered. -/
theorem three_inserts_are_sent_once :
    ∃ e w, (connect { url := "http://[::1]", batchInserts := 2 }).run (.scripted catalogAnswers) =
        (.ok e, w) ∧
      let calls : List Action := [.insert "a" .empty, .insert "b" .empty, .insert "c" .empty]
      let run := (Dialogue.session Executor.perform e calls).run w
      InsertsSpread e (sentSince w (run.1.2.shutdown.run run.2).2) [] calls := by
  obtain ⟨e, w, connected, -, -⟩ := @connect_of_catalogAnswers _
    { url := "http://[::1]", batchInserts := 2 } rfl (by decide +kernel) rfl []
  exact ⟨e, w, connected, (every_write_is_sent_once connected rfl _).2.2.2.2.2.1⟩

end Executor

end SqlppBench
