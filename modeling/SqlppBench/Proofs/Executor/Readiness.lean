import SqlppBench.Proofs.Executor.Course
import SqlppBench.Proofs.Executor.Delivery

/-! # Ready for the next call

An executor between two calls is settled: no results are open, and no more writes wait than there is
room for (`Settled`). A call of a settled executor sends exactly the statements that it writes
(`statementsOf`), none of them is refused, and it leaves the executor settled, whatever the service
answers and whatever becomes of the feed (`completes_perform`).
-/

namespace SqlppBench

/-! ## Feeds -/

namespace FeedWriter

/-- Writing to a feed posts no request, and a failure to write is one of the feed. -/
theorem run_write (writer : FeedWriter) (record : String) (w : World) :
    ((writer.write record).run w).2.sent = w.sent ∧
      IsOrderly ((writer.write record).run w).1 := by
  unfold write
  split
  · exact ⟨rfl, isOrderly_error (by simp [Error.kind])⟩
  · rename_i id _
    rw [Dialogue.run_perform]
    have hsent := @World.sent_handle (.write id (record ++ "\n")) (by simp) w
    cases h : (World.handle (.write id (record ++ "\n")) w).1 with
    | ok u => exact ⟨hsent, isOrderly_ok ()⟩
    | error reason => exact ⟨hsent, isOrderly_error (by simp [writeFailure, Error.kind])⟩

/-- A new connection is no request. -/
theorem sent_run_reconnect (writer : FeedWriter) (w : World) :
    (writer.reconnect.run w).2.sent = w.sent := by
  unfold reconnect
  rw [Dialogue.run_perform]
  have hsent :=
    @World.sent_handle (.connect writer.config.host writer.config.port) (by simp) w
  cases h : (World.handle (.connect writer.config.host writer.config.port) w).1 <;> exact hsent

theorem run_writeOrReconnect (writer : FeedWriter) (record : String) (w : World) :
    ((writer.writeOrReconnect record).run w).2.sent = w.sent ∧
      IsOrderly ((writer.writeOrReconnect record).run w).1.1 := by
  obtain ⟨hsent, horderly⟩ := writer.run_write record w
  rw [writeOrReconnect, Dialogue.run_bind]
  cases h : ((writer.write record).run w).1 with
  | ok u => exact ⟨hsent, isOrderly_ok ()⟩
  | error fault =>
      simp only [Dialogue.run_bind, Dialogue.run_done, sent_run_reconnect]
      exact ⟨hsent, isOrderly_error (horderly fault h)⟩

end FeedWriter

namespace Executor

open Connector

/-! ## The statements of a call -/

/-- The statements that a call is to send: one for a lookup or a removal, none for a write that goes
to the feed or finds room in its buffer, and one for all writes of a kind that are sent together. -/
def statementsOf (e : Executor) : Action → List String
  | .read key fields =>
    match e.requested fields with
    | .error _ => []
    | .ok names => [e.target.read key names]
  | .scan start count fields =>
    match e.requested fields with
    | .error _ => []
    | .ok names => [e.target.scan start count names]
  | .delete key => [e.target.delete key]
  | .insert key values =>
    let gathered := e.inserts ++ [e.literalOf key values]
    if e.feed.isSome ∨ gathered.length < max 1 e.config.batchInserts then []
    else [e.insertion gathered]
  | .update key values =>
    let gathered := e.updates ++ [e.projectionOf key values]
    if gathered.length < max 1 e.config.batchUpdates then []
    else [e.target.upsertProjections gathered]
  | .flush =>
    (if e.inserts = [] then [] else [e.insertion e.inserts]) ++
      if e.updates = [] then [] else [e.target.upsertProjections e.updates]

/-- An executor between two calls. -/
structure Settled (e : Executor) : Prop where
  idle : e.connector.results = none
  fits : e.Fits

/-- A call has come to its end: the executor is settled again, the given statements were sent, and
the result is no breach of order. -/
structure Completes {α : Type} (w : World) (statements : List String)
    (run : (Except Error α × Executor) × World) : Prop where
  settled : run.1.2.Settled
  sent : run.2.statements = w.statements ++ statements
  orderly : IsOrderly run.1.1

variable {e : Executor} {w : World} {statements : List String} {α β : Type}

/-- A call that leaves buffers with room for more. -/
theorem Completes.of_leaves {inserts updates : List String}
    {run : (Except Error α × Executor) × World}
    (left : Leaves e w statements inserts updates run.1.2 run.2)
    (hinserts : inserts.length < max 1 e.config.batchInserts)
    (hupdates : updates.length < max 1 e.config.batchUpdates) (orderly : IsOrderly run.1.1) :
    Completes w statements run :=
  ⟨⟨left.idle, left.fits hinserts hupdates⟩, left.statements, orderly⟩

/-- What is made of a result does not matter. -/
theorem Completes.of_result {run : (Except Error α × Executor) × World} {result : Except Error β}
    (h : Completes w statements run) (orderly : IsOrderly result) :
    Completes w statements ((result, run.1.2), run.2) :=
  ⟨h.settled, h.sent, orderly⟩

/-! ## Results -/

theorem failsOnly_requested (e : Executor) (fields : Option (List String)) :
    FailsOnly Error.IsPassing (e.requested fields) := by
  unfold requested
  split
  · exact failsOnly_ok _
  · split
    · exact failsOnly_error (by simp [Error.IsPassing, Error.kind])
    · exact failsOnly_ok _

theorem failsOnly_decodeAll (names lines : List String) :
    FailsOnly Error.IsPassing (decodeAll names lines) := by
  induction lines with
  | nil => exact failsOnly_ok []
  | cons line lines ih =>
      unfold decodeAll
      split
      · exact failsOnly_error (by simp [RecordFault.toError, Error.IsPassing, Error.kind])
      · exact ih.map _

section

variable {among : Error → Prop}

theorem failsOnly_firstRecord {key : String} {records : Except Error (List FieldValues)}
    (h : FailsOnly among records) (missing : among (.notFound key)) :
    FailsOnly among (firstRecord key records) := by
  unfold firstRecord
  split
  · exact failsOnly_error (h _ rfl)
  · exact failsOnly_error missing
  · exact failsOnly_ok _

theorem failsOnly_committed {result : Except Error Unit} (h : FailsOnly among result) :
    FailsOnly among (committed result) := by
  unfold committed
  split
  · exact failsOnly_ok _
  · exact failsOnly_error (h _ rfl)

theorem failsOnly_both {a b : Except Error Unit} (ha : FailsOnly among a)
    (hb : FailsOnly among b) : FailsOnly among (both a b) := by
  unfold both
  split
  · exact hb
  · exact failsOnly_error (ha _ rfl)

end

/-! ## Calls -/

/-- Whether a call looks records up. -/
def Action.isLookup : Action → Bool
  | .read .. | .scan .. => true
  | .insert .. | .update .. | .delete .. | .flush => false

/-- How a lookup goes. A field that the schema does not have ends it before anything is sent;
otherwise the records are fetched, and the result is made of them. -/
theorem lookup_cases (e : Executor) {a : Action} (looksUp : a.isLookup = true) :
    (∃ fault, e.statementsOf a = [] ∧ IsOrderly (.error fault : Except Error Reply) ∧
        ∀ w, (e.perform a).run w = ((.error fault, e), w)) ∨
      ∃ (operation : Operation) (statement : String) (names : List String)
          (ofRecords : Except Error (List FieldValues) → Except Error Reply),
        e.statementsOf a = [statement] ∧ (∀ fault, ofRecords (.error fault) = .error fault) ∧
          (∀ records, IsOrderly records → IsOrderly (ofRecords records)) ∧
          ∀ w, (e.perform a).run w =
            let run := (e.fetch operation statement names).run w
            ((ofRecords run.1.1, run.1.2), run.2) := by
  cases a with
  | read key fields =>
      rw [statementsOf]
      have orderly := (failsOnly_requested e fields).isOrderly
      cases hfields : e.requested fields with
      | error fault =>
          refine .inl ⟨fault, rfl, isOrderly_error (orderly fault hfields), fun w => ?_⟩
          rw [perform, run_replying, run_read_of_unknown hfields]
          rfl
      | ok names =>
          have missing : (Error.notFound key).kind ≠ .discipline := by simp [Error.kind]
          refine .inr ⟨.read, e.target.read key names, names,
            fun records => (firstRecord key records).map .record, rfl, fun _ => rfl,
            fun records hrecords => .map (failsOnly_firstRecord hrecords missing) _, fun w => ?_⟩
          rw [perform, run_replying, run_read hfields]
  | scan start count fields =>
      rw [statementsOf]
      have orderly := (failsOnly_requested e fields).isOrderly
      cases hfields : e.requested fields with
      | error fault =>
          refine .inl ⟨fault, rfl, isOrderly_error (orderly fault hfields), fun w => ?_⟩
          rw [perform, run_replying, run_scan_of_unknown hfields]
          rfl
      | ok names =>
          refine .inr ⟨.scan, e.target.scan start count names, names,
            fun records => (records.map fun found => found.take count).map .records, rfl,
            fun _ => rfl, fun records hrecords => (hrecords.map _).map _, fun w => ?_⟩
          rw [perform, run_replying, run_scan hfields]
  | insert key values => exact absurd looksUp Bool.false_ne_true
  | update key values => exact absurd looksUp Bool.false_ne_true
  | delete key => exact absurd looksUp Bool.false_ne_true
  | flush => exact absurd looksUp Bool.false_ne_true

theorem completes_execute (h : e.Settled) (operation : Operation) (statement : String)
    (w : World) : Completes w [statement] ((e.execute operation statement).run w) := by
  refine .of_leaves (leaves_execute h.idle operation statement w) h.fits.inserts h.fits.updates ?_
  rw [run_execute h.idle]
  exact (failsOnly_effectOf _).isOrderly

theorem completes_fetch (h : e.Settled) (operation : Operation) (statement : String)
    (names : List String) (w : World) :
    Completes w [statement] ((e.fetch operation statement names).run w) := by
  refine .of_leaves (leaves_fetch h.idle operation statement names w) h.fits.inserts
    h.fits.updates ?_
  rw [run_fetch h.idle]
  exact ((failsOnly_recordsOf _).bind (failsOnly_decodeAll names)).isOrderly

/-- The inserts that wait are sent, however many they are. -/
theorem completes_flushInserts (idle : e.connector.results = none)
    (hupdates : e.updates.length < max 1 e.config.batchUpdates) (w : World) :
    Completes w (if e.inserts = [] then [] else [e.insertion e.inserts])
      (e.flushInserts.run w) := by
  refine .of_leaves (leaves_flushInserts idle w) (length_nil_lt _) hupdates ?_
  by_cases hnil : e.inserts = []
  · rw [run_flushInserts_of_nil hnil]
    exact isOrderly_ok ()
  · rw [flushInserts_of_ne_nil hnil, run_execute (e := { e with inserts := [] }) idle]
    exact (failsOnly_effectOf _).isOrderly

/-- The updates that wait are sent, however many they are. -/
theorem completes_flushUpdates (idle : e.connector.results = none)
    (hinserts : e.inserts.length < max 1 e.config.batchInserts) (w : World) :
    Completes w (if e.updates = [] then [] else [e.target.upsertProjections e.updates])
      (e.flushUpdates.run w) := by
  refine .of_leaves (leaves_flushUpdates idle w) hinserts (length_nil_lt _) ?_
  by_cases hnil : e.updates = []
  · rw [run_flushUpdates_of_nil hnil]
    exact isOrderly_ok ()
  · rw [flushUpdates_of_ne_nil hnil, run_execute (e := { e with updates := [] }) idle]
    exact (failsOnly_effectOf _).isOrderly

/-- A lookup sends its statement, if it gets so far. -/
theorem completes_lookup (h : e.Settled) {a : Action} (looksUp : a.isLookup = true) (w : World) :
    Completes w (e.statementsOf a) ((e.perform a).run w) := by
  rcases e.lookup_cases looksUp with
    ⟨fault, hnone, orderly, hrun⟩ | ⟨operation, statement, names, ofRecords, hstatement, -, orderly,
      hrun⟩
  · rw [hrun, hnone]
    exact ⟨h, (List.append_nil _).symm, orderly⟩
  · rw [hrun, hstatement]
    have fetched := completes_fetch h operation statement names w
    exact fetched.of_result (orderly _ fetched.orderly)

/-- A write to the feed sends no statement. -/
theorem completes_feedInsert (h : e.Settled) (writer : FeedWriter) (literal : String)
    (w : World) : Completes w [] ((e.feedInsert writer literal).run w) := by
  rw [feedInsert, run_logging, Dialogue.run_bind]
  obtain ⟨hsent, horderly⟩ := writer.run_writeOrReconnect literal
    (w.loggedIf e.config.printStatements .insert literal)
  refine ⟨⟨h.idle, h.fits.inserts, h.fits.updates⟩, ?_, failsOnly_committed horderly⟩
  simp [World.statements, hsent]

theorem completes_insert (h : e.Settled) (key : String) (values : FieldValues) (w : World) :
    Completes w (e.statementsOf (.insert key values)) ((e.insert key values).run w) := by
  cases hfeed : e.feed with
  | some writer =>
      rw [insert_of_feed hfeed, statementsOf, if_pos (.inl (by simp [hfeed]))]
      exact completes_feedInsert h writer _ w
  | none =>
      by_cases room : (e.inserts ++ [e.literalOf key values]).length <
          max 1 e.config.batchInserts
      · rw [run_insert_of_room hfeed room, statementsOf, if_pos (.inr room)]
        exact ⟨⟨h.idle, room, h.fits.updates⟩, by simp, isOrderly_ok _⟩
      · rw [run_insert_of_full hfeed h.fits (by omega), statementsOf,
          if_neg (by simpa [hfeed] using room)]
        have flushed := @completes_flushInserts
          { e with inserts := e.inserts ++ [e.literalOf key values] } h.idle h.fits.updates w
        simp only [List.append_ne_nil_of_right_ne_nil _ (List.cons_ne_nil _ _), if_false]
          at flushed
        exact flushed.of_result (failsOnly_committed flushed.orderly)

theorem completes_update (h : e.Settled) (key : String) (values : FieldValues) (w : World) :
    Completes w (e.statementsOf (.update key values)) ((e.update key values).run w) := by
  by_cases room : (e.updates ++ [e.projectionOf key values]).length <
      max 1 e.config.batchUpdates
  · rw [run_update_of_room room, statementsOf, if_pos room]
    exact ⟨⟨h.idle, h.fits.inserts, room⟩, by simp, isOrderly_ok _⟩
  · rw [run_update_of_full h.fits (by omega), statementsOf, if_neg room]
    have flushed := @completes_flushUpdates
      { e with updates := e.updates ++ [e.projectionOf key values] } h.idle h.fits.inserts w
    simp only [List.append_ne_nil_of_right_ne_nil _ (List.cons_ne_nil _ _), if_false] at flushed
    exact flushed.of_result (failsOnly_committed flushed.orderly)

theorem completes_flush (h : e.Settled) (w : World) :
    Completes w (e.statementsOf .flush) (e.flush.run w) := by
  have inserts := completes_flushInserts h.idle h.fits.updates w
  have left := leaves_flushInserts h.idle w
  have updates := completes_flushUpdates inserts.settled.idle inserts.settled.fits.inserts
    (e.flushInserts.run w).2
  rw [left.updates, left.continues.target] at updates
  rw [run_flush]
  refine ⟨updates.settled, ?_, failsOnly_both inserts.orderly updates.orderly⟩
  rw [updates.sent, inserts.sent, List.append_assoc]
  rfl

/-- Every call of a settled executor sends its statements and leaves the executor settled. -/
theorem completes_perform (h : e.Settled) (action : Action) (w : World) :
    Completes w (e.statementsOf action) ((e.perform action).run w) := by
  have replying {γ : Type} (reply : γ → Reply) {d : Dialogue (Except Error γ × Executor)}
      (hd : Completes w (e.statementsOf action) (d.run w)) :
      Completes w (e.statementsOf action) ((replying reply d).run w) := by
    rw [run_replying]
    exact hd.of_result (hd.orderly.map reply)
  cases action with
  | read key fields => exact completes_lookup h rfl w
  | scan start count fields => exact completes_lookup h rfl w
  | insert key values => exact replying _ (completes_insert h key values w)
  | update key values => exact replying _ (completes_update h key values w)
  | delete key => exact replying _ (completes_execute h .delete (e.target.delete key) w)
  | flush => exact replying _ (completes_flush h w)

/-! ## Sessions -/

/-- A fresh executor is settled. -/
theorem Fresh.settled {config : ClientConfig} (h : Fresh config e) : e.Settled := by
  refine ⟨h.idle, ?_, ?_⟩
  · rw [h.inserts]
    exact length_nil_lt _
  · rw [h.updates]
    exact length_nil_lt _

/-- Between calls no results are open. -/
theorem Reached.idle [Url.Idna] {config : ClientConfig} (h : Reached config e w) :
    e.connector.results = none := by
  obtain ⟨w₀, e₀, w₁, calls, replies, hconnect, hsession⟩ := h
  have settled := @Dialogue.session_induction _ _ _ perform (fun _ e _ => e.Settled)
    (fun _ _ w call held => (completes_perform held call w).settled) [] e₀ w₁
    (fresh_of_connect hconnect).settled calls
  rw [hsession] at settled
  exact settled.idle

/-- Nothing is open on the connector of a settled executor. -/
theorem Settled.cursorState (h : e.Settled) : e.connector.cursorState = none := by
  rw [Connector.cursorState, h.idle]
  rfl

/-- A call that is made of a ready connector and leaves it ready. -/
structure Turn.KeepsReady (t : Turn) : Prop where
  before : t.before.connector.cursorState = none
  /-- Exactly the statements of the call are sent. -/
  sends : t.statements = t.before.statementsOf t.call
  inFlight : t.reply ≠ .error .statementInFlight
  noStatement : t.reply ≠ .error .noStatement
  after : t.after.connector.cursorState = none

/-- Calls of a settled executor keep the connector ready. -/
theorem keepsReady_turn (h : e.Settled) (w : World) (action : Action) :
    (e.turn w action).KeepsReady ∧ (e.turn w action).after.Settled := by
  have completes := completes_perform h action w
  obtain ⟨hflight, hstatement⟩ := completes.orderly.ne_breach
  exact ⟨⟨h.cursorState, statements_turn completes.sent, hflight, hstatement,
    completes.settled.cursorState⟩, completes.settled⟩

/-- Whatever the calls are and whatever the service and the feed do, a session keeps its executor
settled, and each of its calls keeps the connector ready. -/
theorem keepsReady_course (h : e.Settled) (w : World) (events : List Event) :
    (∀ t ∈ (course e w events).turns, t.KeepsReady) ∧ (course e w events).executor.Settled :=
  course_induction (fun e _ => e.Settled) Turn.KeepsReady (fun _ _ _ settled => settled)
    (fun _ w action settled => keepsReady_turn settled w action) h events

/-- An executor is settled whenever no call is under way. -/
theorem Alive.settled [Url.Idna] {config : ClientConfig} (h : Alive config e) : e.Settled := by
  obtain ⟨w₀, e₀, w₁, events, connected, rfl⟩ := h
  exact (keepsReady_course (fresh_of_connect connected).settled w₁ events).2

/-- Every call leaves the connector ready for the next one. In every session of a connected
executor, with any calls in any order, any answers of the service and any events of the feed,
nothing is open between two calls, every call sends exactly its statements, and none fails because
a statement is in flight or because there is none. -/
theorem every_call_keeps_the_connector_ready [Url.Idna] {config : ClientConfig} {w₀ w₁ : World}
    {e : Executor} (connected : (connect config).run w₀ = (.ok e, w₁)) (events : List Event) :
    (∀ t ∈ (course e w₁ events).turns, t.KeepsReady) ∧
      (course e w₁ events).executor.connector.cursorState = none := by
  obtain ⟨turns, settled⟩ := keepsReady_course (fresh_of_connect connected).settled w₁ events
  exact ⟨turns, settled.cursorState⟩

/-- A lookup that gives no object and a removal that is dropped keep the connector ready. -/
theorem failed_calls_keep_the_connector_ready :
    ∃ e w, (connect { url := "http://[::1]" }).run (.scripted (catalogAnswers ++
        [.response 200 ⟨Utf8.encode "\"results\": [ 7\n]\n", none⟩])) = (.ok e, w) ∧
      let course := course e w
        [.call (.read "a" none), .feed .reset, .call (.delete "a"), .call .flush]
      course.turns.map Turn.call = [.read "a" none, .delete "a", .flush] ∧
        (∀ t ∈ course.turns, t.KeepsReady) ∧ course.executor.connector.cursorState = none := by
  obtain ⟨e, w, connected, -, -⟩ := @connect_of_catalogAnswers _ { url := "http://[::1]" } rfl
    (by decide +kernel) rfl [.response 200 ⟨Utf8.encode "\"results\": [ 7\n]\n", none⟩]
  exact ⟨e, w, connected, rfl, every_call_keeps_the_connector_ready connected _⟩

end Executor

end SqlppBench
