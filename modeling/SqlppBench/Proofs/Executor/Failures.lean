import SqlppBench.Proofs.Executor.Discovery
import SqlppBench.Proofs.Executor.Feeding

/-! # Fatal failures

Of all calls only an insert into a feed can fail fatally (`Treats`). Such a failure is the end of a
connection and not of the session: the insert tries once to connect again, and no later insert
succeeds before an attempt has (`disconnected_of_follows`). The other calls have nothing to do with
the feed.
-/

namespace SqlppBench

/-- A passing failure is not fatal. -/
theorem Error.IsPassing.isFatal {fault : Error} (h : fault.IsPassing) : fault.isFatal = false := by
  rw [← Bool.not_eq_true, Error.isFatal_iff]
  exact h.1

/-- A connection that cannot be closed is no fatal failure. -/
theorem FeedWriter.failsOnly_close (w : FeedWriter) {t : List Said} {result : Except Error Unit}
    (h : w.close.Plays t result) : FailsOnly Error.IsPassing result := by
  unfold close at h
  split at h
  · obtain ⟨-, rfl⟩ := Dialogue.plays_done_iff.1 h
    exact failsOnly_ok ()
  · obtain ⟨reply, rest, -, hrest⟩ := Dialogue.plays_perform_iff.1 h
    cases reply with
    | error reason =>
        obtain ⟨-, rfl⟩ := Dialogue.plays_done_iff.1 hrest
        exact failsOnly_error (by simp [Error.IsPassing, Error.kind])
    | ok u =>
        obtain ⟨-, rfl⟩ := Dialogue.plays_done_iff.1 hrest
        exact failsOnly_ok ()

namespace Executor

open Dialogue

variable {e e' : Executor} {t : List Said}

/-! ## The failures of a call -/

theorem failsOnly_closeFeed {result : Except Error Unit} (h : e.closeFeed.Plays t result) :
    FailsOnly Error.IsPassing result := by
  unfold closeFeed at h
  split at h
  · rw [(plays_done_iff.1 h).2]
    exact failsOnly_ok ()
  · rename_i w _
    exact w.failsOnly_close h

/-- A flush fails as its statement does, and leaves the executor settled. -/
theorem WriteKind.failsOnly_flush (k : WriteKind) (settled : e.Settled)
    {result : Except Error Unit} (h : (k.flush e).Plays t (result, e')) :
    FailsOnly Error.IsPassing result ∧ e'.Settled := by
  rcases k.plays_flush settled.idle h with ⟨-, -, rfl, rfl⟩ | ⟨-, a, -, rfl, rfl⟩
  · exact ⟨failsOnly_ok (), settled⟩
  · exact ⟨Connector.failsOnly_effectOf a, (k.settled_emptied settled).answered a _⟩

/-- A write that does not go to the feed fails as its statement does. -/
theorem WriteKind.failsOnly_write {k : WriteKind} (gathers : k = .insert → e.feed = none)
    (settled : e.Settled) {key : String} {values : FieldValues} {result : Except Error Outcome}
    (h : (k.write e key values).Plays t (result, e')) : FailsOnly Error.IsPassing result := by
  rcases plays_write gathers settled h with ⟨-, -, rfl, -⟩ | ⟨-, a, -, rfl, -⟩
  · exact failsOnly_ok _
  · exact failsOnly_committed (Connector.failsOnly_effectOf a)

theorem failsOnly_flush (settled : e.Settled) {result : Except Error Unit}
    (h : e.flush.Plays t (result, e')) : FailsOnly Error.IsPassing result ∧ e'.Settled := by
  obtain ⟨first, ⟨inserts, between⟩, rest, rfl, hinserts, hrest⟩ := plays_bind_iff.1 h
  obtain ⟨second, ⟨updates, after⟩, nothing, rfl, hupdates, hdone⟩ := plays_bind_iff.1 hrest
  obtain ⟨rfl, hresult⟩ := plays_done_iff.1 hdone
  obtain ⟨rfl, rfl⟩ := Prod.mk.inj hresult
  obtain ⟨passing, settled⟩ := WriteKind.insert.failsOnly_flush settled hinserts
  obtain ⟨passing', settled⟩ := WriteKind.update.failsOnly_flush settled hupdates
  exact ⟨failsOnly_both passing passing', settled⟩

theorem failsOnly_lookup (settled : e.Settled) {a : Action} (looksUp : a.isLookup = true)
    {result : Except Error Reply} (h : (e.perform a).Plays t (result, e')) :
    FailsOnly Error.IsPassing result ∧ e'.Settled := by
  rcases plays_lookup looksUp h with
    ⟨-, rfl, passing⟩ | ⟨operation, statement, fields, records, hfetch, passing⟩
  · exact ⟨passing, settled⟩
  · obtain ⟨a, -, rfl, rfl⟩ := plays_fetch settled.idle hfetch
    have decoded := (Connector.failsOnly_recordsOf a).bind (failsOnly_decodeAll fields)
    exact ⟨passing decoded, settled.answered a _⟩

/-- A call that is no insert fails as its statements do, and leaves the executor settled. -/
theorem failsOnly_of_plays (settled : e.Settled) {a : Action}
    (other : ∀ key values, a ≠ .insert key values) {result : Except Error Reply}
    (h : (e.perform a).Plays t (result, e')) :
    FailsOnly Error.IsPassing result ∧ e'.Settled := by
  cases a with
  | read key fields => exact failsOnly_lookup settled rfl h
  | scan start count fields => exact failsOnly_lookup settled rfl h
  | insert key values => exact absurd rfl (other key values)
  | update key values =>
      obtain ⟨given, hgiven, rfl⟩ := plays_replying_iff.1 h
      exact ⟨(WriteKind.failsOnly_write (k := .update) nofun settled hgiven).map _,
        (WriteKind.session_write (k := .update) nofun settled hgiven).1⟩
  | delete key =>
      obtain ⟨given, hgiven, rfl⟩ := plays_replying_iff.1 h
      obtain ⟨a, -, rfl, rfl⟩ := plays_execute settled.idle hgiven
      exact ⟨(Connector.failsOnly_effectOf a).map _, settled.answered a _⟩
  | flush =>
      obtain ⟨given, hgiven, rfl⟩ := plays_replying_iff.1 h
      obtain ⟨passing, settled⟩ := failsOnly_flush settled hgiven
      exact ⟨passing.map _, settled⟩

/-- What a call does to the feed: it leaves it alone, writes to it, or loses the connection and
tries to connect again, which is the only failure that is not a passing one. -/
inductive Treats (e : Executor) (a : Action) (t : List Said) (result : Except Error Reply)
    (e' : Executor) : Prop
  | spared : (∀ key values, a = .insert key values → e.feed = none) →
      FailsOnly Error.IsPassing result → e'.feed = e.feed → Treats e a t result e'
  | written {key : String} {values : FieldValues} {writer : FeedWriter} {id : ConnectionId}
      {reply : Reply} : a = .insert key values → e.feed = some writer →
      writer.connection = some id → result = .ok reply → e'.feed = e.feed → Treats e a t result e'
  | lost {key : String} {values : FieldValues} {writer : FeedWriter} {message : String}
      (reply : Except String ConnectionId) : a = .insert key values → e.feed = some writer →
      result = .error (.feed message) →
      (⟨.connect writer.config.host writer.config.port, reply⟩ : Said) ∈ t →
      e'.feed = some { writer with connection := reply.toOption } → Treats e a t result e'

/-- Every call of a settled executor treats the feed in one of the three ways. -/
theorem treats_of_plays (settled : e.Settled) {a : Action} {result : Except Error Reply}
    (h : (e.perform a).Plays t (result, e')) : Treats e a t result e' ∧ e'.Settled := by
  by_cases other : ∀ key values, a ≠ .insert key values
  · obtain ⟨passing, settled'⟩ := failsOnly_of_plays settled other h
    have feed := (sparesFeed_of_plays settled other h).continues.feed
    exact ⟨.spared (fun key values ha => absurd ha (other key values)) passing feed, settled'⟩
  · simp only [ne_eq, not_forall, not_not] at other
    obtain ⟨key, values, rfl⟩ := other
    obtain ⟨given, hgiven, rfl⟩ := plays_replying_iff.1 h
    cases hfeed : e.feed with
    | none =>
        have gathers : WriteKind.insert = .insert → e.feed = none := fun _ => hfeed
        obtain ⟨settled', continues⟩ := WriteKind.session_write gathers settled hgiven
        have passing := WriteKind.failsOnly_write gathers settled hgiven
        exact ⟨.spared (fun _ _ _ => hfeed) (passing.map _) continues.feed, settled'⟩
    | some writer =>
        rcases plays_insert_of_feed hfeed hgiven with
          ⟨id, hid, -, rfl, rfl⟩ | ⟨reason, reply, message, rfl, rfl, rfl⟩
        · exact ⟨.written rfl hfeed hid rfl rfl, settled⟩
        · exact ⟨.lost reply rfl hfeed rfl (by simp) rfl,
            ⟨settled.idle, settled.fits.inserts, settled.fits.updates⟩⟩

/-! ## One call after another -/

/-- A call of a session, with all that is said for it. -/
structure Step where
  before : Executor
  call : Action
  said : List Said
  reply : Except Error Reply
  after : Executor

/-- Steps one after the other. Nothing is assumed about the replies of the world. -/
inductive Follows : Executor → List Step → Executor → Prop
  | nil (e : Executor) : Follows e [] e
  | cons {step : Step} {steps : List Step} {e' : Executor} :
      (step.before.perform step.call).Plays step.said (step.reply, step.after) →
      Follows step.after steps e' → Follows step.before (step :: steps) e'

/-- A call in a world. -/
def stepIn (e : Executor) (w : World) (a : Action) : Step :=
  ⟨e, a, (e.perform a).said w, ((e.perform a).run w).1.1, ((e.perform a).run w).1.2⟩

/-- A call in a world is a step, whatever steps follow it. -/
theorem follows_stepIn {w : World} {a : Action} {steps : List Step}
    (h : Follows (e.stepIn w a).after steps e') : Follows e (e.stepIn w a :: steps) e' :=
  .cons ((e.perform a).plays_said w) h

@[simp] theorem follows_nil_iff : Follows e [] e' ↔ e' = e := by
  constructor
  · rintro ⟨⟩
    rfl
  · rintro rfl
    exact .nil e'

@[simp] theorem follows_cons_iff {step : Step} {steps : List Step} :
    Follows e (step :: steps) e' ↔
      e = step.before ∧ (step.before.perform step.call).Plays step.said (step.reply, step.after) ∧
        Follows step.after steps e' := by
  constructor
  · rintro ⟨⟩
    exact ⟨rfl, ‹_›, ‹_›⟩
  · rintro ⟨rfl, hstep, hsteps⟩
    exact .cons hstep hsteps

theorem follows_append_iff {steps others : List Step} {e'' : Executor} :
    Follows e (steps ++ others) e'' ↔ ∃ e', Follows e steps e' ∧ Follows e' others e'' := by
  induction steps generalizing e with
  | nil => simp
  | cons step steps ih => simp [ih, and_assoc]

/-- What is kept of an executor from one call to the next: it is settled, and it has the feed of its
configuration, connected or not. -/
structure Serves (config : ClientConfig) (e : Executor) : Prop where
  settled : e.Settled
  feed : e.feed.map FeedWriter.config = config.feed

variable {config : ClientConfig}

/-- A connected executor has its feed. -/
theorem serves_of_connect [Url.Idna] (connected : (connect config).Plays t (.ok e)) :
    Serves config e := by
  obtain ⟨fresh, _, _, _, _, _, -, hfeed⟩ := fresh_of_plays connected
  refine ⟨fresh.settled, ?_⟩
  rcases hfeed with ⟨hnone, -⟩ | ⟨f, id, hsome, -, hwriter⟩
  · rw [fresh.noFeed hnone, hnone]
    rfl
  · rw [hwriter, hsome]
    rfl

/-- A call keeps the feed, whatever becomes of the connection. -/
theorem Serves.perform (h : Serves config e) {a : Action} {result : Except Error Reply}
    (plays : (e.perform a).Plays t (result, e')) : Serves config e' := by
  obtain ⟨treats, settled⟩ := treats_of_plays h.settled plays
  refine ⟨settled, ?_⟩
  cases treats with
  | spared _ _ same => rw [same, h.feed]
  | written _ _ _ _ same => rw [same, h.feed]
  | lost _ _ hfeed _ _ after =>
      rw [after, ← h.feed, hfeed]
      rfl

/-- So do steps. -/
theorem Serves.follows (h : Serves config e) {steps : List Step} (runs : Follows e steps e') :
    Serves config e' := by
  induction runs with
  | nil => exact h
  | cons hstep _ ih => exact ih (h.perform hstep)

/-- A step that fails fatally and in which the feed is connected anew. -/
def Step.Reconnects (f : FeedConfig) (step : Step) : Prop :=
  (∃ fault, step.reply = .error fault ∧ fault.isFatal = true) ∧
    ∃ id, (⟨.connect f.host f.port, .ok id⟩ : Said) ∈ step.said

/-- A step that loses the connection leaves the feed unconnected unless it connects it anew. -/
theorem disconnected_or_reconnects {f : FeedConfig} {step : Step} {message : String}
    {reply : Except String ConnectionId} (failed : step.reply = .error (.feed message))
    (said : (⟨.connect f.host f.port, reply⟩ : Said) ∈ step.said)
    (after : step.after.feed = some ⟨f, reply.toOption⟩) :
    step.after.feed = some ⟨f, none⟩ ∨ step.Reconnects f := by
  cases reply with
  | error reason => exact .inl after
  | ok id => exact .inr ⟨⟨_, failed, rfl⟩, id, said⟩

/-- Without a connection, a step leaves the feed unconnected unless it connects it anew; an insert
does not succeed in it. -/
theorem disconnected_of_perform {f : FeedConfig} (settled : e.Settled)
    (disconnected : e.feed = some ⟨f, none⟩) {a : Action} {result : Except Error Reply}
    (plays : (e.perform a).Plays t (result, e')) :
    (e'.feed = some ⟨f, none⟩ ∨ Step.Reconnects f ⟨e, a, t, result, e'⟩) ∧
      ∀ key values, a = .insert key values → ∀ reply, result ≠ .ok reply := by
  cases (treats_of_plays settled plays).1 with
  | spared feedless _ same =>
      refine ⟨.inl (same.trans disconnected), fun key values ha => ?_⟩
      have hnone := feedless key values ha
      rw [disconnected] at hnone
      exact nomatch hnone
  | written _ hfeed hid _ _ =>
      obtain rfl := Option.some.inj (disconnected.symm.trans hfeed)
      exact nomatch hid
  | lost reply _ hfeed hresult said after =>
      obtain rfl := Option.some.inj (disconnected.symm.trans hfeed)
      have lost := @disconnected_or_reconnects f ⟨e, a, t, result, e'⟩ _ reply hresult said after
      exact ⟨lost, fun _ _ _ _ hok => nomatch hresult.symm.trans hok⟩

/-- Steps without a new connection leave the feed unconnected. -/
theorem disconnected_of_follows {f : FeedConfig} {steps : List Step} (serves : Serves config e)
    (disconnected : e.feed = some ⟨f, none⟩) (runs : Follows e steps e')
    (never : ∀ x ∈ steps, ¬ x.Reconnects f) : e'.feed = some ⟨f, none⟩ := by
  induction runs with
  | nil => exact disconnected
  | @cons step steps e' hstep _ ih =>
      have first := never step (List.mem_cons_self ..)
      have kept := (disconnected_of_perform serves.settled disconnected hstep).1.resolve_right first
      exact ih (serves.perform hstep) kept fun x hx => never x (List.mem_cons_of_mem _ hx)

/-- From a step that loses the connection to an insert that succeeds, the feed is connected anew. -/
theorem exists_reconnects {f : FeedConfig} {step s : Step} {between after : List Step}
    (serves : Serves config step.after)
    (lost : step.after.feed = some ⟨f, none⟩ ∨ step.Reconnects f)
    (runs : Follows step.after (between ++ s :: after) e')
    (inserts : ∃ key values, s.call = .insert key values)
    (succeeds : ∃ reply, s.reply = .ok reply) : ∃ x ∈ step :: between, x.Reconnects f := by
  obtain ⟨key, values, hcall⟩ := inserts
  obtain ⟨given, hok⟩ := succeeds
  by_contra none
  have never : ∀ x ∈ step :: between, ¬ x.Reconnects f :=
    fun x hx reconnects => none ⟨x, hx, reconnects⟩
  have disconnected := lost.resolve_right (never step (List.mem_cons_self ..))
  obtain ⟨_, hbetween, hs⟩ := follows_append_iff.1 runs
  obtain ⟨rfl, hs, -⟩ := follows_cons_iff.1 hs
  have still := disconnected_of_follows serves disconnected hbetween fun x hx =>
    never x (List.mem_cons_of_mem _ hx)
  exact (disconnected_of_perform (serves.follows hbetween).settled still hs).2 key values hcall
    given hok

/-- A shutdown does not fail fatally. -/
theorem failsOnly_shutdown (settled : e.Settled) {result : Except Error Unit}
    (h : e.shutdown.Plays t result) : FailsOnly Error.IsPassing result := by
  rw [shutdown_eq] at h
  obtain ⟨first, ⟨flushed, after⟩, rest, rfl, hflush, hrest⟩ := plays_bind_iff.1 h
  obtain ⟨second, closed, nothing, rfl, hclose, hdone⟩ := plays_bind_iff.1 hrest
  obtain ⟨-, rfl⟩ := plays_done_iff.1 hdone
  exact failsOnly_both (failsOnly_flush settled hflush).1 (failsOnly_closeFeed hclose)

/-- The answers of the catalog are enough to come to the opening of the feed. -/
theorem run_connect_of_catalogAnswers [Url.Idna] {config : ClientConfig}
    (hurl : (Endpoint.parse config.url).isOk = true)
    (named : (relationName config).check = .ok ()) :
    let w : World := { World.scripted catalogAnswers with feedAccepts := true }
    ∃ endpoint c, (connect config).run w =
      (openFeed { config, connector := c, schema := .ofCatalog "id" [⟨"f", ""⟩] }).run
        ((w.posted ⟨endpoint, (relationName config).primaryKeyStatement⟩).posted
          ⟨endpoint, (relationName config).fieldsStatement⟩) := by
  intro w
  obtain ⟨endpoint, hurl⟩ := exists_eq_ok hurl
  exact ⟨endpoint, run_connect_of_catalog hurl named (keyOf_catalogAnswers _)
    (fieldsOf_catalogAnswers _)⟩

/-- A fatal failure ends the connection of the feed, and not the session.

Whatever the service and the feed reply, an executor that has connected fails fatally in nothing but
an insert, and only where it has a feed. After such a failure no insert succeeds unless the feed was
connected anew, by the insert that failed or by one that has failed so since. All the other calls
say nothing to the feed, and they fail in a passing way at most, and so does the shutdown. -/
theorem fatal_failure_ends_the_feed_connection [Url.Idna] {said : List Said}
    (connected : (connect config).Plays said (.ok e)) {earlier later : List Step} {step : Step}
    (runs : Follows e (earlier ++ step :: later) e') {fault : Error}
    (failed : step.reply = .error fault) (fatal : fault.isFatal = true) :
    ∃ f, config.feed = some f ∧ (∃ key values, step.call = .insert key values) ∧
      (∀ between s after, later = between ++ s :: after →
        (∃ key values, s.call = .insert key values) → (∃ reply, s.reply = .ok reply) →
          ∃ x ∈ step :: between, x.Reconnects f) ∧
      (∀ s ∈ earlier ++ step :: later, (∀ key values, s.call ≠ .insert key values) →
        (∀ x ∈ s.said, x.isForFeed = false) ∧
          ∀ fault, s.reply = .error fault → fault.isFatal = false) ∧
      ∀ t result, e'.shutdown.Plays t result →
        ∀ fault, result = .error fault → fault.isFatal = false := by
  have serves := serves_of_connect connected
  obtain ⟨_, hearlier, hrest⟩ := follows_append_iff.1 runs
  obtain ⟨rfl, hstep, hlater⟩ := follows_cons_iff.1 hrest
  have before := serves.follows hearlier
  cases (treats_of_plays before.settled hstep).1 with
  | spared _ passing _ =>
      have harmless := (passing fault failed).isFatal
      rw [fatal] at harmless
      exact nomatch harmless
  | written _ _ _ hok _ => exact nomatch failed.symm.trans hok
  | @lost key values writer message reply hinsert hfeed hlost hconnect hafter =>
      have hconfig : config.feed = some writer.config := by
        rw [← before.feed, hfeed]
        rfl
      refine ⟨writer.config, hconfig, ⟨key, values, hinsert⟩, ?_, ?_, ?_⟩
      · rintro between s after rfl inserts succeeds
        exact exists_reconnects (before.perform hstep)
          (disconnected_or_reconnects hlost hconnect hafter) hlater inserts succeeds
      · intro s hs other
        obtain ⟨front, back, hsplit⟩ := List.append_of_mem hs
        rw [hsplit] at runs
        obtain ⟨_, hfront, hback⟩ := follows_append_iff.1 runs
        obtain ⟨rfl, hs, -⟩ := follows_cons_iff.1 hback
        have settled := (serves.follows hfront).settled
        refine ⟨(sparesFeed_of_plays settled other hs).said, fun fault hfault => ?_⟩
        exact ((failsOnly_of_plays settled other hs).1 fault hfault).isFatal
      · intro t result hshutdown fault hfault
        exact (failsOnly_shutdown (serves.follows runs).settled hshutdown fault hfault).isFatal

/-- A feed that resets its connection fails the next insert fatally, and takes the one behind it. -/
theorem insert_behind_a_fatal_failure_succeeds :
    ∃ e w, (connect { url := "http://[::1]", feed := some ⟨"localhost", 10001⟩ }).run
        { World.scripted catalogAnswers with feedAccepts := true } = (.ok e, w) ∧
      let fault := FeedWriter.writeFailure ⟨"localhost", 10001⟩ World.reset
      fault.isFatal = true ∧
        (course e w [.call (.insert "a" .empty), .feed .reset, .call (.insert "b" .empty),
          .call (.insert "c" .empty)]).turns.map Turn.reply =
            [.ok (.written .committed), .error fault, .ok (.written .committed)] := by
  obtain ⟨endpoint, c, hrun⟩ := @run_connect_of_catalogAnswers _
    { url := "http://[::1]", feed := some ⟨"localhost", 10001⟩ } (by decide +kernel) rfl
  exact ⟨_, _, hrun, rfl, rfl⟩

/-- It goes over the connection that the failed insert has opened. -/
theorem failed_insert_has_connected_again :
    ∃ e w, (connect { url := "http://[::1]", feed := some ⟨"localhost", 10001⟩ }).run
        { World.scripted catalogAnswers with feedAccepts := true } = (.ok e, w) ∧
      let lost := e.stepIn w.cut (.insert "b" .empty)
      let next := lost.after.stepIn (e.worldAfter w.cut (.insert "b" .empty)) (.insert "c" .empty)
      lost.reply = .error (FeedWriter.writeFailure ⟨"localhost", 10001⟩ World.reset) ∧
        next.reply = .ok (.written .committed) ∧ lost.Reconnects ⟨"localhost", 10001⟩ := by
  obtain ⟨endpoint, c, hrun⟩ := @run_connect_of_catalogAnswers _
    { url := "http://[::1]", feed := some ⟨"localhost", 10001⟩ } (by decide +kernel) rfl
  obtain ⟨e, w, hrun, failed, succeeded⟩ : ∃ e w,
      (connect { url := "http://[::1]", feed := some ⟨"localhost", 10001⟩ }).run
        { World.scripted catalogAnswers with feedAccepts := true } = (.ok e, w) ∧
      let lost := e.stepIn w.cut (.insert "b" .empty)
      lost.reply = .error (FeedWriter.writeFailure ⟨"localhost", 10001⟩ World.reset) ∧
        (lost.after.stepIn (e.worldAfter w.cut (.insert "b" .empty)) (.insert "c" .empty)).reply =
          .ok (.written .committed) := ⟨_, _, hrun, rfl, rfl⟩
  refine ⟨e, w, hrun, failed, succeeded, ?_⟩
  have connected :=
    (connect { url := "http://[::1]", feed := some ⟨"localhost", 10001⟩ }).plays_said
      { World.scripted catalogAnswers with feedAccepts := true }
  rw [hrun] at connected
  obtain ⟨f, hf, -, later, -⟩ := @fatal_failure_ends_the_feed_connection _ _ _ _ _ connected [] _ _
    (follows_stepIn (follows_stepIn (.nil _))) _ failed rfl
  obtain rfl := Option.some.inj hf
  obtain ⟨x, hx, reconnects⟩ := later [] _ [] rfl ⟨_, _, rfl⟩ ⟨_, succeeded⟩
  obtain rfl := List.mem_singleton.1 hx
  exact reconnects

end Executor

end SqlppBench
