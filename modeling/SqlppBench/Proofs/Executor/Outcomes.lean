import SqlppBench.Proofs.Executor.Readiness

/-! # How writes end

A write is told `committed` when the statement that carries it was acknowledged, and `batched` when
it waits; nothing else is a success (`Turn.IsHonest`). Inserts and updates are gathered alike, so
what is said about them is said once for both kinds (`WriteKind`).

One call lets the writes that wait go on waiting, with its own behind them, or sends all of them in
one statement; if this is not acknowledged, the call itself fails (`Turn.Handles`). So a batch that
waits at some point of a course still waits at its end, or was sent in a statement that was
acknowledged or whose sender was told of a failure (`waiting_or_sent`).
-/

namespace SqlppBench

/-- A statement without records succeeds exactly when it was acknowledged. -/
theorem Exchange.effectOf_eq_ok_iff (x : Exchange) :
    Connector.effectOf x.answer = .ok () ↔ x.IsAcknowledged := by
  obtain ⟨request, answer⟩ := x
  constructor
  · intro h
    cases answer with
    | dropped reason => simp [Connector.effectOf, Connector.bodyOf] at h
    | response status body =>
        by_cases hstatus : status = 200
        · subst hstatus
          cases hfailure : body.failure with
          | none => exact ⟨body, rfl, hfailure⟩
          | some reason => simp [Connector.effectOf, Connector.bodyOf, hfailure] at h
        · simp [Connector.effectOf, Connector.bodyOf, hstatus] at h
  · rintro ⟨body, rfl, hfailure⟩
    simp [Connector.effectOf, Connector.bodyOf, hfailure]

theorem Exchange.isAcknowledged_or_error (x : Exchange) :
    x.IsAcknowledged ∨ ∃ fault, Connector.effectOf x.answer = .error fault := by
  cases h : Connector.effectOf x.answer with
  | ok u => exact .inl (x.effectOf_eq_ok_iff.1 h)
  | error fault => exact .inr ⟨fault, rfl⟩

namespace Executor

/-! ## Kinds of writes -/

/-- The writes that are gathered. -/
inductive WriteKind where
  | insert
  | update
deriving DecidableEq, Repr

namespace WriteKind

/-- The writes that wait. -/
def waiting : WriteKind → Executor → List String
  | .insert, e => e.inserts
  | .update, e => e.updates

/-- What a call writes, if it is a write of the kind. -/
def write? : WriteKind → Executor → Action → Option String
  | .insert, e => e.inserted?
  | .update, e => e.updated?

/-- The statement for some writes. -/
def statement : WriteKind → Executor → List String → String
  | .insert, e => e.insertion
  | .update, e => e.target.upsertProjections

/-- How many writes go into one statement. -/
def threshold : WriteKind → ClientConfig → Nat
  | .insert, config => config.batchInserts
  | .update, config => config.batchUpdates

/-- Sends the writes that wait. -/
def flush : WriteKind → Executor → Dialogue (Except Error Unit × Executor)
  | .insert, e => e.flushInserts
  | .update, e => e.flushUpdates

/-- The executor once another write waits. -/
def gather : WriteKind → Executor → String → Executor
  | .insert, e, write => { e with inserts := e.inserts ++ [write] }
  | .update, e, write => { e with updates := e.updates ++ [write] }

/-- What some calls write, in their order. -/
def writesOf (k : WriteKind) (e : Executor) (turns : List Turn) : List String :=
  turns.filterMap fun t => k.write? e t.call

variable {k : WriteKind} {e : Executor} {w : World} {a : Action} {write : String}

@[simp] theorem waiting_gather (k : WriteKind) (e : Executor) (write : String) :
    k.waiting (k.gather e write) = k.waiting e ++ [write] := by
  cases k <;> rfl

@[simp] theorem statement_gather (k : WriteKind) (e : Executor) (write : String) :
    k.statement (k.gather e write) = k.statement e := by
  cases k <;> rfl

@[simp] theorem connector_gather (k : WriteKind) (e : Executor) (write : String) :
    (k.gather e write).connector = e.connector := by
  cases k <;> rfl

/-- Nothing is sent when nothing waits. -/
theorem run_flush_of_nil (h : k.waiting e = []) (w : World) :
    (k.flush e).run w = ((.ok (), e), w) := by
  cases k with
  | insert => exact run_flushInserts_of_nil h w
  | update => exact run_flushUpdates_of_nil h w

/-- One statement is sent for all writes that wait, and its answer alone decides the result. -/
theorem exchange_flush (idle : e.connector.results = none) (h : k.waiting e ≠ []) (w : World) :
    let run := (k.flush e).run w
    ∃ x : Exchange, w.Reaches [x] run.2 ∧ x.request.statement = k.statement e (k.waiting e) ∧
      run.1.1 = Connector.effectOf x.answer := by
  cases k with
  | insert =>
      simp only [flush]
      rw [flushInserts_of_ne_nil h, run_execute (e := { e with inserts := [] }) idle]
      exact ⟨_, w.reaches_posted _ _ _ _, rfl, rfl⟩
  | update =>
      simp only [flush]
      rw [flushUpdates_of_ne_nil h, run_execute (e := { e with updates := [] }) idle]
      exact ⟨_, w.reaches_posted _ _ _ _, rfl, rfl⟩

/-- Nothing waits any longer behind a flush. -/
theorem waiting_run_flush (idle : e.connector.results = none) (w : World) :
    k.waiting ((k.flush e).run w).1.2 = [] := by
  cases k with
  | insert => exact (leaves_flushInserts idle w).inserts
  | update => exact (leaves_flushUpdates idle w).updates

/-- A write waits while fewer wait than go into one statement. -/
theorem run_perform_of_room (noFeed : e.feed = none) (h : k.write? e a = some write)
    (room : (k.waiting e ++ [write]).length < max 1 (k.threshold e.config)) (w : World) :
    (e.perform a).run w = ((.ok (.written .batched), k.gather e write), w) := by
  cases k with
  | insert =>
      cases a with
      | insert key values =>
          obtain rfl := Option.some.inj h
          rw [perform, run_replying, run_insert_of_room noFeed room]
          rfl
      | _ => cases h
  | update =>
      cases a with
      | update key values =>
          obtain rfl := Option.some.inj h
          rw [perform, run_replying, run_update_of_room room]
          rfl
      | _ => cases h

/-- A write that makes enough of them for a statement is sent together with those that wait. -/
theorem run_perform_of_full (noFeed : e.feed = none) (fits : e.Fits)
    (h : k.write? e a = some write)
    (full : max 1 (k.threshold e.config) ≤ (k.waiting e ++ [write]).length) (w : World) :
    (e.perform a).run w =
      let run := (k.flush (k.gather e write)).run w
      (((committed run.1.1).map .written, run.1.2), run.2) := by
  cases k with
  | insert =>
      cases a with
      | insert key values =>
          obtain rfl := Option.some.inj h
          rw [perform, run_replying, run_insert_of_full noFeed fits full]
          rfl
      | _ => cases h
  | update =>
      cases a with
      | update key values =>
          obtain rfl := Option.some.inj h
          rw [perform, run_replying, run_update_of_full fits full]
          rfl
      | _ => cases h

/-- Whatever waits, a flush exchanges something or nothing. -/
theorem exists_reaches_flush (idle : e.connector.results = none) (w : World) :
    ∃ exchanges, w.Reaches exchanges ((k.flush e).run w).2 := by
  by_cases h : k.waiting e = []
  · rw [run_flush_of_nil h]
    exact ⟨[], .refl w⟩
  · obtain ⟨x, reaches, -⟩ := exchange_flush idle h w
    exact ⟨[x], reaches⟩

end WriteKind

/-! ## Calls of a session -/

variable {e₀ e : Executor} {w : World} {a : Action} {k : WriteKind} {write : String}

/-- The statements of a session have one form. -/
theorem Continues.statement (h : Continues e₀ e) (k : WriteKind) :
    k.statement e = k.statement e₀ := by
  cases k with
  | insert => exact h.insertion
  | update => rw [WriteKind.statement, WriteKind.statement, h.target]

/-- The writes of a session have one form. -/
theorem Continues.write? (h : Continues e₀ e) (k : WriteKind) : k.write? e = k.write? e₀ := by
  funext a
  cases k with
  | insert => cases a <;> simp only [WriteKind.write?, inserted?, h.literalOf]
  | update => cases a <;> simp only [WriteKind.write?, updated?, h.projectionOf]

/-- What a call leaves behind in a session without a feed. Only a flush or a write of a kind changes
what waits of that kind. -/
theorem leaves_perform (h : e.Settled) (noFeed : e.feed = none) (a : Action) (w : World) :
    ∃ sent inserts updates,
      Leaves e w sent inserts updates ((e.perform a).run w).1.2 ((e.perform a).run w).2 ∧
        (e.inserted? a = none → a ≠ .flush → inserts = e.inserts) ∧
        (e.updated? a = none → a ≠ .flush → updates = e.updates) := by
  by_cases looksUp : a.isLookup = true
  · rcases e.lookup_cases looksUp with
      ⟨fault, -, -, hrun⟩ | ⟨operation, statement, names, ofRecords, -, -, -, hrun⟩
    · rw [hrun]
      exact ⟨[], _, _, .refl h.idle w, fun _ _ => rfl, fun _ _ => rfl⟩
    · rw [hrun]
      exact ⟨_, _, _, leaves_fetch h.idle operation statement names w, fun _ _ => rfl,
        fun _ _ => rfl⟩
  cases a with
  | read key fields => exact absurd rfl looksUp
  | scan start count fields => exact absurd rfl looksUp
  | insert key values =>
      rw [perform, run_replying]
      let gathered : Executor := { e with inserts := e.inserts ++ [e.literalOf key values] }
      by_cases room : gathered.inserts.length < max 1 e.config.batchInserts
      · have left := Leaves.refl (e := gathered) h.idle w
        rw [run_insert_of_room noFeed room]
        exact ⟨_, _, _, left.of_buffers, fun hnone => absurd hnone (Option.some_ne_none _),
          fun _ _ => rfl⟩
      · have left := leaves_flushInserts (e := gathered) h.idle w
        rw [run_insert_of_full noFeed h.fits (Nat.le_of_not_lt room)]
        exact ⟨_, _, _, left.of_buffers, fun hnone => absurd hnone (Option.some_ne_none _),
          fun _ _ => rfl⟩
  | update key values =>
      rw [perform, run_replying]
      let gathered : Executor := { e with updates := e.updates ++ [e.projectionOf key values] }
      by_cases room : gathered.updates.length < max 1 e.config.batchUpdates
      · have left := Leaves.refl (e := gathered) h.idle w
        rw [run_update_of_room room]
        exact ⟨_, _, _, left.of_buffers, fun _ _ => rfl,
          fun hnone => absurd hnone (Option.some_ne_none _)⟩
      · have left := leaves_flushUpdates (e := gathered) h.idle w
        rw [run_update_of_full h.fits (Nat.le_of_not_lt room)]
        exact ⟨_, _, _, left.of_buffers, fun _ _ => rfl,
          fun hnone => absurd hnone (Option.some_ne_none _)⟩
  | delete key =>
      rw [perform, run_replying]
      exact ⟨_, _, _, leaves_execute h.idle _ _ w, fun _ _ => rfl, fun _ _ => rfl⟩
  | flush =>
      rw [perform, run_replying]
      obtain ⟨sent, left⟩ := leaves_flush h.idle w
      exact ⟨sent, [], [], left, fun _ hne => absurd rfl hne, fun _ hne => absurd rfl hne⟩

/-! ## The outcome of a write -/

/-- A write that finds room waits, and nothing is exchanged. -/
theorem turn_of_room (noFeed : e.feed = none) (h : k.write? e a = some write)
    (room : (k.waiting e ++ [write]).length < max 1 (k.threshold e.config)) (w : World) :
    e.turn w a = ⟨e, a, .ok (.written .batched), [], k.gather e write⟩ := by
  have run := k.run_perform_of_room noFeed h room w
  have nothing := (World.Reaches.refl w).exchangesTo
  simp only [turn, run, nothing]

/-- A write that finds no room is the last one in a statement for all that wait, and the answer to
this decides its outcome. -/
theorem turn_of_full (settled : e.Settled) (noFeed : e.feed = none)
    (h : k.write? e a = some write)
    (full : max 1 (k.threshold e.config) ≤ (k.waiting e ++ [write]).length) (w : World) :
    ∃ (x : Exchange) (after : Executor),
      x.request.statement = k.statement e (k.waiting e ++ [write]) ∧ k.waiting after = [] ∧
        e.turn w a =
          ⟨e, a, (committed (Connector.effectOf x.answer)).map .written, [x], after⟩ := by
  have idle : (k.gather e write).connector.results = none := by
    rw [WriteKind.connector_gather]
    exact settled.idle
  have waits : k.waiting (k.gather e write) ≠ [] := by simp
  obtain ⟨x, reaches, hstatement, hresult⟩ := k.exchange_flush idle waits w
  have emptied := k.waiting_run_flush idle w
  have run := k.run_perform_of_full noFeed settled.fits h full w
  rw [WriteKind.waiting_gather, WriteKind.statement_gather] at hstatement
  refine ⟨x, _, hstatement, emptied, ?_⟩
  simp only [turn, run, hresult, reaches.exchangesTo]

/-- What a call for a write tells about it: it is committed exactly when it was the last one in a
statement that was acknowledged, and it waits exactly when nothing was sent, for which there must be
room. Otherwise the call fails as the connector does, and nothing waits any longer. -/
structure Turn.IsHonest (e : Executor) (k : WriteKind) (write : String) (t : Turn) : Prop where
  committed_iff : t.reply = .ok (.written .committed) ↔
    ∃ earlier x, t.exchanges = [x] ∧ x.request.statement = k.statement e (earlier ++ [write]) ∧
      x.IsAcknowledged
  batched_iff : t.reply = .ok (.written .batched) ↔
    t.exchanges = [] ∧ (k.waiting t.after).getLast? = some write
  batched_iff_room : t.reply = .ok (.written .batched) ↔
    1 < k.threshold e.config ∧
      (k.waiting t.before ++ [write]).length < k.threshold e.config
  failed : t.reply ≠ .ok (.written .committed) → t.reply ≠ .ok (.written .batched) →
    k.waiting t.after = [] ∧ ∃ x fault, t.exchanges = [x] ∧
      Connector.effectOf x.answer = .error fault ∧ t.reply = .error fault

theorem isHonest_turn (settled : e.Settled) (noFeed : e.feed = none)
    (h : k.write? e a = some write) (w : World) : (e.turn w a).IsHonest e k write := by
  by_cases room : (k.waiting e ++ [write]).length < max 1 (k.threshold e.config)
  · have large := one_lt_of_room room
    have short : (k.waiting e ++ [write]).length < k.threshold e.config := by omega
    rw [turn_of_room noFeed h room]
    constructor
    · simp
    · simp
    · exact iff_of_true rfl ⟨large, short⟩
    · intro _ hbatched
      exact absurd rfl hbatched
  · obtain ⟨x, after, hstatement, emptied, hturn⟩ :=
      turn_of_full settled noFeed h (Nat.le_of_not_lt room) w
    have full : ¬ (1 < k.threshold e.config ∧
        (k.waiting e ++ [write]).length < k.threshold e.config) := by
      rintro ⟨large, short⟩
      omega
    rw [hturn]
    rcases hresult : Connector.effectOf x.answer with fault | u
    · have lost : ¬ x.IsAcknowledged := by
        rw [← x.effectOf_eq_ok_iff, hresult]
        exact nofun
      constructor
      · refine iff_of_false nofun ?_
        rintro ⟨earlier, other, hother, -, acknowledged⟩
        obtain rfl : x = other := List.singleton_inj.1 hother
        exact lost acknowledged
      · exact iff_of_false nofun nofun
      · exact iff_of_false nofun full
      · intro _ _
        exact ⟨emptied, x, fault, rfl, hresult, rfl⟩
    · have acknowledged : x.IsAcknowledged := x.effectOf_eq_ok_iff.1 hresult
      constructor
      · exact iff_of_true rfl ⟨k.waiting e, x, rfl, hstatement, acknowledged⟩
      · exact iff_of_false nofun nofun
      · exact iff_of_false nofun full
      · intro hcommitted _
        exact absurd rfl hcommitted

/-- All executors of a session write the same statements. -/
theorem Turn.IsHonest.of_continues {t : Turn} (h : t.IsHonest e k write)
    (same : Continues e₀ e) : t.IsHonest e₀ k write := by
  obtain ⟨committed_iff, batched_iff, batched_iff_room, failed⟩ := h
  rw [same.statement] at committed_iff
  rw [same.config] at batched_iff_room
  exact ⟨committed_iff, batched_iff, batched_iff_room, failed⟩

/-! ## What becomes of the writes that wait -/

/-- What a call does to the writes of a kind that wait: they go on waiting, with its own behind
them, or all of them are sent in one statement, and unless this is acknowledged the call fails. -/
def Turn.Handles (k : WriteKind) (t : Turn) : Prop :=
  let gathered := k.waiting t.before ++ (k.write? t.before t.call).toList
  k.waiting t.after = gathered ∨
    k.waiting t.after = [] ∧ (t.call = .flush ∨ (k.write? t.before t.call).isSome = true) ∧
      ∃ x ∈ t.exchanges, x.request.statement = k.statement t.before gathered ∧
        (x.IsAcknowledged ∨ ∃ fault, t.reply = .error fault)

/-- A flush fails if one of its parts does. -/
theorem both_eq_error {a b : Except Error Unit} {fault : Error}
    (h : a = .error fault ∨ b = .error fault) : ∃ fault, both a b = .error fault := by
  cases a with
  | error first => exact ⟨first, rfl⟩
  | ok u =>
      rcases h with h | h
      · cases h
      · exact ⟨fault, h⟩

/-- A flush sends the writes of a kind that wait, whatever becomes of the other kind, and it fails
unless they are acknowledged. -/
theorem flush_sends (idle : e.connector.results = none) (hne : k.waiting e ≠ []) (w : World) :
    let run := e.flush.run w
    ∃ x ∈ w.exchangesTo run.2, x.request.statement = k.statement e (k.waiting e) ∧
      (x.IsAcknowledged ∨ ∃ fault, run.1.1 = .error fault) := by
  have left := leaves_flushInserts idle w
  rw [run_flush]
  cases k with
  | insert =>
      obtain ⟨x, first, hstatement, hresult⟩ := WriteKind.insert.exchange_flush idle hne w
      obtain ⟨others, second⟩ := WriteKind.update.exists_reaches_flush left.idle
        (e.flushInserts.run w).2
      have hexchanges := (first.trans second).exchangesTo
      refine ⟨x, ?_, hstatement, x.isAcknowledged_or_error.imp_right ?_⟩
      · exact hexchanges ▸ List.mem_append_left others (List.mem_singleton_self x)
      · rintro ⟨fault, hfault⟩
        exact both_eq_error (.inl (hresult.trans hfault))
  | update =>
      -- the updates are still the same, and their statement is, when their turn comes
      have waits : (e.flushInserts.run w).1.2.updates ≠ [] := by
        rw [left.updates]
        exact hne
      obtain ⟨exchanges, first⟩ := WriteKind.insert.exists_reaches_flush idle w
      obtain ⟨x, second, hstatement, hresult⟩ := WriteKind.update.exchange_flush left.idle waits
        (e.flushInserts.run w).2
      rw [left.continues.statement .update, WriteKind.waiting, left.updates] at hstatement
      have hexchanges := (first.trans second).exchangesTo
      refine ⟨x, ?_, hstatement, x.isAcknowledged_or_error.imp_right ?_⟩
      · exact hexchanges ▸ List.mem_append_right exchanges (List.mem_singleton_self x)
      · rintro ⟨fault, hfault⟩
        exact both_eq_error (.inr (hresult.trans hfault))

/-- So does a shutdown. -/
theorem shutdown_sends (idle : e.connector.results = none) (noFeed : e.feed = none)
    (hne : k.waiting e ≠ []) (w : World) :
    let run := e.shutdown.run w
    ∃ x ∈ w.exchangesTo run.2, x.request.statement = k.statement e (k.waiting e) ∧
      (x.IsAcknowledged ∨ ∃ fault, run.1 = .error fault) := by
  rw [run_shutdown_of_no_feed idle noFeed]
  exact flush_sends idle hne w

/-- A flush handles both kinds. -/
theorem handles_flush (idle : e.connector.results = none) (k : WriteKind) (w : World) :
    (e.turn w .flush).Handles k := by
  have emptied : k.waiting (e.turn w .flush).after = [] := by
    obtain ⟨sent, flushed⟩ := leaves_flush idle w
    rw [turn, perform, run_replying]
    cases k with
    | insert => exact flushed.inserts
    | update => exact flushed.updates
  have noWrite : k.write? e .flush = none := by cases k <;> rfl
  rw [Turn.Handles, before_turn, call_turn, emptied, noWrite, Option.toList_none,
    List.append_nil]
  by_cases hnil : k.waiting e = []
  · exact .inl hnil.symm
  · obtain ⟨x, hx, hstatement, ends⟩ := flush_sends idle hnil w
    refine .inr ⟨rfl, .inl rfl, x, ?_, hstatement, ends.imp_right ?_⟩
    · rw [turn, perform, run_replying]
      exact hx
    · rintro ⟨fault, hfault⟩
      refine ⟨fault, ?_⟩
      rw [turn, perform, run_replying]
      exact congrArg (Except.map fun _ => Reply.done) hfault

/-- Every call handles both kinds. -/
theorem handles_turn (settled : e.Settled) (noFeed : e.feed = none) (k : WriteKind) (a : Action)
    (w : World) : (e.turn w a).Handles k := by
  cases hwrite : k.write? e a with
  | some write =>
      by_cases room : (k.waiting e ++ [write]).length < max 1 (k.threshold e.config)
      · left
        rw [turn_of_room noFeed hwrite room]
        simp only [hwrite, WriteKind.waiting_gather, Option.toList_some]
      · right
        obtain ⟨x, after, hstatement, emptied, hturn⟩ :=
          turn_of_full settled noFeed hwrite (Nat.le_of_not_lt room) w
        rw [hturn]
        simp only [hwrite, Option.toList_some, Option.isSome_some, or_true, true_and]
        refine ⟨emptied, x, List.mem_singleton_self x, hstatement, ?_⟩
        refine x.isAcknowledged_or_error.imp_right ?_
        rintro ⟨fault, hfault⟩
        exact ⟨fault, by rw [hfault]; rfl⟩
  | none =>
      by_cases hflush : a = .flush
      · subst hflush
        exact handles_flush settled.idle k w
      · left
        obtain ⟨sent, inserts, updates, left, hinserts, hupdates⟩ :=
          leaves_perform settled noFeed a w
        simp only [before_turn, call_turn, hwrite, Option.toList_none, List.append_nil]
        cases k with
        | insert => exact left.inserts.trans (hinserts hwrite hflush)
        | update => exact left.updates.trans (hupdates hwrite hflush)

/-- Among some calls, before which a batch of writes waited, one sent the batch in a statement
together with what the calls wrote meanwhile, and this ended in the given way. -/
def SentAmong (k : WriteKind) (e : Executor) (batch : List String) (turns : List Turn)
    (Ends : Turn → Exchange → Prop) : Prop :=
  ∃ earlier sender later, turns = earlier ++ sender :: later ∧
    (sender.call = .flush ∨ (k.write? e sender.call).isSome = true) ∧
    ∃ x ∈ sender.exchanges,
      x.request.statement = k.statement e (batch ++ k.writesOf e (earlier ++ [sender])) ∧
        Ends sender x

/-- A statement was acknowledged, or the call that sent it failed. -/
def IsAcknowledgedOrTold (sender : Turn) (x : Exchange) : Prop :=
  x.IsAcknowledged ∨ ∃ fault, sender.reply = .error fault

namespace WriteKind

theorem writesOf_cons (k : WriteKind) (e : Executor) (t : Turn) (turns : List Turn) :
    k.writesOf e (t :: turns) = (k.write? e t.call).toList ++ k.writesOf e turns := by
  rw [writesOf, writesOf, List.filterMap_cons]
  cases k.write? e t.call <;> rfl

end WriteKind

/-- A call that only gathers joins the batch. -/
theorem SentAmong.cons {batch : List String} {t : Turn} {turns : List Turn}
    {Ends : Turn → Exchange → Prop}
    (h : SentAmong k e (batch ++ (k.write? e t.call).toList) turns Ends) :
    SentAmong k e batch (t :: turns) Ends := by
  obtain ⟨earlier, sender, later, rfl, sends, x, hx, hstatement, ends⟩ := h
  refine ⟨t :: earlier, sender, later, rfl, sends, x, hx, ?_, ends⟩
  rw [hstatement, List.cons_append, k.writesOf_cons, List.append_assoc]

/-- A call leaves the session between two calls again. -/
theorem session_turn (settled : e.Settled) (same : Continues e₀ e) (noFeed : e₀.feed = none)
    (a : Action) (w : World) :
    (e.turn w a).after.Settled ∧ Continues e₀ (e.turn w a).after := by
  obtain ⟨sent, inserts, updates, left, -⟩ :=
    leaves_perform settled (same.feed.trans noFeed) a w
  exact ⟨(keepsReady_turn settled w a).2, same.trans left.continues⟩

/-- What waits at some point of a session without a feed still waits at its end, with all later
writes behind it, or it was sent on the way. -/
theorem waiting_or_sent (settled : e.Settled) (same : Continues e₀ e) (noFeed : e₀.feed = none)
    (k : WriteKind) (w : World) (events : List Event) :
    k.waiting (course e w events).executor =
        k.waiting e ++ k.writesOf e₀ (course e w events).turns ∨
      SentAmong k e₀ (k.waiting e) (course e w events).turns IsAcknowledgedOrTold := by
  induction events generalizing e w with
  | nil => exact .inl (List.append_nil _).symm
  | cons first events ih =>
      cases first with
      | feed happened => exact ih settled same (w.after happened)
      | call action =>
          obtain ⟨settled', same'⟩ := session_turn settled same noFeed action w
          have later := ih settled' same' (e.worldAfter w action)
          have handles := handles_turn settled (same.feed.trans noFeed) k action w
          rw [Turn.Handles, before_turn, call_turn, same.statement, same.write?] at handles
          rcases handles with waits | ⟨emptied, sends, x, hx, hstatement, ends⟩
          · rw [waits] at later
            rcases later with hwaiting | hsent
            · left
              rw [course, k.writesOf_cons, ← List.append_assoc]
              exact hwaiting
            · exact .inr hsent.cons
          · right
            refine ⟨[], e.turn w action, _, rfl, sends, x, hx, ?_, ends⟩
            rw [List.nil_append, k.writesOf_cons, call_turn, hstatement, WriteKind.writesOf,
              List.filterMap_nil, List.append_nil]

/-- A batch that was sent was acknowledged, or else a later call failed, if the first call gave a
write to it and did not fail. -/
theorem SentAmong.acknowledged_or_told {batch : List String} {t : Turn} {later : List Turn}
    (h : SentAmong k e batch (t :: later) IsAcknowledgedOrTold)
    (hwrite : k.write? e t.call = some write) {reply : Reply} (succeeded : t.reply = .ok reply) :
    SentAmong k e batch (t :: later) (fun _ x => x.IsAcknowledged) ∨
      SentAmong k e (batch ++ [write]) later
        fun sender x => ¬ x.IsAcknowledged ∧ ∃ fault, sender.reply = .error fault := by
  obtain ⟨earlier, sender, rest, hturns, sends, x, hx, hstatement, ends⟩ := h
  by_cases acknowledged : x.IsAcknowledged
  · exact .inl ⟨earlier, sender, rest, hturns, sends, x, hx, hstatement, acknowledged⟩
  · have told := ends.resolve_left acknowledged
    cases earlier with
    | nil =>
        obtain ⟨rfl, -⟩ := List.cons.inj hturns
        obtain ⟨fault, hfault⟩ := told
        rw [succeeded] at hfault
        cases hfault
    | cons first earlier =>
        obtain ⟨rfl, hlater⟩ := List.cons.inj hturns
        refine .inr ⟨earlier, sender, rest, hlater, sends, x, hx, ?_, acknowledged, told⟩
        rw [hstatement, List.cons_append, k.writesOf_cons, hwrite, Option.toList_some,
          List.append_assoc]

/-- Every write of a session without a feed is told what becomes of it. -/
theorem honest_course (settled : e.Settled) (noFeed : e.feed = none) (w : World)
    (events : List Event) :
    (∀ t ∈ (course e w events).turns, ∀ (k : WriteKind) (write : String),
        k.write? e t.call = some write → t.IsHonest e k write) ∧
      (course e w events).executor.Settled ∧ Continues e (course e w events).executor := by
  refine course_induction (fun e' _ => e'.Settled ∧ Continues e e')
    (fun t => ∀ (k : WriteKind) (write : String), k.write? e t.call = some write →
      t.IsHonest e k write)
    (fun _ _ _ held => held) ?_ ⟨settled, rfl, rfl, rfl⟩ events
  rintro e' w' a ⟨settled', same⟩
  refine ⟨?_, session_turn settled' same noFeed a w'⟩
  intro k write hwrite
  rw [← same.write?] at hwrite
  exact (isHonest_turn settled' (same.feed.trans noFeed) hwrite w').of_continues same

/-- A write of a session without a feed still waits at its end, behind what waited before it and in
front of all later writes, or it was sent by its own call or a later one. -/
theorem fate_of_write (settled : e.Settled) (noFeed : e.feed = none) {events : List Event}
    {earlier later : List Turn} {t : Turn}
    (hturns : (course e w events).turns = earlier ++ t :: later)
    (hwrite : k.write? e t.call = some write) :
    k.waiting (course e w events).executor =
        k.waiting t.before ++ write :: k.writesOf e later ∨
      SentAmong k e (k.waiting t.before) (t :: later) IsAcknowledgedOrTold := by
  obtain ⟨w', rest, ⟨settled', same⟩, hcourse⟩ := course_split
    (fun e' _ => e'.Settled ∧ Continues e e') (fun _ _ _ held => held)
    (fun e' w a held => session_turn held.1 held.2 noFeed a w) ⟨settled, rfl, rfl, rfl⟩ hturns
  have fate := waiting_or_sent settled' same noFeed k w' rest
  rw [hcourse, k.writesOf_cons, hwrite] at fate
  exact fate

/-- The outcomes of writes are honest, and no write is lost in silence. In every course of a
connected executor without a feed, each write is committed, waits or fails as it is told. At the end
of the course, a write that did not fail still waits, or its statement was acknowledged, or its
statement was not and a later call failed for it; after a shutdown it does not wait any longer. -/
theorem write_outcomes_are_honest [Url.Idna] {config : ClientConfig} {w₀ w₁ : World} {e : Executor}
    (connected : (connect config).run w₀ = (.ok e, w₁)) (noFeed : config.feed = none)
    (events : List Event) :
    let course := course e w₁ events
    let ended := course.executor.shutdown.run course.world
    (∀ t ∈ course.turns, ∀ (k : WriteKind) (write : String), k.write? e t.call = some write →
        t.IsHonest e k write) ∧
      ∀ (earlier : List Turn) (t : Turn) (later : List Turn),
        course.turns = earlier ++ t :: later →
        ∀ (k : WriteKind) (write : String), k.write? e t.call = some write →
        ∀ reply, t.reply = .ok reply →
          let gathered := k.waiting t.before ++ write :: k.writesOf e later
          let acknowledged := SentAmong k e (k.waiting t.before) (t :: later)
            fun _ x => x.IsAcknowledged
          let told := SentAmong k e (k.waiting t.before ++ [write]) later
            fun sender x => ¬ x.IsAcknowledged ∧ ∃ fault, sender.reply = .error fault
          (k.waiting course.executor = gathered ∨ acknowledged ∨ told) ∧
            (acknowledged ∨ told ∨
              ∃ x ∈ course.world.exchangesTo ended.2,
                x.request.statement = k.statement e gathered ∧
                  (x.IsAcknowledged ∨ ∃ fault, ended.1 = .error fault)) := by
  intro course ended
  have fresh := fresh_of_connect connected
  have noFeed : e.feed = none := fresh.noFeed noFeed
  obtain ⟨honest, settledEnd, sameEnd⟩ := honest_course fresh.settled noFeed w₁ events
  refine ⟨honest, ?_⟩
  intro earlier t later hturns k write hwrite reply succeeded gathered acknowledged told
  rcases fate_of_write fresh.settled noFeed hturns hwrite with waits | sent
  · -- what still waits is sent by the shutdown
    have hne : k.waiting course.executor ≠ [] := by
      rw [waits]
      exact List.append_ne_nil_of_right_ne_nil _ (List.cons_ne_nil _ _)
    obtain ⟨x, hx, hstatement, ends⟩ :=
      shutdown_sends settledEnd.idle (sameEnd.feed.trans noFeed) hne course.world
    rw [waits, sameEnd.statement] at hstatement
    exact ⟨.inl waits, .inr (.inr ⟨x, hx, hstatement, ends⟩)⟩
  · have ends := sent.acknowledged_or_told hwrite succeeded
    exact ⟨.inr ends, ends.imp_right .inl⟩

/-- An insert that waited is accounted for when the statement that is to carry it is dropped. -/
theorem waiting_insert_is_not_lost_in_silence :
    ∃ e w, (connect { url := "http://[::1]", batchInserts := 2 }).run (.scripted catalogAnswers) =
        (.ok e, w) ∧
      let course := course e w [.call (.insert "a" .empty), .call (.insert "b" .empty)]
      let waits := e.turn w (.insert "a" .empty)
      let literals := [e.literalOf "a" .empty, e.literalOf "b" .empty]
      waits.reply = .ok (.written .batched) ∧
        (course.executor.inserts = e.inserts ++ literals ∨
          SentAmong .insert e e.inserts course.turns (fun _ x => x.IsAcknowledged) ∨
          SentAmong .insert e (e.inserts ++ [e.literalOf "a" .empty]) (course.turns.drop 1)
            fun sender x => ¬ x.IsAcknowledged ∧ ∃ fault, sender.reply = .error fault) := by
  obtain ⟨e, w, connected, -, -⟩ := @connect_of_catalogAnswers _
    { url := "http://[::1]", batchInserts := 2 } rfl (by decide +kernel) rfl []
  obtain ⟨honest, fate⟩ := write_outcomes_are_honest connected rfl
    [.call (.insert "a" .empty), .call (.insert "b" .empty)]
  have fresh := fresh_of_connect connected
  have first := honest (e.turn w (.insert "a" .empty)) (List.mem_cons_self ..) .insert _ rfl
  have batched : (e.turn w (.insert "a" .empty)).reply = .ok (.written .batched) := by
    refine first.batched_iff_room.2 ?_
    simp [WriteKind.threshold, WriteKind.waiting, fresh.configured, fresh.inserts]
  exact ⟨e, w, connected, batched, (fate [] _ _ rfl .insert _ rfl _ batched).1⟩

end Executor

end SqlppBench
