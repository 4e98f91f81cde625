import SqlppBench.Load
import SqlppBench.Proofs.Executor.Gathering
import SqlppBench.Proofs.Executor.Transcripts
import SqlppBench.Proofs.Summary

/-! # The clients of a load

A client connects, inserts its records one by one, counts how each insert ended and shuts down
(`IsClient`). Without a feed its inserts go out in the batches of `gather`, whatever the answers
are (`Gathers`); with a feed each of them is a line of its own, as long as none fails (`Feeds`).
-/

namespace SqlppBench

namespace Load

open Dialogue Executor

variable {l : Load} {payload : Payload} {e e' : Executor} {s s' : RunSummary} {t : List Said}
  {keys : List String}

/-- The constructor of the record with a key, as a client inserts it. -/
def literalFor (payload : Payload) (e : Executor) (key : String) : String :=
  e.literalOf key (values payload e.schema.fields key)

theorem literalFor_of_continues (same : Continues e e') (payload : Payload) :
    literalFor payload e' = literalFor payload e := by
  funext key
  rw [literalFor, literalFor, same.literalOf, same.schema]

/-- Everything that goes out in a transcript was acknowledged. -/
def AllAcknowledged (t : List Said) : Prop :=
  ∀ x ∈ t, x.written?.isSome = true → x.IsAcknowledged

theorem allAcknowledged_nil : AllAcknowledged [] := by
  simp [AllAcknowledged]

theorem AllAcknowledged.append {t t' : List Said} (h : AllAcknowledged t)
    (h' : AllAcknowledged t') : AllAcknowledged (t ++ t') := by
  intro x hx
  rcases List.mem_append.1 hx with hx | hx
  · exact h x hx
  · exact h' x hx

/-- Where nothing goes out, nothing is left to be acknowledged. -/
theorem allAcknowledged_of_writtenIn (h : writtenIn t = []) : AllAcknowledged t := by
  intro x hx hwritten
  rw [writtenIn, List.filterMap_eq_nil_iff] at h
  rw [h x hx] at hwritten
  cases hwritten

/-- The statement of a transcript was acknowledged if its answer says so. -/
theorem allAcknowledged_saidFor {operation : Operation} {statement : String} {a : Http.Answer}
    (h : Connector.effectOf a = .ok ()) : AllAcknowledged (e.saidFor operation statement a) := by
  refine (allAcknowledged_of_writtenIn (writtenIn_logs ..)).append ?_
  intro x hx _
  obtain rfl := List.mem_singleton.1 hx
  exact (Exchange.effectOf_eq_ok_iff ⟨_, a⟩).1 h

/-- The first insert, and then the others from where it leaves the executor. -/
theorem plays_insertAll_cons {key : String} {r : Executor × RunSummary}
    (h : (insertAll payload e s (key :: keys)).Plays t r) :
    ∃ first result e₁ rest, t = first ++ rest ∧
      (e.insert key (values payload e.schema.fields key)).Plays first (result, e₁) ∧
      (insertAll payload e₁ (s.record .insert (.ofWrite result)) keys).Plays rest r := by
  obtain ⟨first, ⟨result, e₁⟩, rest, rfl, hfirst, hrest⟩ := plays_bind_iff.1 h
  exact ⟨first, result, e₁, rest, rfl, hfirst, hrest⟩

/-! ## Without a feed -/

/-- How some inserts end that are gathered: they go out in batches, all but those that still wait,
and the status of each insert is counted. -/
structure Gathers (e : Executor) (writes : List String) (t : List Said) (statuses : List Status)
    (e' : Executor) : Prop where
  settled : e'.Settled
  continues : Continues e e'
  inserts : e'.inserts = (gather e.config.batchInserts e.inserts writes).2
  updates : e'.updates = e.updates
  written : writtenIn t = (gather e.config.batchInserts e.inserts writes).1.map
    fun batch => .statement (e.insertion batch)
  silent : ∀ x ∈ t, x.isForFeed = false
  length : statuses.length = writes.length
  batched : statuses.count .batchedOk + (gather e.config.batchInserts e.inserts writes).1.length =
    writes.length
  acknowledged : .error ∉ statuses → AllAcknowledged t

/-- Nothing was inserted yet. -/
theorem Gathers.nil (settled : e.Settled) : Gathers e [] [] [] e where
  settled := settled
  continues := ⟨rfl, rfl, rfl⟩
  inserts := rfl
  updates := rfl
  written := rfl
  silent := by simp
  length := rfl
  batched := rfl
  acknowledged := fun _ => allAcknowledged_nil

/-- An insert that waits. -/
theorem Gathers.wait {write : String} {writes : List String} {statuses : List Status}
    (room : (e.inserts ++ [write]).length < max 1 e.config.batchInserts)
    (h : Gathers { e with inserts := e.inserts ++ [write] } writes t statuses e') :
    Gathers e (write :: writes) t (.batchedOk :: statuses) e' := by
  have hgather := gather_of_room room writes
  constructor
  · exact h.settled
  · exact ⟨h.continues.config, h.continues.schema, h.continues.feed⟩
  · rw [hgather]
    exact h.inserts
  · exact h.updates
  · rw [hgather]
    exact h.written
  · exact h.silent
  · exact congrArg (· + 1) h.length
  · rw [hgather, List.count_cons_self, List.length_cons, ← h.batched]
    exact Nat.add_right_comm _ _ _
  · intro hnone
    exact h.acknowledged (List.not_mem_of_not_mem_cons hnone)

/-- An insert that is the last one of a batch. -/
theorem Gathers.send {write : String} {writes : List String} {statuses : List Status}
    {a : Http.Answer} {t : List Said}
    (full : max 1 e.config.batchInserts ≤ (e.inserts ++ [write]).length)
    (h : Gathers (({ e with inserts := [] } : Executor).answered a (Connector.effectOf a)) writes t
      statuses e') :
    Gathers e (write :: writes)
      (e.saidFor .insert (e.insertion (e.inserts ++ [write])) a ++ t)
      (.ofWrite (committed (Connector.effectOf a)) :: statuses) e' := by
  have hgather := gather_of_full full writes
  have status : Status.ofWrite (committed (Connector.effectOf a)) ≠ .batchedOk := by
    cases Connector.effectOf a <;> exact nofun
  constructor
  · exact h.settled
  · exact ⟨h.continues.config, h.continues.schema, h.continues.feed⟩
  · rw [hgather]
    exact h.inserts
  · exact h.updates
  · rw [hgather, writtenIn_append, writtenIn_saidFor, h.written]
    rfl
  · intro x hx
    rcases List.mem_append.1 hx with hx | hx
    · exact isForFeed_saidFor hx
    · exact h.silent x hx
  · exact congrArg (· + 1) h.length
  · rw [hgather, List.count_cons_of_ne status, List.length_cons, List.length_cons, ← h.batched]
    rfl
  · intro hnone
    obtain ⟨hstatus, hrest⟩ := not_or.1 (mt List.mem_cons.2 hnone)
    refine (allAcknowledged_saidFor ?_).append (h.acknowledged hrest)
    cases heffect : Connector.effectOf a with
    | ok u => rfl
    | error fault =>
        rw [heffect] at hstatus
        exact absurd rfl hstatus

/-- Without a feed, inserts are gathered. -/
theorem gathers_of_plays (settled : e.Settled) (noFeed : e.feed = none)
    (h : (insertAll payload e s keys).Plays t (e', s')) :
    ∃ statuses, s' = s.recordAll .insert statuses ∧
      Gathers e (keys.map (literalFor payload e)) t statuses e' := by
  induction keys generalizing e s t with
  | nil =>
      obtain ⟨rfl, hresult⟩ := plays_done_iff.1 h
      obtain ⟨rfl, rfl⟩ := Prod.mk.inj hresult
      exact ⟨[], rfl, .nil settled⟩
  | cons key keys ih =>
      obtain ⟨first, result, e₁, rest, rfl, hinsert, hrest⟩ := plays_insertAll_cons h
      obtain ⟨settled₁, same⟩ :=
        WriteKind.insert.session_write (fun _ => noFeed) settled hinsert
      obtain ⟨statuses, rfl, hgathers⟩ := ih settled₁ (same.feed.trans noFeed) hrest
      rw [literalFor_of_continues same] at hgathers
      rcases WriteKind.insert.plays_write (fun _ => noFeed) settled hinsert with
        ⟨room, rfl, rfl, rfl⟩ | ⟨full, a, rfl, rfl, rfl⟩
      · exact ⟨.batchedOk :: statuses, rfl, hgathers.wait room⟩
      · exact ⟨_ :: statuses, rfl, hgathers.send full⟩

/-- Without a feed, a shutdown behind gathered inserts sends those that still wait. -/
theorem Gathers.flush_of_shutdown {writes : List String} {statuses : List Status}
    {ending : List Said} {result : Except Error Unit} (h : Gathers e writes t statuses e')
    (noFeed : e.feed = none) (noUpdates : e.updates = [])
    (ends : e'.shutdown.Plays ending result) :
    ∃ last, (WriteKind.insert.flush e').Plays ending (result, last) := by
  have others (other : WriteKind) (hother : other ≠ .insert) : other.waiting e' = [] := by
    cases other with
    | insert => exact absurd rfl hother
    | update => exact h.updates.trans noUpdates
  obtain ⟨flushing, closing, flushed, last, closed, rfl, hflush, hclose, rfl⟩ :=
    plays_shutdown h.settled.idle .insert others ends
  rw [closeFeed, h.continues.feed, noFeed] at hclose
  obtain ⟨rfl, rfl⟩ := plays_done_iff.1 hclose
  rw [List.append_nil, both_ok]
  exact ⟨last, hflush⟩

/-! ## With a feed -/

/-- How some inserts end that go to a feed: the status of each is counted, and while none of them
fails, each of them is a line of its own and the executor stays as it is. -/
structure Feeds (e : Executor) (writes : List String) (t : List Said) (statuses : List Status)
    (e' : Executor) : Prop where
  left : ∃ feed, e' = { e with feed := some feed }
  length : statuses.length = writes.length
  lines : .error ∉ statuses →
    e' = e ∧ writtenIn t = writes.map .ofRecord ∧ AllAcknowledged t

/-- With a feed, inserts are lines. -/
theorem feeds_of_plays {writer : FeedWriter} (hfeed : e.feed = some writer)
    (h : (insertAll payload e s keys).Plays t (e', s')) :
    ∃ statuses, s' = s.recordAll .insert statuses ∧
      Feeds e (keys.map (literalFor payload e)) t statuses e' := by
  induction keys generalizing e s t writer with
  | nil =>
      obtain ⟨rfl, hresult⟩ := plays_done_iff.1 h
      obtain ⟨rfl, rfl⟩ := Prod.mk.inj hresult
      exact ⟨[], rfl, ⟨writer, by rw [← hfeed]⟩, rfl, fun _ => ⟨rfl, rfl, allAcknowledged_nil⟩⟩
  | cons key keys ih =>
      obtain ⟨first, result, e₁, rest, rfl, hinsert, hrest⟩ := plays_insertAll_cons h
      rcases plays_insert_of_feed hfeed hinsert with
        ⟨id, -, rfl, rfl, rfl⟩ | ⟨reason, reply, message, rfl, rfl, rfl⟩
      · obtain ⟨statuses, rfl, left, length, lines⟩ := ih hfeed hrest
        refine ⟨.ok :: statuses, rfl, left, congrArg (· + 1) length, fun hnone => ?_⟩
        obtain ⟨same, written, acknowledged⟩ := lines (List.not_mem_of_not_mem_cons hnone)
        refine ⟨same, ?_, .append (.append (allAcknowledged_of_writtenIn (writtenIn_logs ..)) ?_)
          acknowledged⟩
        · rw [writtenIn_append, writtenIn_append, writtenIn_logs, written]
          rfl
        · intro x hx _
          obtain rfl := List.mem_singleton.1 hx
          rfl
      · obtain ⟨statuses, rfl, ⟨feed, rfl⟩, length, -⟩ := ih rfl hrest
        exact ⟨.error :: statuses, rfl, ⟨feed, rfl⟩, congrArg (· + 1) length,
          fun hnone => absurd (List.mem_cons_self ..) hnone⟩

/-! ## Clients -/

/-- A client that has connected, with all that it says, until its session ends. -/
structure Client where
  /-- The keys of the records that it inserts. -/
  keys : List String
  /-- The executor that connecting gives. -/
  executor : Executor
  opening : List Said
  inserting : List Said
  ending : List Said
  /-- The executor when all records were inserted. -/
  left : Executor
  /-- What the inserts were counted to. -/
  inserted : RunSummary
  /-- How the shutdown ended. -/
  ended : Except Error Unit

namespace Client

/-- What a client says between connecting and its end. -/
def work (c : Client) : List Said :=
  c.inserting ++ c.ending

/-- The constructors of the records that a client inserts. -/
def literals (payload : Payload) (c : Client) : List String :=
  c.keys.map (literalFor payload c.executor)

/-- The summary of a client, which counts a failure at its end as a failed insert. -/
def summary (c : Client) : RunSummary :=
  match c.ended with
  | .ok () => c.inserted
  | .error _ => c.inserted.record .insert .error

/-- Whether the shutdown of a client failed. -/
def hasFailed (c : Client) : Bool :=
  !c.ended.isOk

end Client

/-- A client of a load takes its part. -/
structure IsClient [Url.Idna] (l : Load) (config : ClientConfig) (payload : Payload) (i : Nat)
    (part : List Said) (c : Client) : Prop where
  keys : c.keys = l.clientKeys i
  part : part = c.opening ++ c.work
  connects : (connect config).Plays c.opening (.ok c.executor)
  inserts : (insertAll payload c.executor .forClient c.keys).Plays c.inserting (c.left, c.inserted)
  ends : c.left.shutdown.Plays c.ending c.ended

/-- The session of a client ends with its summary, or it has failed to connect. -/
theorem isClient_or_error [Url.Idna] {config : ClientConfig} {i : Nat} {part : List Said}
    {result : Except Error RunSummary} (h : (l.session config payload i).Plays part result) :
    (∃ c, l.IsClient config payload i part c ∧ result = .ok c.summary) ∨
      ∃ fault, (connect config).Plays part (.error fault) ∧ result = .error fault := by
  obtain ⟨opening, connected, rest, rfl, hconnect, hrest⟩ := plays_bind_iff.1 h
  cases connected with
  | error fault =>
      obtain ⟨rfl, rfl⟩ := plays_done_iff.1 hrest
      exact .inr ⟨fault, by simpa using hconnect, rfl⟩
  | ok e =>
      obtain ⟨inserting, ⟨left, inserted⟩, rest, rfl, hinserts, hrest⟩ := plays_bind_iff.1 hrest
      obtain ⟨ending, ended, nothing, rfl, hends, hdone⟩ := plays_bind_iff.1 hrest
      let c : Client := ⟨l.clientKeys i, e, opening, inserting, ending, left, inserted, ended⟩
      obtain ⟨rfl, hresult⟩ : nothing = [] ∧ result = .ok c.summary := by
        rcases ended with fault | ⟨⟩ <;> exact plays_done_iff.1 hdone
      exact .inl ⟨c, ⟨rfl, by simp [c, Client.work], hconnect, hinserts, hends⟩, hresult⟩

namespace IsClient

variable {config : ClientConfig} {i : Nat} {part : List Said} {c : Client}

theorem fresh [Url.Idna] (h : l.IsClient config payload i part c) : Fresh config c.executor :=
  (fresh_of_plays h.connects).1

/-- The statuses that a client counted are those of its inserts, and one more if it failed to shut
down. -/
theorem summary_eq {statuses : List Status}
    (counted : c.inserted = RunSummary.forClient.recordAll .insert statuses) :
    c.summary = RunSummary.forClient.recordAll .insert
      (statuses ++ if c.hasFailed then [.error] else []) := by
  rw [Client.summary, Client.hasFailed, counted]
  cases c.ended with
  | ok u => exact congrArg _ (List.append_nil _).symm
  | error fault =>
      rw [Except.isOk, Except.toBool, Bool.not_false, if_pos rfl, RunSummary.recordAll_append]
      rfl

/-- What becomes of the inserts of a client when nothing failed: nothing but its records goes out,
each of them once, and all of it is acknowledged. -/
structure Succeeds (config : ClientConfig) (payload : Payload) (c : Client)
    (statuses : List Status) : Prop where
  acknowledged : AllAcknowledged c.work
  lines : config.feed.isSome = true →
    writtenIn c.work = (c.literals payload).map .ofRecord
  batches : config.feed = none →
    writtenIn c.work = (batchesOf config.batchInserts (c.literals payload)).map
      fun batch => .statement (c.executor.insertion batch)
  committed : config.feed = none →
    statuses.count .ok = c.keys.length / max 1 config.batchInserts

/-- Without a feed, the batches of a client go out, the last of them at the end. -/
theorem succeeds_of_gathers [Url.Idna] (h : l.IsClient config payload i part c)
    {statuses : List Status} (noFeed : config.feed = none)
    (gathers : Gathers c.executor (c.literals payload) c.inserting statuses c.left)
    (clean : .error ∉ statuses) (ended : c.ended = .ok ()) :
    Succeeds config payload c statuses := by
  have fresh := h.fresh
  obtain ⟨last, hflush⟩ := gathers.flush_of_shutdown (fresh.noFeed noFeed) fresh.updates h.ends
  obtain ⟨settled, continues, inserts, -, written, -, length, batched, acknowledged⟩ := gathers
  rw [fresh.configured, fresh.inserts] at inserts written batched
  obtain ⟨writes, flushes⟩ : writtenIn c.ending =
        (if c.left.inserts = [] then [] else [c.left.inserts]).map
          (fun batch => .statement (c.executor.insertion batch)) ∧ AllAcknowledged c.ending := by
    rcases WriteKind.insert.plays_flush settled.idle hflush with
      ⟨hnil, hending, -⟩ | ⟨hne, a, hending, hresult, -⟩
    · rw [WriteKind.waiting] at hnil
      rw [hending, if_pos hnil]
      exact ⟨rfl, allAcknowledged_nil⟩
    · rw [WriteKind.waiting] at hne
      rw [hending, if_neg hne, writtenIn_saidFor, continues.statement]
      exact ⟨rfl, allAcknowledged_saidFor (hresult.symm.trans ended)⟩
  constructor
  · exact (acknowledged clean).append flushes
  · intro hfeed
    rw [noFeed] at hfeed
    cases hfeed
  · intro _
    rw [Client.work, writtenIn_append, written, writes, inserts, batchesOf, List.map_append]
  · intro _
    have hcount := length_eq_count_add statuses
    have hgather := length_gather (length_nil_lt config.batchInserts) (c.literals payload)
    rw [List.count_eq_zero_of_not_mem clean] at hcount
    rw [List.length_nil, Nat.zero_add, Client.literals, List.length_map] at hgather
    rw [← hgather, ← Client.literals]
    omega

/-- With a feed, every record is a line, and nothing is left for the end. -/
theorem succeeds_of_feeds [Url.Idna] (h : l.IsClient config payload i part c)
    {statuses : List Status} (hfeed : config.feed.isSome = true)
    (feeds : Feeds c.executor (c.literals payload) c.inserting statuses c.left)
    (clean : .error ∉ statuses) : Succeeds config payload c statuses := by
  have fresh := h.fresh
  obtain ⟨same, written, acknowledged⟩ := feeds.lines clean
  have ends := h.ends
  rw [same] at ends
  have silent : writtenIn c.ending = [] := by
    have hclose := plays_shutdown_of_nothing fresh.idle fresh.waiting ends
    rcases plays_closeFeed hclose with ⟨-, hending, -⟩ | ⟨id, reply, -, hending, -⟩ <;>
      rw [hending] <;> rfl
  constructor
  · exact acknowledged.append (allAcknowledged_of_writtenIn silent)
  · intro _
    rw [Client.work, writtenIn_append, written, silent, List.append_nil]
  · intro hnone
    rw [hnone] at hfeed
    cases hfeed
  · intro hnone
    rw [hnone] at hfeed
    cases hfeed

/-- A client counts one status for each record, and one more for a failure at its end. Where it
counts no failure, its records went out. -/
theorem exists_statuses [Url.Idna] (h : l.IsClient config payload i part c) :
    ∃ statuses, c.inserted = RunSummary.forClient.recordAll .insert statuses ∧
      statuses.length = c.keys.length ∧
      (.error ∉ statuses → c.ended = .ok () → Succeeds config payload c statuses) := by
  have fresh := h.fresh
  cases hfeed : c.executor.feed with
  | none =>
      obtain ⟨statuses, counted, gathers⟩ := gathers_of_plays fresh.settled hfeed h.inserts
      have noFeed : config.feed = none := by simpa [hfeed] using fresh.feed.symm
      exact ⟨statuses, counted, gathers.length.trans (List.length_map _),
        h.succeeds_of_gathers noFeed gathers⟩
  | some writer =>
      obtain ⟨statuses, counted, feeds⟩ := feeds_of_plays hfeed h.inserts
      have isSome : config.feed.isSome = true := by rw [← fresh.feed, hfeed]; rfl
      exact ⟨statuses, counted, feeds.length.trans (List.length_map _),
        fun clean _ => h.succeeds_of_feeds isSome feeds clean⟩

end IsClient

end Load

end SqlppBench
