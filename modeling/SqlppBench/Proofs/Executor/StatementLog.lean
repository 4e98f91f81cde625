import SqlppBench.Proofs.Executor.Failures
import SqlppBench.Proofs.Peers

/-! # The log of statements

An executor logs what it hands over to be sent, if its configuration asks for that: each statement
and each record for the feed once, with the kind of operation that it is for (`records_perform`).
Nothing else depends on the log. With and without it, the calls of an executor are the same dialogue
but for what is logged (`sameButLog_perform`), so in a session with any peers at all the same is
said to them and the same comes of it (`isQuietOf_sessionTo`).
-/

namespace SqlppBench

/-- The configuration with or without a log of statements. -/
def ClientConfig.withLog (config : ClientConfig) (log : Bool) : ClientConfig :=
  { config with printStatements := log }

namespace Executor

open Catalog (fieldsOf_eq_ok_iff keyOf_eq_ok_iff)
open Dialogue

variable {e e' : Executor} {t : List Said}

/-! ## What is handed over -/

/-- A statement or a record that is handed over to be sent. -/
structure Attempt where
  /-- The kind of operation that it is for. -/
  operation : Operation
  text : String
  /-- What goes out with it: nothing where there is no connection for it. -/
  written? : Option Written

namespace Attempt

/-- A statement is posted whatever happened before. -/
def statement (operation : Operation) (text : String) : Attempt :=
  ⟨operation, text, some (.statement text)⟩

/-- A record goes to the feed on a line of its own, if the writer has a connection. -/
def record (writer : FeedWriter) (text : String) : Attempt :=
  ⟨.insert, text, writer.connection.map fun _ => .ofRecord text⟩

/-- What is logged of an attempt. -/
def entry (x : Attempt) : Operation × String :=
  (x.operation, x.text)

end Attempt

/-- The batch that is sent for the writes of a kind that wait, if any do. -/
def WriteKind.batch (k : WriteKind) (e : Executor) : List Attempt :=
  if k.waiting e = [] then [] else [.statement k.operation (k.statement e (k.waiting e))]

/-- What is sent when another write joins those that wait: nothing while there is room for it. -/
def WriteKind.joined (k : WriteKind) (e : Executor) (text : String) : List Attempt :=
  let waiting := k.waiting e ++ [text]
  if waiting.length < max 1 (k.threshold e.config) then []
  else [.statement k.operation (k.statement e waiting)]

/-- What is sent to look up some fields: nothing if one of them is unknown. -/
def lookup (e : Executor) (operation : Operation) (fields : Option (List String))
    (statement : List String → String) : List Attempt :=
  match e.requested fields with
  | .error _ => []
  | .ok names => [.statement operation (statement names)]

/-- What a call hands over, in its order. -/
def attempts (e : Executor) : Action → List Attempt
  | .read key fields => e.lookup .read fields (e.target.read key)
  | .scan start count fields => e.lookup .scan fields (e.target.scan start count)
  | .insert key values =>
    match e.feed with
    | some writer => [.record writer (e.literalOf key values)]
    | none => WriteKind.insert.joined e (e.literalOf key values)
  | .update key values => WriteKind.update.joined e (e.projectionOf key values)
  | .delete key => [.statement .delete (e.target.delete key)]
  | .flush => WriteKind.insert.batch e ++ WriteKind.update.batch e

/-! ## What is logged -/

/-- A transcript records some attempts: these are what is logged, where there is to be a log, and
what goes out is what they could send. -/
structure Records (log : Bool) (t : List Said) (attempts : List Attempt) : Prop where
  logged : loggedIn t = if log then attempts.map Attempt.entry else []
  written : writtenIn t = attempts.filterMap Attempt.written?

namespace Records

variable {log : Bool} {t' : List Said} {first second : List Attempt}

/-- Where nothing is logged and nothing goes out, nothing was attempted. -/
theorem of_silent (logged : loggedIn t = []) (written : writtenIn t = []) : Records log t [] := by
  refine ⟨?_, written⟩
  rw [logged]
  split <;> rfl

protected theorem nil (log : Bool) : Records log [] [] :=
  of_silent rfl rfl

protected theorem append (h : Records log t first) (h' : Records log t' second) :
    Records log (t ++ t') (first ++ second) := by
  refine ⟨?_, ?_⟩
  · rw [loggedIn_append, h.logged, h'.logged]
    split
    · rw [List.map_append]
    · rfl
  · rw [writtenIn_append, h.written, h'.written, List.filterMap_append]

/-- Without a log, the peers hear everything. -/
theorem heardIn_eq {attempts : List Attempt} (h : Records false t attempts) : heardIn t = t :=
  heardIn_of_loggedIn_eq_nil h.logged

end Records

/-- What is logged ahead of something is logged. -/
theorem loggedIn_logs (e : Executor) (operation : Operation) (text : String) :
    loggedIn (e.logs operation text) =
      if e.config.printStatements then [(operation, text)] else [] := by
  unfold logs
  split <;> rfl

/-- What is said for a statement records it. -/
theorem records_saidFor (e : Executor) (operation : Operation) (statement : String)
    (a : Http.Answer) :
    Records e.config.printStatements (e.saidFor operation statement a)
      [.statement operation statement] := by
  refine ⟨?_, writtenIn_saidFor e operation statement a⟩
  rw [saidFor, loggedIn_append, loggedIn_logs]
  exact List.append_nil _

/-- A lookup records the statement that it fetches its records with. -/
theorem records_lookup (idle : e.connector.results = none) {α : Type} {operation : Operation}
    {fields : Option (List String)} {statement : List String → String}
    {d : Dialogue (Except Error α × Executor)} {r : Except Error α × Executor}
    (told : Except Error (List FieldValues) × Executor → Except Error α × Executor)
    (unknown : ∀ fault, e.requested fields = .error fault → d = .done (.error fault, e))
    (known : ∀ names, e.requested fields = .ok names →
      d = (e.fetch operation (statement names) names).bind fun x => .done (told x))
    (h : d.Plays t r) :
    Records e.config.printStatements t (e.lookup operation fields statement) := by
  rw [lookup]
  cases hfields : e.requested fields with
  | error fault =>
      rw [unknown fault hfields] at h
      rw [(plays_done_iff.1 h).1]
      exact .nil _
  | ok names =>
      rw [known names hfields] at h
      obtain ⟨first, ⟨records, after⟩, second, rfl, hfetch, hrest⟩ := plays_bind_iff.1 h
      obtain ⟨a, rfl, -, -⟩ := plays_fetch idle hfetch
      rw [(plays_done_iff.1 hrest).1, List.append_nil]
      exact records_saidFor e operation (statement names) a

theorem records_read (idle : e.connector.results = none) {key : String}
    {fields : Option (List String)} {r : Except Error FieldValues × Executor}
    (h : (e.read key fields).Plays t r) :
    Records e.config.printStatements t (e.attempts (.read key fields)) := by
  refine records_lookup idle (fun x => (firstRecord key x.1, x.2)) ?_ ?_ h
  · intro fault unknown
    rw [read, unknown]
  · intro names known
    rw [read, known]
    refine congrArg (Dialogue.bind _) (funext ?_)
    rintro ⟨fault | (_ | ⟨values, records⟩), after⟩ <;> rfl

theorem records_scan (idle : e.connector.results = none) {start : String} {count : Nat}
    {fields : Option (List String)} {r : Except Error (List FieldValues) × Executor}
    (h : (e.scan start count fields).Plays t r) :
    Records e.config.printStatements t (e.attempts (.scan start count fields)) := by
  refine records_lookup idle (fun x => (x.1.map fun rs => rs.take count, x.2)) ?_ ?_ h
  · intro fault unknown
    rw [scan, unknown]
  · intro names known
    rw [scan, known]

/-- A flush records the batch that it sends. -/
theorem WriteKind.records_flush (k : WriteKind) (idle : e.connector.results = none)
    {result : Except Error Unit} (h : (k.flush e).Plays t (result, e')) :
    Records e.config.printStatements t (k.batch e) := by
  rw [batch]
  rcases k.plays_flush idle h with ⟨hnil, rfl, -⟩ | ⟨some, a, rfl, -⟩
  · rw [if_pos hnil]
    exact .nil _
  · rw [if_neg some]
    exact records_saidFor e _ _ a

/-- A write records the batch that it completes. -/
theorem WriteKind.records_write (k : WriteKind) (gathers : k = .insert → e.feed = none)
    (settled : e.Settled) {key : String} {values : FieldValues} {result : Except Error Outcome}
    (h : (k.write e key values).Plays t (result, e')) :
    Records e.config.printStatements t (k.joined e (k.textOf e key values)) := by
  rw [joined]
  rcases k.plays_write gathers settled h with ⟨room, rfl, -⟩ | ⟨full, a, rfl, -⟩
  · rw [if_pos room]
    exact .nil _
  · rw [if_neg (Nat.not_lt.2 full)]
    exact records_saidFor e _ _ a

/-- The same writes make the same batch. -/
theorem WriteKind.batch_of_continues {k : WriteKind} (same : Continues e e')
    (kept : k.waiting e' = k.waiting e) : k.batch e' = k.batch e := by
  have hstatement : k.statement e' = k.statement e := by
    cases k with
    | insert => exact funext fun _ => by rw [statement, insertion, same.target, same.config]; rfl
    | update => exact congrArg Sqlpp.Target.upsertProjections same.target
  rw [batch, batch, kept, hstatement]

/-- Both batches are recorded, the inserts first. -/
theorem records_flush (idle : e.connector.results = none) {result : Except Error Unit}
    (h : e.flush.Plays t (result, e')) :
    Records e.config.printStatements t (e.attempts .flush) := by
  obtain ⟨first, ⟨inserts, between⟩, rest, rfl, hinserts, hrest⟩ := plays_bind_iff.1 h
  obtain ⟨second, ⟨updates, after⟩, nothing, rfl, hupdates, hdone⟩ := plays_bind_iff.1 hrest
  obtain ⟨same, idle', kept⟩ := WriteKind.session_flush (k := .insert) idle hinserts
  have inserted := WriteKind.insert.records_flush idle hinserts
  have updated := WriteKind.update.records_flush idle' hupdates
  rw [same.config, WriteKind.batch_of_continues same (kept .update (by simp))] at updated
  rw [(plays_done_iff.1 hdone).1, List.append_nil]
  exact inserted.append updated

/-- With a feed, an insert records its record, whether or not it can go out. -/
theorem records_insert_of_feed {writer : FeedWriter} (hfeed : e.feed = some writer) {key : String}
    {values : FieldValues} {result : Except Error Outcome}
    (h : (e.insert key values).Plays t (result, e')) :
    Records e.config.printStatements t (e.attempts (.insert key values)) := by
  simp only [attempts, hfeed]
  rcases plays_insert_of_feed hfeed h with
    ⟨id, connected, rfl, -⟩ | ⟨reason, reply, message, rfl, -⟩
  · refine ⟨?_, ?_⟩
    · rw [loggedIn_append, loggedIn_logs]
      exact List.append_nil _
    · simp only [writtenIn_append, writtenIn_logs, Attempt.record, connected]
      rfl
  · refine ⟨?_, ?_⟩
    · rw [loggedIn_append, loggedIn_logs]
      cases writer.connection <;> exact List.append_nil _
    · simp only [writtenIn_append, writtenIn_logs, Attempt.record]
      cases writer.connection <;> rfl

/-- Every call of a settled executor records what it hands over. -/
theorem records_perform (settled : e.Settled) {a : Action} {result : Except Error Reply}
    (h : (e.perform a).Plays t (result, e')) :
    Records e.config.printStatements t (e.attempts a) := by
  cases a with
  | read key fields =>
      obtain ⟨given, hgiven, -⟩ := plays_replying_iff.1 h
      exact records_read settled.idle hgiven
  | scan start count fields =>
      obtain ⟨given, hgiven, -⟩ := plays_replying_iff.1 h
      exact records_scan settled.idle hgiven
  | insert key values =>
      obtain ⟨given, hgiven, -⟩ := plays_replying_iff.1 h
      cases hfeed : e.feed with
      | some writer => exact records_insert_of_feed hfeed hgiven
      | none =>
          simp only [attempts, hfeed]
          exact WriteKind.insert.records_write (fun _ => hfeed) settled hgiven
  | update key values =>
      obtain ⟨given, hgiven, -⟩ := plays_replying_iff.1 h
      exact WriteKind.update.records_write nofun settled hgiven
  | delete key =>
      obtain ⟨given, hgiven, -⟩ := plays_replying_iff.1 h
      obtain ⟨a, rfl, -⟩ := plays_execute settled.idle hgiven
      exact records_saidFor e _ _ a
  | flush =>
      obtain ⟨given, hgiven, -⟩ := plays_replying_iff.1 h
      exact records_flush settled.idle hgiven

/-- No call changes the configuration. -/
theorem config_of_plays (settled : e.Settled) {a : Action} {result : Except Error Reply}
    (h : (e.perform a).Plays t (result, e')) : e'.config = e.config := by
  by_cases other : ∀ key values, a ≠ .insert key values
  · exact (sparesFeed_of_plays settled other h).continues.config
  · simp only [ne_eq, not_forall, not_not] at other
    obtain ⟨key, values, rfl⟩ := other
    obtain ⟨given, hgiven, -⟩ := plays_replying_iff.1 h
    cases hfeed : e.feed with
    | none =>
        exact (WriteKind.session_write (k := .insert) (fun _ => hfeed) settled hgiven).2.config
    | some writer =>
        rcases plays_insert_of_feed hfeed hgiven with
          ⟨id, -, -, -, rfl⟩ | ⟨reason, reply, message, -, -, rfl⟩ <;> rfl

/-- Closing the feed records nothing. -/
theorem records_closeFeed {log : Bool} {result : Except Error Unit}
    (h : e.closeFeed.Plays t result) : Records log t [] := by
  rcases plays_closeFeed h with ⟨-, rfl, -⟩ | ⟨id, reply, -, rfl, -⟩
  · exact .nil log
  · exact .of_silent rfl rfl

/-- A shutdown records what it flushes. -/
theorem records_shutdown (idle : e.connector.results = none) {result : Except Error Unit}
    (h : e.shutdown.Plays t result) :
    Records e.config.printStatements t (e.attempts .flush) := by
  rw [shutdown_eq] at h
  obtain ⟨first, ⟨flushed, after⟩, rest, rfl, hflush, hrest⟩ := plays_bind_iff.1 h
  obtain ⟨second, closed, nothing, rfl, hclose, hdone⟩ := plays_bind_iff.1 hrest
  rw [(plays_done_iff.1 hdone).1, List.append_nil]
  simpa using (records_flush idle hflush).append (records_closeFeed hclose)

/-! ## With the log and without it -/

/-- The executor with or without a log of statements. -/
def withLog (e : Executor) (log : Bool) : Executor :=
  { e with config := e.config.withLog log }

/-- Two dialogues are the same but for what they log, and the executors that they leave are the same
but for their logs. -/
def SameButLog {α : Type} (log : Bool) (d d' : Dialogue (α × Executor)) : Prop :=
  d'.quiet = d.quiet.bind fun x => .done (x.1, x.2.withLog log)

namespace SameButLog

variable {α β γ : Type} {log : Bool} {d d' : Dialogue (α × Executor)}

protected theorem done (a : α) (e : Executor) :
    SameButLog log (.done (a, e)) (.done (a, e.withLog log)) := rfl

/-- What comes before may be any dialogue at all. -/
theorem after (d : Dialogue γ) {f f' : γ → Dialogue (α × Executor)}
    (h : ∀ c, SameButLog log (f c) (f' c)) : SameButLog log (d.bind f) (d.bind f') := by
  rw [SameButLog, quiet_bind, quiet_bind, bind_assoc]
  exact congrArg d.quiet.bind (funext h)

/-- What follows may depend on what has come of the first dialogue, but not on its log. -/
protected theorem bind (h : SameButLog log d d') {f f' : α × Executor → Dialogue (β × Executor)}
    (hf : ∀ a e, SameButLog log (f (a, e)) (f' (a, e.withLog log))) :
    SameButLog log (d.bind f) (d'.bind f') := by
  rw [SameButLog, quiet_bind, quiet_bind, h, bind_assoc, bind_assoc]
  exact congrArg d.quiet.bind (funext fun x => hf x.1 x.2)

/-- So may what is made of the result. -/
theorem map (h : SameButLog log d d') (f : α → β) :
    SameButLog log (d.bind fun (a, e) => .done (f a, e)) (d'.bind fun (a, e) => .done (f a, e)) :=
  h.bind fun _ _ => .done _ _

/-- It does not matter who logs a text, and whether it is logged. -/
theorem logging (h : SameButLog log d d') (e e' : Executor) (operation : Operation)
    (text : String) :
    SameButLog log (e.logging operation text d) (e'.logging operation text d') := by
  have quiet (e : Executor) (d : Dialogue (α × Executor)) :
      (e.logging operation text d).quiet = d.quiet := by
    unfold Executor.logging
    split <;> rfl
  rw [SameButLog, quiet, quiet]
  exact h

/-- Both dialogues go on in the same of two ways. -/
protected theorem ite {p : Prop} [Decidable p]
    {first first' second second' : Dialogue (α × Executor)}
    (h : SameButLog log first first') (h' : SameButLog log second second') :
    SameButLog log (if p then first else second) (if p then first' else second') := by
  split
  · exact h
  · exact h'

end SameButLog

variable {log : Bool}

theorem sameButLog_execute (e : Executor) (operation : Operation) (statement : String) :
    SameButLog log (e.execute operation statement) ((e.withLog log).execute operation statement) :=
  (SameButLog.after _ fun _ => .done _ _).logging ..

theorem sameButLog_fetch (e : Executor) (operation : Operation) (statement : String)
    (fields : List String) :
    SameButLog log (e.fetch operation statement fields)
      ((e.withLog log).fetch operation statement fields) := by
  refine (SameButLog.after _ fun (opened, c) => ?_).logging ..
  cases opened <;> exact .done _ _

theorem sameButLog_read (e : Executor) (key : String) (fields : Option (List String)) :
    SameButLog log (e.read key fields) ((e.withLog log).read key fields) := by
  have same : (e.withLog log).requested fields = e.requested fields := rfl
  rw [read, read, same]
  cases e.requested fields with
  | error fault => exact .done _ _
  | ok names =>
      refine (sameButLog_fetch ..).bind fun records e => ?_
      rcases records with fault | (_ | ⟨values, records⟩) <;> exact .done _ _

theorem sameButLog_scan (e : Executor) (start : String) (count : Nat)
    (fields : Option (List String)) :
    SameButLog log (e.scan start count fields) ((e.withLog log).scan start count fields) := by
  have same : (e.withLog log).requested fields = e.requested fields := rfl
  rw [scan, scan, same]
  cases e.requested fields with
  | error fault => exact .done _ _
  | ok names => exact (sameButLog_fetch ..).bind fun _ _ => .done _ _

theorem sameButLog_flushInserts (e : Executor) :
    SameButLog log e.flushInserts (e.withLog log).flushInserts :=
  .ite (.done _ _) (sameButLog_execute { e with inserts := [] } ..)

theorem sameButLog_flushUpdates (e : Executor) :
    SameButLog log e.flushUpdates (e.withLog log).flushUpdates :=
  .ite (.done _ _) (sameButLog_execute { e with updates := [] } ..)

theorem sameButLog_insert (e : Executor) (key : String) (values : FieldValues) :
    SameButLog log (e.insert key values) ((e.withLog log).insert key values) := by
  have same : (e.withLog log).feed = e.feed := rfl
  rw [insert, insert, same]
  cases e.feed with
  | some w => exact (SameButLog.after _ fun _ => .done _ _).logging ..
  | none =>
      let gathered : Executor :=
        { e with inserts := e.inserts ++ [e.literalOf key values], feed := none }
      exact .ite ((sameButLog_execute e ..).map committed)
        (.ite ((sameButLog_flushInserts gathered).map committed) (.done _ gathered))

theorem sameButLog_update (e : Executor) (key : String) (values : FieldValues) :
    SameButLog log (e.update key values) ((e.withLog log).update key values) := by
  let gathered : Executor := { e with updates := e.updates ++ [e.projectionOf key values] }
  exact .ite ((sameButLog_execute e ..).map committed)
    (.ite ((sameButLog_flushUpdates gathered).map committed) (.done _ gathered))

theorem sameButLog_flush (e : Executor) : SameButLog log e.flush (e.withLog log).flush :=
  (sameButLog_flushInserts e).bind fun _ e =>
    (sameButLog_flushUpdates e).bind fun _ _ => .done _ _

/-- The log does not change what an executor does in a call. -/
theorem sameButLog_perform (e : Executor) (a : Action) :
    SameButLog log (e.perform a) ((e.withLog log).perform a) := by
  cases a with
  | read key fields => exact (sameButLog_read ..).map _
  | scan start count fields => exact (sameButLog_scan ..).map _
  | insert key values => exact (sameButLog_insert ..).map _
  | update key values => exact (sameButLog_update ..).map _
  | delete key => exact (sameButLog_execute ..).map _
  | flush => exact (sameButLog_flush ..).map _

/-- Nor what it does to shut down. -/
theorem quiet_shutdown (e : Executor) (log : Bool) :
    (e.withLog log).shutdown.quiet = e.shutdown.quiet := by
  rw [shutdown_eq, shutdown_eq, quiet_bind, quiet_bind, sameButLog_flush e, bind_assoc]
  rfl

/-- Connecting logs nothing at all. -/
theorem connect_withLog [Url.Idna] (config : ClientConfig) (log : Bool) :
    connect (config.withLog log) =
      (connect config).bind fun result => .done (result.map fun e => e.withLog log) := by
  have same : (config.withLog log).url = config.url := rfl
  unfold connect
  rw [same]
  cases Connector.ofUrl config.url with
  | error fault => rfl
  | ok c =>
      dsimp only
      rw [discover, discover, bind_assoc]
      refine congrArg (Dialogue.bind _) (funext ?_)
      rintro ⟨key, c⟩
      cases key with
      | error fault => rfl
      | ok key =>
          dsimp only
          rw [bind_assoc]
          refine congrArg (Dialogue.bind _) (funext ?_)
          rintro ⟨fields, c⟩
          cases fields with
          | error fault => rfl
          | ok fields =>
              dsimp only
              have same : (config.withLog log).feed = config.feed := rfl
              rw [same]
              cases config.feed with
              | none => rfl
              | some f =>
                  dsimp only
                  rw [bind_assoc]
                  refine congrArg (Dialogue.bind _) (funext fun result => ?_)
                  cases result <;> rfl

/-! ## Sessions with peers -/

section Peers

variable (peers : Peers)

/-- A call, with peers who have heard some things. -/
def stepTo (heard : List Said) (e : Executor) (a : Action) : Step :=
  ⟨e, a, (e.perform a).saidTo peers heard, ((e.perform a).resultTo peers heard).1,
    ((e.perform a).resultTo peers heard).2⟩

/-- A session: calls, one after the other, and a shutdown. -/
structure Session where
  steps : List Step
  last : Executor
  closing : List Said
  ended : Except Error Unit

/-- All that is said in a session. -/
def Session.said (s : Session) : List Said :=
  s.steps.flatMap Step.said ++ s.closing

/-- All that is handed over in a session, in its order. -/
def Session.attempts (s : Session) : List Attempt :=
  s.steps.flatMap (fun step => step.before.attempts step.call) ++ s.last.attempts .flush

/-- The session of an executor with peers who have heard some things. -/
def sessionTo : List Said → Executor → List Action → Session
  | heard, e, [] => ⟨[], e, e.shutdown.saidTo peers heard, e.shutdown.resultTo peers heard⟩
  | heard, e, a :: rest =>
    let step := stepTo peers heard e a
    let session := sessionTo (heard ++ heardIn step.said) step.after rest
    { session with steps := step :: session.steps }

end Peers

/-- A step is another one without its log: the same call gets the same reply, it leaves the same
executor, and what is said is what the peers hear of the other step. -/
structure Step.IsQuietOf (quiet step : Step) : Prop where
  before : quiet.before = step.before.withLog false
  call : quiet.call = step.call
  said : quiet.said = heardIn step.said
  reply : quiet.reply = step.reply
  after : quiet.after = step.after.withLog false

/-- A session is another one without its log. -/
structure Session.IsQuietOf (quiet session : Session) : Prop where
  steps : List.Forall₂ Step.IsQuietOf quiet.steps session.steps
  last : quiet.last = session.last.withLog false
  closing : quiet.closing = heardIn session.closing
  ended : quiet.ended = session.ended

/-- A session records what is handed over in it: so do each of its steps and its shutdown. -/
structure Session.IsRecorded (log : Bool) (session : Session) : Prop where
  steps : ∀ step ∈ session.steps, Records log step.said (step.before.attempts step.call)
  closing : Records log session.closing (session.last.attempts .flush)

/-- The steps of a session and its shutdown are recorded one after the other. -/
theorem Session.IsRecorded.records {log : Bool} {session : Session} (h : session.IsRecorded log) :
    Records log session.said session.attempts := by
  have steps (l : List Step) (hl : ∀ step ∈ l, Records log step.said
      (step.before.attempts step.call)) : Records log (l.flatMap Step.said)
        (l.flatMap fun step => step.before.attempts step.call) := by
    induction l with
    | nil => exact .nil log
    | cons step l ih =>
        exact (hl step (List.mem_cons_self ..)).append
          (ih fun x hx => hl x (List.mem_cons_of_mem _ hx))
  exact (steps session.steps h.steps).append h.closing

section Peers

variable (peers : Peers) (heard : List Said)

/-- A session of a settled executor is recorded, in the log if its configuration asks for one. -/
theorem isRecorded_sessionTo (settled : e.Settled) (calls : List Action) :
    (sessionTo peers heard e calls).IsRecorded e.config.printStatements := by
  induction calls generalizing heard e with
  | nil =>
      refine ⟨by simp [sessionTo], ?_⟩
      exact records_shutdown settled.idle (e.shutdown.plays_saidTo peers heard)
  | cons a rest ih =>
      have plays := (e.perform a).plays_saidTo peers heard
      have settled' := (treats_of_plays settled plays).2
      have later := ih (heard ++ heardIn (stepTo peers heard e a).said) settled'
      rw [config_of_plays settled plays] at later
      refine ⟨fun step hstep => ?_, later.closing⟩
      rcases List.mem_cons.1 hstep with rfl | hstep
      · exact records_perform settled plays
      · exact later.steps step hstep

/-- Without its log, a step is the same. -/
theorem isQuietOf_stepTo (settled : e.Settled) (a : Action) :
    (stepTo peers heard (e.withLog false) a).IsQuietOf (stepTo peers heard e a) := by
  have settled' : (e.withLog false).Settled :=
    ⟨settled.idle, settled.fits.inserts, settled.fits.updates⟩
  have silent := (records_perform settled'
    (((e.withLog false).perform a).plays_saidTo peers heard)).heardIn_eq
  have same : ((e.withLog false).perform a).resultTo peers heard =
      (((e.perform a).resultTo peers heard).1, ((e.perform a).resultTo peers heard).2.withLog false)
      := by
    rw [← resultTo_quiet, sameButLog_perform e a, resultTo_bind_done, resultTo_quiet]
  have reply := congrArg Prod.fst same
  have after := congrArg Prod.snd same
  refine ⟨rfl, rfl, ?_, reply, after⟩
  calc (stepTo peers heard (e.withLog false) a).said
      = heardIn (((e.withLog false).perform a).saidTo peers heard) := silent.symm
    _ = ((e.withLog false).perform a).quiet.saidTo peers heard := (saidTo_quiet ..).symm
    _ = (e.perform a).quiet.saidTo peers heard := by
        rw [sameButLog_perform e a, saidTo_bind_done]
    _ = heardIn ((e.perform a).saidTo peers heard) := saidTo_quiet ..

/-- Without its log, a session is the same. -/
theorem isQuietOf_sessionTo (settled : e.Settled) (calls : List Action) :
    (sessionTo peers heard (e.withLog false) calls).IsQuietOf (sessionTo peers heard e calls) := by
  induction calls generalizing heard e with
  | nil =>
      have settled' : (e.withLog false).Settled :=
        ⟨settled.idle, settled.fits.inserts, settled.fits.updates⟩
      have silent := (records_shutdown settled'.idle
        ((e.withLog false).shutdown.plays_saidTo peers heard)).heardIn_eq
      refine ⟨.nil, rfl, ?_, ?_⟩
      · change (e.withLog false).shutdown.saidTo peers heard =
          heardIn (e.shutdown.saidTo peers heard)
        rw [← silent, ← saidTo_quiet, ← saidTo_quiet, quiet_shutdown]
      · change (e.withLog false).shutdown.resultTo peers heard = e.shutdown.resultTo peers heard
        rw [← resultTo_quiet, quiet_shutdown, resultTo_quiet]
  | cons a rest ih =>
      have step := isQuietOf_stepTo peers heard settled a
      have settled' : (stepTo peers heard e a).after.Settled :=
        (treats_of_plays settled ((e.perform a).plays_saidTo peers heard)).2
      have later := ih (heard ++ heardIn (stepTo peers heard e a).said) settled'
      -- the peers have heard the same in both steps, so the sessions go on alike
      have rest' : sessionTo peers (heard ++ heardIn (stepTo peers heard (e.withLog false) a).said)
            (stepTo peers heard (e.withLog false) a).after rest =
          sessionTo peers (heard ++ heardIn (stepTo peers heard e a).said)
            ((stepTo peers heard e a).after.withLog false) rest := by
        rw [step.said, heardIn_heardIn, step.after]
      rw [← rest'] at later
      exact ⟨.cons step later.steps, later.last, later.closing, later.ended⟩

end Peers

/-- Nothing is logged before there is an executor. -/
theorem loggedIn_of_connect [Url.Idna] {config : ClientConfig}
    (connected : (connect config).Plays t (.ok e)) : loggedIn t = [] := by
  obtain ⟨-, key, fields, a, a', opening, rfl, ⟨-, rfl⟩ | ⟨f, id, -, rfl, -⟩⟩ :=
    fresh_of_plays connected
  · rfl
  · rfl

/-- The log of statements is faithful, and nothing depends on it.

Whatever the service and the feed reply, and whatever is called, an executor logs each statement
that it hands over and each record for the feed, connected or not, once and in their order, with the
kind of operation it is for; and what goes out is what it handed over, as far as the feed was
connected. An executor that is not to log, with the same peers and the same calls, connects alike,
says the same but for the log, which stays empty, gets the same replies, and is the same executor
after each call. -/
theorem statement_log_is_faithful_and_inert [Url.Idna] {config : ClientConfig} {peers : Peers}
    (connected : (connect (config.withLog true)).resultTo peers [] = .ok e)
    (calls : List Action) :
    let opening := (connect (config.withLog true)).saidTo peers []
    let session := sessionTo peers opening e calls
    let quiet := sessionTo peers opening (e.withLog false) calls
    ((connect (config.withLog false)).saidTo peers [] = opening ∧
        (connect (config.withLog false)).resultTo peers [] = .ok (e.withLog false)) ∧
      quiet.IsQuietOf session ∧ session.IsRecorded true ∧ quiet.IsRecorded false ∧
      loggedIn (opening ++ session.said) = session.attempts.map Attempt.entry ∧
      loggedIn (opening ++ quiet.said) = [] := by
  intro opening session quiet
  have plays := (connect (config.withLog true)).plays_saidTo peers []
  rw [connected] at plays
  have fresh := (fresh_of_plays plays).1
  have unlogged : loggedIn opening = [] := loggedIn_of_connect plays
  have recorded : session.IsRecorded true := by
    have := isRecorded_sessionTo peers opening fresh.settled calls
    rwa [fresh.configured] at this
  have settled' : (e.withLog false).Settled :=
    ⟨fresh.settled.idle, fresh.settled.fits.inserts, fresh.settled.fits.updates⟩
  have recorded' : quiet.IsRecorded false := isRecorded_sessionTo peers opening settled' calls
  have hconnect := connect_withLog (config.withLog true) false
  refine ⟨⟨?_, ?_⟩, isQuietOf_sessionTo peers opening fresh.settled calls, recorded, recorded',
    ?_, ?_⟩
  · change (connect ((config.withLog true).withLog false)).saidTo peers [] = _
    rw [hconnect, saidTo_bind_done]
  · change (connect ((config.withLog true).withLog false)).resultTo peers [] = _
    rw [hconnect, resultTo_bind_done, connected]
    rfl
  · rw [loggedIn_append, unlogged, recorded.records.logged]
    rfl
  · rw [loggedIn_append, unlogged, recorded'.records.logged]
    rfl

/-- Peers that describe the relation, take every line of the feed and answer nothing else. -/
def describing : Peers
  | heard, .request _ => catalogAnswers.getD heard.length (.dropped World.reset)
  | _, .connect .. => .ok 0
  | _, .write .. | _, .close _ => .ok ()
  | _, .log .. | _, .print _ => ()

/-- A record that goes to the feed is logged as an insert, and nothing is logged besides. -/
theorem record_for_the_feed_is_logged :
    let config : ClientConfig := { url := "http://[::1]", feed := some ⟨"localhost", 10001⟩ }
    ∃ e, (connect (config.withLog true)).resultTo describing [] = .ok e ∧
      let opening := (connect (config.withLog true)).saidTo describing []
      loggedIn (opening ++ (sessionTo describing opening e [.insert "a" .empty]).said) =
        [(.insert, e.literalOf "a" .empty)] := by
  intro config
  have parses : (Endpoint.parse config.url).isOk = true := by decide +kernel
  obtain ⟨endpoint, valid⟩ := exists_eq_ok parses
  obtain ⟨described, some⟩ := fieldsOf_eq_ok_iff.1 (fieldsOf_catalogAnswers (relationName config))
  have plays := (@plays_connect_iff (config.withLog true) endpoint _ _ valid rfl _).2
    (.ready (keyOf_eq_ok_iff.1 (keyOf_catalogAnswers (relationName config))) described some
      (.accepted ⟨"localhost", 10001⟩ 0))
  have connected : (connect (config.withLog true)).resultTo describing [] = .ok _ :=
    (resultTo_of_plays describing plays ⟨rfl, rfl, rfl, trivial⟩).2
  obtain ⟨-, -, -, -, logged, -⟩ :=
    statement_log_is_faithful_and_inert connected [.insert "a" .empty]
  exact ⟨_, connected, logged⟩

end Executor

end SqlppBench
