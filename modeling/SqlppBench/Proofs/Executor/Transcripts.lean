import SqlppBench.Proofs.Executor.Outcomes

/-! # What is said for the calls of an executor

Each call of a settled executor has few transcripts, whatever the replies are. A write is one
request or none (`plays_write`), or one line for the feed, and after a failure one attempt to
connect again (`plays_insert_of_feed`); what a shutdown adds is the request for the writes that
wait and the end of the connection (`plays_shutdown`).
-/

namespace SqlppBench

/-! ## Parts of a transcript -/

/-- What goes out: a statement for the service, or a line for the feed with its line feed. -/
inductive Written where
  | statement (text : String)
  | line (text : String)
deriving DecidableEq

/-- A record on a line of its own. -/
def Written.ofRecord (record : String) : Written :=
  .line (record ++ "\n")

namespace Said

/-- What goes out with a call. -/
def written? : Said → Option Written
  | ⟨.request r, _⟩ => some (.statement r.statement)
  | ⟨.write _ text, _⟩ => some (.line text)
  | ⟨.connect .., _⟩ | ⟨.close _, _⟩ | ⟨.log .., _⟩ | ⟨.print _, _⟩ => none

/-- The line that is printed with a call. -/
def printed? : Said → Option String
  | ⟨.print line, _⟩ => some line
  | ⟨.request _, _⟩ | ⟨.connect .., _⟩ | ⟨.write .., _⟩ | ⟨.close _, _⟩ | ⟨.log .., _⟩ => none

/-- Whether a call has to do with the feed. -/
def isForFeed : Said → Bool
  | ⟨.connect .., _⟩ | ⟨.write .., _⟩ | ⟨.close _, _⟩ => true
  | ⟨.request _, _⟩ | ⟨.log .., _⟩ | ⟨.print _, _⟩ => false

/-- The reply to a call tells that it was done. -/
def IsAcknowledged : Said → Prop
  | ⟨.request r, a⟩ => (⟨r, a⟩ : Exchange).IsAcknowledged
  | ⟨.connect .., reply⟩ => ∃ id, reply = .ok id
  | ⟨.write .., reply⟩ | ⟨.close _, reply⟩ => reply = .ok ()
  | ⟨.log .., _⟩ | ⟨.print _, _⟩ => True

end Said

/-- What goes out in a transcript. -/
def writtenIn (t : List Said) : List Written :=
  t.filterMap Said.written?

/-- The lines that are printed in a transcript. -/
def printedIn (t : List Said) : List String :=
  t.filterMap Said.printed?

/-- A connection to the feed was closed without a failure. -/
def ClosesFeed (t : List Said) : Prop :=
  ∃ id, (⟨.close id, .ok ()⟩ : Said) ∈ t

@[simp] theorem writtenIn_append (t t' : List Said) :
    writtenIn (t ++ t') = writtenIn t ++ writtenIn t' :=
  List.filterMap_append

@[simp] theorem printedIn_append (t t' : List Said) :
    printedIn (t ++ t') = printedIn t ++ printedIn t' :=
  List.filterMap_append

namespace Executor

open Dialogue

variable {e e' : Executor} {t : List Said}

/-! ## Statements -/

/-- What is said where a text is to be logged. -/
def logs (e : Executor) (operation : Operation) (text : String) : List Said :=
  if e.config.printStatements then [⟨.log operation text, ()⟩] else []

/-- What is said for a statement that was answered. -/
def saidFor (e : Executor) (operation : Operation) (statement : String) (a : Http.Answer) :
    List Said :=
  e.logs operation statement ++ [⟨.request (e.connector.requestOf statement), a⟩]

@[simp] theorem writtenIn_logs (e : Executor) (operation : Operation) (text : String) :
    writtenIn (e.logs operation text) = [] := by
  unfold logs
  split <;> rfl

@[simp] theorem printedIn_logs (e : Executor) (operation : Operation) (text : String) :
    printedIn (e.logs operation text) = [] := by
  unfold logs
  split <;> rfl

@[simp] theorem writtenIn_saidFor (e : Executor) (operation : Operation) (statement : String)
    (a : Http.Answer) : writtenIn (e.saidFor operation statement a) = [.statement statement] := by
  rw [saidFor, writtenIn_append, writtenIn_logs]
  rfl

/-- Logging has nothing to do with the feed. -/
theorem isForFeed_logs {operation : Operation} {text : String} {x : Said}
    (h : x ∈ e.logs operation text) : x.isForFeed = false := by
  unfold logs at h
  split at h
  · obtain rfl := List.mem_singleton.1 h
    rfl
  · cases h

/-- Logging and requests have nothing to do with the feed. -/
theorem isForFeed_saidFor {operation : Operation} {statement : String} {a : Http.Answer} {x : Said}
    (h : x ∈ e.saidFor operation statement a) : x.isForFeed = false := by
  rcases List.mem_append.1 h with h | h
  · exact isForFeed_logs h
  · obtain rfl := List.mem_singleton.1 h
    rfl

theorem plays_logging_iff {α : Type} {operation : Operation} {text : String} {d : Dialogue α}
    {a : α} :
    (e.logging operation text d).Plays t a ↔
      ∃ rest, t = e.logs operation text ++ rest ∧ d.Plays rest a := by
  unfold logging logs
  split
  · constructor
    · intro h
      obtain ⟨⟨⟩, rest, rfl, hrest⟩ := plays_perform_iff.1 h
      exact ⟨rest, rfl, hrest⟩
    · rintro ⟨rest, rfl, hrest⟩
      exact .perform _ hrest
  · simp

/-- A statement is one request, and the answer to it decides the result. -/
theorem plays_execute (idle : e.connector.results = none) {operation : Operation}
    {statement : String} {result : Except Error Unit}
    (h : (e.execute operation statement).Plays t (result, e')) :
    ∃ a, t = e.saidFor operation statement a ∧ result = Connector.effectOf a ∧
      e' = e.answered a result := by
  rw [execute_of_idle idle, plays_logging_iff] at h
  obtain ⟨rest, rfl, hrest⟩ := h
  obtain ⟨a, said, rfl, hsaid⟩ := plays_perform_iff.1 hrest
  obtain ⟨rfl, hresult⟩ := plays_done_iff.1 hsaid
  obtain ⟨rfl, rfl⟩ := Prod.mk.inj hresult
  exact ⟨a, rfl, rfl, rfl⟩

/-- A statement with records is one request, and the answer to it decides the result. -/
theorem plays_fetch (idle : e.connector.results = none) {operation : Operation}
    {statement : String} {fields : List String} {result : Except Error (List FieldValues)}
    (h : (e.fetch operation statement fields).Plays t (result, e')) :
    ∃ a, t = e.saidFor operation statement a ∧
      result = (Connector.recordsOf a).bind (decodeAll fields) ∧
      e' = e.answered a (Connector.recordsOf a) := by
  rw [fetch_of_idle idle, plays_logging_iff] at h
  obtain ⟨rest, rfl, hrest⟩ := h
  obtain ⟨a, said, rfl, hsaid⟩ := plays_perform_iff.1 hrest
  obtain ⟨rfl, hresult⟩ := plays_done_iff.1 hsaid
  obtain ⟨rfl, rfl⟩ := Prod.mk.inj hresult
  exact ⟨a, rfl, rfl, rfl⟩

/-- What is made of a result says nothing. -/
theorem plays_replying_iff {α : Type} {reply : α → Reply}
    {d : Dialogue (Except Error α × Executor)} {result : Except Error Reply} :
    (replying reply d).Plays t (result, e') ↔
      ∃ given, d.Plays t (given, e') ∧ result = given.map reply := by
  constructor
  · intro h
    obtain ⟨first, ⟨given, after⟩, second, rfl, hgiven, hdone⟩ := plays_bind_iff.1 h
    obtain ⟨rfl, hresult⟩ := plays_done_iff.1 hdone
    obtain ⟨rfl, rfl⟩ := Prod.mk.inj hresult
    exact ⟨given, by simpa using hgiven, rfl⟩
  · rintro ⟨given, hgiven, rfl⟩
    exact plays_bind_iff.2 ⟨t, _, [], by simp, hgiven, .done _⟩

/-- A lookup says nothing and fails, or it says what is said to fetch records. -/
theorem plays_lookup {a : Action} (looksUp : a.isLookup = true) {result : Except Error Reply}
    (h : (e.perform a).Plays t (result, e')) :
    (t = [] ∧ e' = e ∧ FailsOnly Error.IsPassing result) ∨
      ∃ operation statement fields records,
        (e.fetch operation statement fields).Plays t (records, e') ∧
          (FailsOnly Error.IsPassing records → FailsOnly Error.IsPassing result) := by
  cases a with
  | read key fields =>
      obtain ⟨given, hgiven, rfl⟩ := plays_replying_iff.1 h
      have known := failsOnly_requested e fields
      unfold read at hgiven
      split at hgiven
      · rename_i fault unknown
        obtain ⟨rfl, hresult⟩ := plays_done_iff.1 hgiven
        obtain ⟨rfl, rfl⟩ := Prod.mk.inj hresult
        exact .inl ⟨rfl, rfl, failsOnly_error (known fault unknown)⟩
      · obtain ⟨first, ⟨records, after⟩, nothing, rfl, hfetch, hdone⟩ := plays_bind_iff.1 hgiven
        obtain ⟨rfl, hresult⟩ := plays_done_iff.1 hdone
        have hread : given = firstRecord key records ∧ e' = after := by
          rcases records with fault | (_ | ⟨values, records⟩) <;> exact Prod.mk.inj hresult
        obtain ⟨rfl, rfl⟩ := hread
        exact .inr ⟨_, _, _, records, by simpa using hfetch, fun passing =>
          (failsOnly_firstRecord passing (by simp [Error.IsPassing, Error.kind])).map _⟩
  | scan start count fields =>
      obtain ⟨given, hgiven, rfl⟩ := plays_replying_iff.1 h
      have known := failsOnly_requested e fields
      unfold scan at hgiven
      split at hgiven
      · rename_i fault unknown
        obtain ⟨rfl, hresult⟩ := plays_done_iff.1 hgiven
        obtain ⟨rfl, rfl⟩ := Prod.mk.inj hresult
        exact .inl ⟨rfl, rfl, failsOnly_error (known fault unknown)⟩
      · obtain ⟨first, ⟨records, after⟩, nothing, rfl, hfetch, hdone⟩ := plays_bind_iff.1 hgiven
        obtain ⟨rfl, hresult⟩ := plays_done_iff.1 hdone
        obtain ⟨rfl, rfl⟩ := Prod.mk.inj hresult
        exact .inr ⟨_, _, _, records, by simpa using hfetch, fun passing =>
          (passing.map _).map _⟩
  | insert key values => exact absurd looksUp Bool.false_ne_true
  | update key values => exact absurd looksUp Bool.false_ne_true
  | delete key => exact absurd looksUp Bool.false_ne_true
  | flush => exact absurd looksUp Bool.false_ne_true

/-- An answer changes nothing but the connector, which it leaves idle. -/
theorem Settled.answered {α : Type} (h : e.Settled) (a : Http.Answer) (result : Except Error α) :
    (e.answered a result).Settled := by
  refine ⟨?_, h.fits.inserts, h.fits.updates⟩
  simp [Executor.answered, h.idle]

/-! ## Connecting -/

/-- The catalog has nothing to do with the feed. -/
theorem isForFeed_of_plays_discover {α : Type} {c : Connector} {name : Catalog.RelationName}
    {statement : String} {ofRecords : List String → Except Error α}
    {r : Except Error α × Connector} (h : (c.discover name statement ofRecords).Plays t r) :
    ∀ x ∈ t, x.isForFeed = false := by
  intro x hx
  cases hresults : c.results with
  | some cursor =>
      rw [Connector.discover, Connector.isOpen, hresults] at h
      rw [(plays_done_iff.1 h).1] at hx
      cases hx
  | none =>
      cases hname : name.check with
      | error fault =>
          rw [Connector.discover_of_unnamed hresults hname] at h
          rw [(plays_done_iff.1 h).1] at hx
          cases hx
      | ok u =>
          rw [Connector.discover_of_idle hresults hname] at h
          obtain ⟨a, rest, rfl, hrest⟩ := plays_perform_iff.1 h
          rw [(plays_done_iff.1 hrest).1] at hx
          obtain rfl := List.mem_singleton.1 hx
          rfl

/-- Without a feed in the configuration, connecting has nothing to do with one, whatever comes of
it. -/
theorem isForFeed_of_plays_connect [Url.Idna] {config : ClientConfig} (noFeed : config.feed = none)
    {r : Except Error Executor} (h : (connect config).Plays t r) :
    ∀ x ∈ t, x.isForFeed = false := by
  intro x hx
  unfold connect at h
  split at h
  · rw [(plays_done_iff.1 h).1] at hx
    cases hx
  rename_i c _
  obtain ⟨first, ⟨key, c₁⟩, rest, rfl, hkey, hrest⟩ := plays_bind_iff.1 h
  rcases List.mem_append.1 hx with hx | hx
  · exact isForFeed_of_plays_discover hkey x hx
  cases key with
  | error fault =>
      rw [(plays_done_iff.1 hrest).1] at hx
      cases hx
  | ok key =>
      obtain ⟨second, ⟨fields, c₂⟩, nothing, rfl, hfields, hdone⟩ := plays_bind_iff.1 hrest
      rcases List.mem_append.1 hx with hx | hx
      · exact isForFeed_of_plays_discover hfields x hx
      have hnothing : nothing = [] := by
        cases fields with
        | error fault => exact (plays_done_iff.1 hdone).1
        | ok fields =>
            dsimp only at hdone
            rw [noFeed] at hdone
            exact (plays_done_iff.1 hdone).1
      rw [hnothing] at hx
      cases hx

/-! ## Writes -/

namespace WriteKind

/-- The operation that is counted and logged. -/
def operation : WriteKind → Operation
  | .insert => .insert
  | .update => .update

/-- What a write of the kind puts into a statement. -/
def textOf : WriteKind → Executor → String → FieldValues → String
  | .insert, e => e.literalOf
  | .update, e => e.projectionOf

/-- A write of the kind. -/
def write : WriteKind → Executor → String → FieldValues →
    Dialogue (Except Error Outcome × Executor)
  | .insert, e => e.insert
  | .update, e => e.update

/-- The executor when no write of the kind waits any longer. -/
def emptied : WriteKind → Executor → Executor
  | .insert, e => { e with inserts := [] }
  | .update, e => { e with updates := [] }

variable {k : WriteKind}

@[simp] theorem waiting_emptied (k : WriteKind) (e : Executor) : k.waiting (k.emptied e) = [] := by
  cases k <;> rfl

@[simp] theorem emptied_gather (k : WriteKind) (e : Executor) (text : String) :
    k.emptied (k.gather e text) = k.emptied e := by
  cases k <;> rfl

@[simp] theorem saidFor_emptied (k : WriteKind) (e : Executor) :
    (k.emptied e).saidFor = e.saidFor := by
  cases k <;> rfl

@[simp] theorem saidFor_gather (k : WriteKind) (e : Executor) (text : String) :
    (k.gather e text).saidFor = e.saidFor := by
  cases k <;> rfl

@[simp] theorem connector_emptied (k : WriteKind) (e : Executor) :
    (k.emptied e).connector = e.connector := by
  cases k <;> rfl

/-- What waits of the other kind stays. -/
theorem waiting_emptied_of_ne {other : WriteKind} (h : other ≠ k) (e : Executor) :
    other.waiting (k.emptied e) = other.waiting e := by
  cases k <;> cases other <;> first | exact absurd rfl h | rfl

theorem waiting_gather_of_ne {other : WriteKind} (h : other ≠ k) (e : Executor) (text : String) :
    other.waiting (k.gather e text) = other.waiting e := by
  cases k <;> cases other <;> first | exact absurd rfl h | rfl

@[simp] theorem waiting_answered {α : Type} (k : WriteKind) (e : Executor) (a : Http.Answer)
    (result : Except Error α) : k.waiting (e.answered a result) = k.waiting e := by
  cases k <;> rfl

/-- An executor stays settled when nothing waits any longer. -/
theorem settled_emptied (h : e.Settled) (k : WriteKind) : (k.emptied e).Settled := by
  cases k with
  | insert => exact ⟨h.idle, length_nil_lt _, h.fits.updates⟩
  | update => exact ⟨h.idle, h.fits.inserts, length_nil_lt _⟩

/-- An executor stays settled when a write joins those that wait, if there is room. -/
theorem settled_gather (h : e.Settled) {text : String}
    (room : (k.waiting e ++ [text]).length < max 1 (k.threshold e.config)) :
    (k.gather e text).Settled := by
  cases k with
  | insert => exact ⟨h.idle, room, h.fits.updates⟩
  | update => exact ⟨h.idle, h.fits.inserts, room⟩

theorem continues_emptied (k : WriteKind) (e : Executor) : Continues e (k.emptied e) := by
  cases k <;> exact ⟨rfl, rfl, rfl⟩

theorem continues_gather (k : WriteKind) (e : Executor) (text : String) :
    Continues e (k.gather e text) := by
  cases k <;> exact ⟨rfl, rfl, rfl⟩

theorem flush_of_nil (h : k.waiting e = []) : k.flush e = .done (.ok (), e) := by
  cases k with
  | insert => exact flushInserts_of_nil h
  | update => exact flushUpdates_of_nil h

/-- One statement is sent for all writes that wait. -/
theorem flush_of_ne_nil (h : k.waiting e ≠ []) :
    k.flush e = (k.emptied e).execute k.operation (k.statement e (k.waiting e)) := by
  cases k with
  | insert => exact flushInserts_of_ne_nil h
  | update => exact flushUpdates_of_ne_nil h

/-- A write waits while fewer wait than go into one statement. -/
theorem write_of_room (gathers : k = .insert → e.feed = none) {key : String} {values : FieldValues}
    (room : (k.waiting e ++ [k.textOf e key values]).length < max 1 (k.threshold e.config)) :
    k.write e key values = .done (.ok .batched, k.gather e (k.textOf e key values)) := by
  cases k with
  | insert => exact insert_of_room (gathers rfl) room
  | update => exact update_of_room room

/-- A write that makes enough of them for a statement is sent together with those that wait. -/
theorem write_of_full (gathers : k = .insert → e.feed = none) (fits : e.Fits) {key : String}
    {values : FieldValues}
    (full : max 1 (k.threshold e.config) ≤ (k.waiting e ++ [k.textOf e key values]).length) :
    k.write e key values = telling (k.flush (k.gather e (k.textOf e key values))) := by
  cases k with
  | insert => exact insert_of_full (gathers rfl) fits full
  | update => exact update_of_full fits full

/-- A flush is nothing, or one request for all writes that wait. -/
theorem plays_flush (idle : e.connector.results = none) {result : Except Error Unit}
    (h : (k.flush e).Plays t (result, e')) :
    (k.waiting e = [] ∧ t = [] ∧ result = .ok () ∧ e' = e) ∨
      (k.waiting e ≠ [] ∧ ∃ a, t = e.saidFor k.operation (k.statement e (k.waiting e)) a ∧
        result = Connector.effectOf a ∧ e' = (k.emptied e).answered a result) := by
  by_cases hnil : k.waiting e = []
  · rw [flush_of_nil hnil, plays_done_iff] at h
    obtain ⟨rfl, hresult⟩ := h
    obtain ⟨rfl, rfl⟩ := Prod.mk.inj hresult
    exact .inl ⟨hnil, rfl, rfl, rfl⟩
  · rw [flush_of_ne_nil hnil] at h
    have idle : (k.emptied e).connector.results = none := by
      rw [connector_emptied]
      exact idle
    obtain ⟨a, rfl, hresult, hafter⟩ := plays_execute idle h
    rw [saidFor_emptied]
    exact .inr ⟨hnil, a, rfl, hresult, hafter⟩

/-- A write waits, and nothing is said; or it is the last one in the statement for all that
wait. -/
theorem plays_write (gathers : k = .insert → e.feed = none) (settled : e.Settled) {key : String}
    {values : FieldValues} {result : Except Error Outcome}
    (h : (k.write e key values).Plays t (result, e')) :
    let waiting := k.waiting e ++ [k.textOf e key values]
    (waiting.length < max 1 (k.threshold e.config) ∧ t = [] ∧ result = .ok .batched ∧
        e' = k.gather e (k.textOf e key values)) ∨
      (max 1 (k.threshold e.config) ≤ waiting.length ∧
        ∃ a, t = e.saidFor k.operation (k.statement e waiting) a ∧
          result = committed (Connector.effectOf a) ∧
          e' = (k.emptied e).answered a (Connector.effectOf a)) := by
  intro waiting
  by_cases room : waiting.length < max 1 (k.threshold e.config)
  · rw [write_of_room gathers room, plays_done_iff] at h
    obtain ⟨rfl, hresult⟩ := h
    obtain ⟨rfl, rfl⟩ := Prod.mk.inj hresult
    exact .inl ⟨room, rfl, rfl, rfl⟩
  · have full := Nat.le_of_not_lt room
    rw [write_of_full gathers settled.fits full] at h
    obtain ⟨first, ⟨sent, after⟩, second, rfl, hflush, hdone⟩ := plays_bind_iff.1 h
    obtain ⟨rfl, hresult⟩ := plays_done_iff.1 hdone
    obtain ⟨rfl, rfl⟩ := Prod.mk.inj hresult
    have idle : (k.gather e (k.textOf e key values)).connector.results = none := by
      rw [connector_gather]
      exact settled.idle
    rcases plays_flush idle hflush with ⟨hnil, -⟩ | ⟨-, a, rfl, rfl, rfl⟩
    · simp at hnil
    · simp only [waiting_gather, statement_gather, saidFor_gather, emptied_gather,
        List.append_nil]
      exact .inr ⟨full, a, rfl, rfl, rfl⟩

/-- A write that does not go to the feed keeps the session as it is between two calls. -/
theorem session_write (gathers : k = .insert → e.feed = none) (settled : e.Settled) {key : String}
    {values : FieldValues} {result : Except Error Outcome}
    (h : (k.write e key values).Plays t (result, e')) : e'.Settled ∧ Continues e e' := by
  rcases plays_write gathers settled h with ⟨room, -, -, rfl⟩ | ⟨-, a, -, -, rfl⟩
  · exact ⟨settled_gather settled room, k.continues_gather e _⟩
  · exact ⟨(settled_emptied settled k).answered a _, (k.continues_emptied e).trans ⟨rfl, rfl, rfl⟩⟩

/-- A flush keeps the session, and what waits of the other kind. -/
theorem session_flush (idle : e.connector.results = none) {result : Except Error Unit}
    (h : (k.flush e).Plays t (result, e')) :
    Continues e e' ∧ e'.connector.results = none ∧
      ∀ other, other ≠ k → other.waiting e' = other.waiting e := by
  rcases plays_flush idle h with ⟨-, -, -, rfl⟩ | ⟨-, a, -, -, rfl⟩
  · exact ⟨⟨rfl, rfl, rfl⟩, idle, fun _ _ => rfl⟩
  · refine ⟨(k.continues_emptied e).trans ⟨rfl, rfl, rfl⟩, by simp [answered, idle], ?_⟩
    intro other hother
    rw [waiting_answered, waiting_emptied_of_ne hother]

end WriteKind

end Executor

/-! ## The feed -/

namespace FeedWriter

open Dialogue

variable {w w' : FeedWriter} {t : List Said}

/-- A record is written with a line feed behind it, or the writer says why it is not and tries once
to connect again. -/
theorem plays_writeOrReconnect {record : String} {result : Except Error Unit}
    (h : (w.writeOrReconnect record).Plays t (result, w')) :
    let line := record ++ "\n"
    (∃ id, w.connection = some id ∧ t = [⟨.write id line, .ok ()⟩] ∧ result = .ok () ∧ w' = w) ∨
      ∃ reason reply message,
        t = (w.connection.map fun id => ⟨.write id line, .error reason⟩).toList ++
          [⟨.connect w.config.host w.config.port, reply⟩] ∧
        result = .error (.feed message) ∧ w' = { w with connection := reply.toOption } := by
  intro line
  obtain ⟨first, written, second, rfl, hwrite, hrest⟩ := plays_bind_iff.1 h
  -- what is said after a failure does not depend on what failed
  have replaced {message : String} (hfailed : written = .error (.feed message)) :
      ∃ reply, second = [⟨.connect w.config.host w.config.port, reply⟩] ∧
        result = .error (.feed message) ∧ w' = { w with connection := reply.toOption } := by
    subst hfailed
    dsimp only at hrest
    rw [reconnect, perform_bind] at hrest
    obtain ⟨reply, rest, rfl, hdone⟩ := plays_perform_iff.1 hrest
    cases reply <;>
    · obtain ⟨rfl, hresult⟩ := plays_done_iff.1 hdone
      obtain ⟨rfl, rfl⟩ := Prod.mk.inj hresult
      exact ⟨_, rfl, rfl, rfl⟩
  unfold write at hwrite
  split at hwrite
  · rename_i hnone
    obtain ⟨rfl, hwritten⟩ := plays_done_iff.1 hwrite
    obtain ⟨reply, rfl, hresult, hw⟩ := replaced hwritten
    exact .inr ⟨"", reply, _, by rw [hnone]; rfl, hresult, hw⟩
  · rename_i id hsome
    obtain ⟨reply, rest, rfl, hdone⟩ := plays_perform_iff.1 hwrite
    cases reply with
    | ok u =>
        obtain ⟨rfl, rfl⟩ := plays_done_iff.1 hdone
        obtain ⟨rfl, hresult⟩ := plays_done_iff.1 hrest
        obtain ⟨rfl, rfl⟩ := Prod.mk.inj hresult
        exact .inl ⟨id, hsome, rfl, rfl, rfl⟩
    | error reason =>
        obtain ⟨rfl, hwritten⟩ := plays_done_iff.1 hdone
        obtain ⟨reply, rfl, hresult, hw⟩ := replaced hwritten
        exact .inr ⟨reason, reply, _, by rw [hsome]; rfl, hresult, hw⟩

/-- Closing is one call where there is a connection, and nothing else. -/
theorem plays_close {result : Except Error Unit} (h : w.close.Plays t result) :
    (w.connection = none ∧ t = [] ∧ result = .ok ()) ∨
      ∃ id reply, w.connection = some id ∧ t = [⟨.close id, reply⟩] ∧
        (result = .ok () ↔ reply = .ok ()) := by
  unfold close at h
  split at h
  · rename_i hnone
    obtain ⟨rfl, rfl⟩ := plays_done_iff.1 h
    exact .inl ⟨hnone, rfl, rfl⟩
  · rename_i id hsome
    obtain ⟨reply, rest, rfl, hdone⟩ := plays_perform_iff.1 h
    cases reply with
    | error reason =>
        obtain ⟨rfl, rfl⟩ := plays_done_iff.1 hdone
        exact .inr ⟨id, _, hsome, rfl, iff_of_false nofun nofun⟩
    | ok u =>
        obtain ⟨rfl, rfl⟩ := plays_done_iff.1 hdone
        exact .inr ⟨id, _, hsome, rfl, iff_of_true rfl rfl⟩

end FeedWriter

namespace Executor

open Dialogue

variable {e e' : Executor} {t : List Said}

/-- With a feed, an insert writes its record to it, or fails as the feed does. -/
theorem plays_insert_of_feed {writer : FeedWriter} (hfeed : e.feed = some writer) {key : String}
    {values : FieldValues} {result : Except Error Outcome}
    (h : (e.insert key values).Plays t (result, e')) :
    let literal := e.literalOf key values
    let line := literal ++ "\n"
    (∃ id, writer.connection = some id ∧
        t = e.logs .insert literal ++ [⟨.write id line, .ok ()⟩] ∧ result = .ok .committed ∧
        e' = e) ∨
      ∃ reason reply message,
        t = e.logs .insert literal ++
          ((writer.connection.map fun id => ⟨.write id line, .error reason⟩).toList ++
            [⟨.connect writer.config.host writer.config.port, reply⟩]) ∧
        result = .error (.feed message) ∧
        e' = { e with feed := some { writer with connection := reply.toOption } } := by
  intro literal line
  rw [insert_of_feed hfeed, feedInsert, plays_logging_iff] at h
  obtain ⟨rest, rfl, hrest⟩ := h
  obtain ⟨first, ⟨written, after⟩, second, rfl, hwrite, hdone⟩ := plays_bind_iff.1 hrest
  obtain ⟨rfl, hresult⟩ := plays_done_iff.1 hdone
  obtain ⟨rfl, rfl⟩ := Prod.mk.inj hresult
  rw [List.append_nil]
  rcases FeedWriter.plays_writeOrReconnect hwrite with
    ⟨id, hid, rfl, rfl, rfl⟩ | ⟨reason, reply, message, rfl, rfl, rfl⟩
  · exact .inl ⟨id, hid, rfl, rfl, by rw [← hfeed]⟩
  · exact .inr ⟨reason, reply, message, rfl, rfl, rfl⟩

/-! ## Ending -/

/-- Closes the feed, if there is one. -/
def closeFeed (e : Executor) : Dialogue (Except Error Unit) :=
  match e.feed with
  | none => .done (.ok ())
  | some w => w.close

/-- Closing the feed is one call where it is connected, and nothing else. -/
theorem plays_closeFeed {result : Except Error Unit} (h : e.closeFeed.Plays t result) :
    (e.feed.bind FeedWriter.connection = none ∧ t = [] ∧ result = .ok ()) ∨
      ∃ id reply, e.feed.bind FeedWriter.connection = some id ∧ t = [⟨.close id, reply⟩] ∧
        (result = .ok () ↔ reply = .ok ()) := by
  unfold closeFeed at h
  split at h
  · rename_i hnone
    obtain ⟨rfl, rfl⟩ := plays_done_iff.1 h
    exact .inl ⟨by rw [hnone]; rfl, rfl, rfl⟩
  · rename_i w hsome
    rw [hsome]
    exact FeedWriter.plays_close h

theorem both_ok (result : Except Error Unit) : both result (.ok ()) = result := by
  cases result <;> rfl

/-- A shutdown flushes and closes the feed, and fails with the first failure of the two. -/
theorem shutdown_eq (e : Executor) :
    e.shutdown =
      e.flush.bind fun x => x.2.closeFeed.bind fun closed => .done (both x.1 closed) := by
  refine congrArg (Dialogue.bind _) (funext fun ⟨flushed, after⟩ => ?_)
  dsimp only
  rw [closeFeed]
  cases after.feed with
  | none => rw [done_bind, both_ok]
  | some w => rfl

/-- Both results are needed for a success. -/
theorem both_eq_ok_iff {a b : Except Error Unit} :
    both a b = .ok () ↔ a = .ok () ∧ b = .ok () := by
  cases a <;> simp [both]

/-- Where writes of one kind wait at most, a shutdown sends them and closes the feed. -/
theorem plays_shutdown (idle : e.connector.results = none) (k : WriteKind)
    (others : ∀ other, other ≠ k → other.waiting e = []) {result : Except Error Unit}
    (h : e.shutdown.Plays t result) :
    ∃ first second flushed after closed, t = first ++ second ∧
      (k.flush e).Plays first (flushed, after) ∧ e.closeFeed.Plays second closed ∧
      result = both flushed closed := by
  rw [shutdown_eq] at h
  obtain ⟨first, ⟨flushed, after⟩, second, rfl, hflush, hrest⟩ := plays_bind_iff.1 h
  obtain ⟨closing, closed, ended, rfl, hclosed, hended⟩ := plays_bind_iff.1 hrest
  obtain ⟨rfl, hresult⟩ := plays_done_iff.1 hended
  obtain ⟨inserting, ⟨inserts, between⟩, rest, rfl, hinserts, hrest⟩ := plays_bind_iff.1 hflush
  obtain ⟨updating, ⟨updates, last⟩, nothing, rfl, hupdates, hdone⟩ := plays_bind_iff.1 hrest
  obtain ⟨rfl, hboth⟩ := plays_done_iff.1 hdone
  obtain ⟨rfl, rfl⟩ := Prod.mk.inj hboth
  obtain ⟨same, idle', kept⟩ := WriteKind.session_flush (k := .insert) idle hinserts
  obtain ⟨same', -, -⟩ := WriteKind.session_flush (k := .update) idle' hupdates
  have hfeed : after.closeFeed = e.closeFeed := by
    rw [closeFeed, closeFeed, (same.trans same').feed]
  rw [hfeed] at hclosed
  cases k with
  | insert =>
      have hnil : between.updates = [] := (kept .update (by simp)).trans (others .update (by simp))
      rw [flushUpdates_of_nil hnil] at hupdates
      obtain ⟨rfl, hdone⟩ := plays_done_iff.1 hupdates
      obtain ⟨rfl, rfl⟩ := Prod.mk.inj hdone
      rw [both_ok] at hresult
      exact ⟨inserting, closing, inserts, _, closed, by simp, hinserts, hclosed, hresult⟩
  | update =>
      have hnil : e.inserts = [] := others .insert (by simp)
      rw [flushInserts_of_nil hnil] at hinserts
      obtain ⟨rfl, hdone⟩ := plays_done_iff.1 hinserts
      obtain ⟨rfl, rfl⟩ := Prod.mk.inj hdone
      exact ⟨updating, closing, updates, _, closed, by simp, hupdates, hclosed, hresult⟩

/-- Where nothing waits, a shutdown closes the feed and does nothing else. -/
theorem plays_shutdown_of_nothing (idle : e.connector.results = none)
    (nothing : ∀ k : WriteKind, k.waiting e = []) {result : Except Error Unit}
    (h : e.shutdown.Plays t result) : e.closeFeed.Plays t result := by
  obtain ⟨first, second, flushed, after, closed, rfl, hflush, hclose, rfl⟩ :=
    plays_shutdown idle .insert (fun other _ => nothing other) h
  rw [WriteKind.flush_of_nil (nothing .insert)] at hflush
  obtain ⟨rfl, hflushed⟩ := plays_done_iff.1 hflush
  obtain ⟨rfl, -⟩ := Prod.mk.inj hflushed
  exact hclose

/-- Nothing waits in a fresh executor. -/
theorem Fresh.waiting {config : ClientConfig} (fresh : Fresh config e) (k : WriteKind) :
    k.waiting e = [] := by
  cases k with
  | insert => exact fresh.inserts
  | update => exact fresh.updates

end Executor

end SqlppBench
