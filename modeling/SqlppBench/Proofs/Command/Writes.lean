import SqlppBench.Command.Run
import SqlppBench.Proofs.Executor.Transcripts
import SqlppBench.Proofs.Members

/-! # What a command tells about its write

A command that writes one record prints a status before the session ends, and the session may still
have to send the record then. Its result is nevertheless that of the write: the record with the
values that the command was given (`Writes`) goes out exactly once, and the command succeeds exactly
when this was acknowledged and the feed, if there is one, was closed (`TellsOf`).
-/

namespace SqlppBench

namespace Command

open Dialogue Executor

/-- A command writes one record. -/
def isWrite : Command → Bool
  | .insert .. | .update .. | .delete _ => true
  | .schema _ | .read .. | .scan .. | .load _ => false

/-- Each field that was assigned a text, and no other, has the bytes of it; of several texts for one
field the last one counts. -/
def AreAssigned (assignments : List (String × String)) (values : FieldValues) : Prop :=
  ∀ field, values.get? field = (Members.last? field assignments).map Utf8.encode

/-- What a command writes in a session that has just begun: the record of its key and of the values
that it assigns. -/
inductive Writes (e : Executor) : Command → Written → Prop
  | fed {key : String} {assignments : List (String × String)} {values : FieldValues} :
      e.feed.isSome = true → AreAssigned assignments values →
      Writes e (.insert key assignments) (.ofRecord (e.literalOf key values))
  | inserted {key : String} {assignments : List (String × String)} {values : FieldValues} :
      e.feed = none → AreAssigned assignments values →
      Writes e (.insert key assignments) (.statement (e.insertion [e.literalOf key values]))
  | updated {key : String} {assignments : List (String × String)} {values : FieldValues} :
      AreAssigned assignments values →
      Writes e (.update key assignments)
        (.statement (e.target.upsertProjections [e.projectionOf key values]))
  | deleted {key : String} : Writes e (.delete key) (.statement (e.target.delete key))

/-- What a command is given is what it assigns. -/
theorem areAssigned_fieldValues (assignments : List (String × String)) :
    AreAssigned assignments (fieldValues assignments) := by
  intro field
  induction assignments using List.reverseRecOn with
  | nil => rfl
  | append_singleton assignments a ih =>
      have hlast : fieldValues (assignments ++ [a]) =
          (fieldValues assignments).insert a.1 (Utf8.encode a.2) := by
        simp [fieldValues, FieldValues.ofList]
      rw [hlast, FieldValues.get?_insert, Members.last?_concat, ih]
      split <;> rfl

/-- What a command tells about its write, which is one call among those before and after it. Nothing
else goes out. The command succeeds exactly when the write was acknowledged and the feed, if there
is one, was closed. If the status was printed before the write, it says no more than that the write
waits; otherwise it says how the write ended. -/
structure TellsOf (written : Written) (hasFeed : Bool) (before : List Said) (x : Said)
    (after : List Said) (result : Except Error Unit) : Prop where
  written : x.written? = some written
  once : writtenIn (before ++ after) = []
  succeeds_iff : result = .ok () ↔ x.IsAcknowledged ∧ (hasFeed = true → ClosesFeed after)
  printed : (printedIn before = [Status.batchedOk.label] ∧ printedIn after = []) ∨
    (printedIn before = [] ∧
      ((printedIn after = [Status.ok.label] ∧ x.IsAcknowledged) ∨
        (printedIn after = [Status.error.label] ∧ ¬ x.IsAcknowledged)))

/-! ## The end of the session -/

/-- How the end of a session goes, once nothing waits: it writes and prints nothing, and it succeeds
exactly when the feed, if there is one, was closed. -/
structure Ends (hasFeed : Bool) (t : List Said) (closed : Except Error Unit) : Prop where
  writes : writtenIn t = []
  prints : printedIn t = []
  succeeds_iff : closed = .ok () ↔ (hasFeed = true → ClosesFeed t)

variable {e : Executor} {t : List Said}

/-- A feed that is connected is closed by one call, which may fail. -/
theorem ends_of_plays {closed : Except Error Unit} (h : e.closeFeed.Plays t closed) :
    Ends (e.feed.bind FeedWriter.connection).isSome t closed := by
  rcases plays_closeFeed h with ⟨hnone, rfl, rfl⟩ | ⟨id, reply, hsome, rfl, succeeds⟩
  · rw [hnone]
    exact ⟨rfl, rfl, iff_of_true rfl nofun⟩
  · rw [hsome]
    refine ⟨rfl, rfl, succeeds.trans ?_⟩
    constructor
    · rintro rfl _
      exact ⟨id, List.mem_singleton_self _⟩
    · intro closes
      obtain ⟨id', hmem⟩ := closes rfl
      obtain ⟨hid, hreply⟩ := Said.mk.inj (List.mem_singleton.1 hmem)
      obtain rfl := Call.close.inj hid
      exact (eq_of_heq hreply).symm

/-! ## The two ways of a write -/

/-- What a command gives when the session was closed: the failure of its write counts before that of
the end. -/
def afterShutdown (write : Except Error Outcome) (closed : Except Error Unit) : Except Error Unit :=
  match write with
  | .error fault => .error fault
  | .ok _ => closed

theorem plays_finishWrite {write : Except Error Outcome} {result : Except Error Unit}
    (h : (finishWrite (write, e)).Plays t result) :
    ∃ rest closed, t = ⟨.print (Status.ofWrite write).label, ()⟩ :: rest ∧
      e.shutdown.Plays rest closed ∧ result = afterShutdown write closed := by
  obtain ⟨first, u, second, rfl, hprint, hrest⟩ := plays_bind_iff.1 h
  obtain ⟨⟨⟩, nothing, rfl, hnothing⟩ := plays_perform_iff.1 hprint
  obtain ⟨rfl, -⟩ := plays_done_iff.1 hnothing
  obtain ⟨rest, closed, third, rfl, hshutdown, hdone⟩ := plays_bind_iff.1 hrest
  obtain ⟨rfl, rfl⟩ := plays_done_iff.1 hdone
  exact ⟨rest, closed, by simp, hshutdown, rfl⟩

theorem run_finishWrite (write : Except Error Outcome) (e : Executor) (w : World) :
    ((finishWrite (write, e)).run w).1 =
      afterShutdown write
        (e.shutdown.run
          { w with printed := w.printed ++ [(Status.ofWrite write).label] }).1 := by
  simp only [finishWrite, run_bind, run_done]
  rfl

variable {hasFeed : Bool} {x : Said} {closed : Except Error Unit} {written : Written}

/-- A record that is written by the call itself. -/
theorem TellsOf.of_call {before silent : List Said} {write : Except Error Outcome}
    (hwritten : x.written? = some written)
    (told : (x.IsAcknowledged ∧ write = .ok .committed) ∨
      (¬ x.IsAcknowledged ∧ ∃ fault, write = .error fault))
    (writes : writtenIn before = []) (prints : printedIn before = [])
    (isSilent : ∀ y ∈ silent, ∃ host port reply, y = ⟨.connect host port, reply⟩)
    (ends : Ends hasFeed t closed) :
    TellsOf written hasFeed before x
      (silent ++ ⟨.print (Status.ofWrite write).label, ()⟩ :: t) (afterShutdown write closed) := by
  have silentWrites : writtenIn silent = [] := by
    rw [writtenIn, List.filterMap_eq_nil_iff]
    intro y hy
    obtain ⟨host, port, reply, rfl⟩ := isSilent y hy
    rfl
  have silentPrints : printedIn silent = [] := by
    rw [printedIn, List.filterMap_eq_nil_iff]
    intro y hy
    obtain ⟨host, port, reply, rfl⟩ := isSilent y hy
    rfl
  have closes : ClosesFeed (silent ++ ⟨.print (Status.ofWrite write).label, ()⟩ :: t) ↔
      ClosesFeed t := by
    constructor
    · rintro ⟨id, hid⟩
      rcases List.mem_append.1 hid with hid | hid
      · obtain ⟨host, port, reply, hcall⟩ := isSilent _ hid
        cases hcall
      · rcases List.mem_cons.1 hid with hid | hid
        · cases hid
        · exact ⟨id, hid⟩
    · rintro ⟨id, hid⟩
      exact ⟨id, List.mem_append_right _ (List.mem_cons_of_mem _ hid)⟩
  have printed : printedIn (silent ++ ⟨.print (Status.ofWrite write).label, ()⟩ :: t) =
      [(Status.ofWrite write).label] := by
    rw [printedIn_append, silentPrints]
    exact congrArg (_ :: ·) ends.prints
  refine ⟨hwritten, ?_, ?_, .inr ⟨prints, ?_⟩⟩
  · rw [writtenIn_append, writtenIn_append, writes, silentWrites]
    exact ends.writes
  · rw [closes, ← ends.succeeds_iff]
    rcases told with ⟨acknowledged, rfl⟩ | ⟨lost, fault, rfl⟩
    · exact ⟨fun h => ⟨acknowledged, h⟩, fun h => h.2⟩
    · exact iff_of_false nofun fun h => lost h.1
  · rw [printed]
    exact told.imp (fun ⟨acknowledged, h⟩ => ⟨by rw [h]; rfl, acknowledged⟩)
      (fun ⟨lost, _, h⟩ => ⟨by rw [h]; rfl, lost⟩)

/-- Without an acknowledgement, the end of the feed does not matter. -/
theorem TellsOf.of_lost {before after : List Said} {result : Except Error Unit}
    (h : TellsOf written hasFeed before x after result) (lost : ¬ x.IsAcknowledged) (other : Bool) :
    TellsOf written other before x after result := by
  refine ⟨h.written, h.once, iff_of_false ?_ fun hsucceeds => lost hsucceeds.1, h.printed⟩
  rw [h.succeeds_iff]
  exact fun hsucceeds => lost hsucceeds.1

/-- A record that waits until the session ends. -/
theorem TellsOf.of_shutdown {logged : List Said} {flushed : Except Error Unit}
    (hwritten : x.written? = some written) (told : flushed = .ok () ↔ x.IsAcknowledged)
    (writes : writtenIn logged = []) (prints : printedIn logged = [])
    (ends : Ends hasFeed t closed) :
    TellsOf written hasFeed (⟨.print Status.batchedOk.label, ()⟩ :: logged) x t
      (afterShutdown (.ok .batched) (both flushed closed)) := by
  refine ⟨hwritten, ?_, ?_, .inl ⟨?_, ends.prints⟩⟩
  · rw [writtenIn_append, ends.writes, List.append_nil]
    exact writes
  · rw [← told, ← ends.succeeds_iff]
    exact both_eq_ok_iff
  · exact congrArg (_ :: ·) prints

/-! ## Commands -/

/-- What an answer says about a write, and what the call gives that sent it. -/
theorem told_of_answer (r : Http.Request) (a : Http.Answer) :
    ((⟨.request r, a⟩ : Said).IsAcknowledged ∧
        committed (Connector.effectOf a) = .ok .committed) ∨
      (¬ (⟨.request r, a⟩ : Said).IsAcknowledged ∧
        ∃ fault, committed (Connector.effectOf a) = .error fault) := by
  have acknowledged := Exchange.effectOf_eq_ok_iff ⟨r, a⟩
  cases heffect : Connector.effectOf a with
  | ok u => exact .inl ⟨acknowledged.1 heffect, rfl⟩
  | error fault =>
      rw [heffect] at acknowledged
      refine .inr ⟨fun h => ?_, fault, rfl⟩
      cases acknowledged.2 h

variable {config : ClientConfig} {result : Except Error Unit} {key : String} {values : FieldValues}

/-- A write for a statement goes out with the call, or when the session ends. -/
theorem tellsOf_write (fresh : Fresh config e) (k : WriteKind)
    (gathers : k = .insert → e.feed = none)
    (connected : e.feed.isSome = (e.feed.bind FeedWriter.connection).isSome)
    (h : ((k.write e key values).bind finishWrite).Plays t result) :
    ∃ before x after, t = before ++ x :: after ∧
      TellsOf (.statement (k.statement e [k.textOf e key values])) e.feed.isSome before x after
        result := by
  obtain ⟨first, ⟨write, e₁⟩, second, rfl, hwrite, hfinish⟩ := plays_bind_iff.1 h
  obtain ⟨rest, closed, rfl, hshutdown, rfl⟩ := plays_finishWrite hfinish
  obtain ⟨settled, same⟩ := k.session_write gathers fresh.settled hwrite
  rw [connected, ← same.feed]
  let statement := k.statement e [k.textOf e key values]
  let request := e.connector.requestOf statement
  rcases k.plays_write gathers fresh.settled hwrite with
    ⟨-, rfl, rfl, rfl⟩ | ⟨-, a, rfl, rfl, rfl⟩
  · have others (other : WriteKind) (hother : other ≠ k) :
        other.waiting (k.gather e (k.textOf e key values)) = [] := by
      rw [WriteKind.waiting_gather_of_ne hother, fresh.waiting]
    obtain ⟨flushing, closing, flushed, last, closed, rfl, hflush, hclose, rfl⟩ :=
      plays_shutdown settled.idle k others hshutdown
    rcases k.plays_flush settled.idle hflush with ⟨hnil, -⟩ | ⟨-, a, rfl, rfl, -⟩
    · simp at hnil
    · simp only [WriteKind.waiting_gather, WriteKind.statement_gather, WriteKind.saidFor_gather,
        fresh.waiting, List.nil_append]
      refine ⟨⟨.print Status.batchedOk.label, ()⟩ :: e.logs k.operation statement,
        ⟨.request request, a⟩, closing, ?_,
        .of_shutdown rfl (Exchange.effectOf_eq_ok_iff ⟨request, a⟩) (writtenIn_logs ..)
          (printedIn_logs ..) (ends_of_plays hclose)⟩
      simp [saidFor, Status.ofWrite, statement, request]
  · have nothing (other : WriteKind) : other.waiting ((k.emptied e).answered a
        (Connector.effectOf a)) = [] := by
      rw [WriteKind.waiting_answered]
      by_cases hother : other = k
      · rw [hother, WriteKind.waiting_emptied]
      · rw [WriteKind.waiting_emptied_of_ne hother, fresh.waiting]
    have hclose := plays_shutdown_of_nothing settled.idle nothing hshutdown
    rw [fresh.waiting, List.nil_append]
    refine ⟨e.logs k.operation statement, ⟨.request request, a⟩, [] ++ _, ?_,
      .of_call rfl (told_of_answer request a) (writtenIn_logs ..) (printedIn_logs ..)
        (List.forall_mem_nil _) (ends_of_plays hclose)⟩
    simp [saidFor, statement, request]

/-- A removal goes out with the call. -/
theorem tellsOf_delete (fresh : Fresh config e)
    (connected : e.feed.isSome = (e.feed.bind FeedWriter.connection).isSome)
    (h : ((e.delete key).bind fun (r, e) => finishWrite (committed r, e)).Plays t result) :
    ∃ before x after, t = before ++ x :: after ∧
      TellsOf (.statement (e.target.delete key)) e.feed.isSome before x after result := by
  obtain ⟨first, ⟨removed, e₁⟩, second, rfl, hdelete, hfinish⟩ := plays_bind_iff.1 h
  obtain ⟨rest, closed, rfl, hshutdown, rfl⟩ := plays_finishWrite hfinish
  obtain ⟨a, rfl, rfl, rfl⟩ := plays_execute fresh.idle hdelete
  rw [connected]
  have settled := fresh.settled.answered a (Connector.effectOf a)
  have nothing (k : WriteKind) : k.waiting (e.answered a (Connector.effectOf a)) = [] := by
    rw [WriteKind.waiting_answered, fresh.waiting]
  have hclose := plays_shutdown_of_nothing settled.idle nothing hshutdown
  let request := e.connector.requestOf (e.target.delete key)
  refine ⟨e.logs .delete (e.target.delete key), ⟨.request request, a⟩, [] ++ _, ?_,
    .of_call rfl (told_of_answer request a) (writtenIn_logs ..) (printedIn_logs ..)
      (List.forall_mem_nil _) (ends_of_plays hclose)⟩
  simp [saidFor, request]

/-- A record for the feed goes out with the call. -/
theorem tellsOf_feed (fresh : Fresh config e) {f : FeedConfig} {id : ConnectionId}
    (hfeed : e.feed = some ⟨f, some id⟩)
    (h : ((e.insert key values).bind finishWrite).Plays t result) :
    ∃ before x after, t = before ++ x :: after ∧
      TellsOf (.ofRecord (e.literalOf key values)) true before x after result := by
  obtain ⟨first, ⟨write, e₁⟩, second, rfl, hwrite, hfinish⟩ := plays_bind_iff.1 h
  obtain ⟨rest, closed, rfl, hshutdown, rfl⟩ := plays_finishWrite hfinish
  have endsWith (feed : Option FeedWriter) {ending : List Said}
      (hend : ({ e with feed } : Executor).shutdown.Plays ending closed) :
      ({ e with feed } : Executor).closeFeed.Plays ending closed := by
    refine plays_shutdown_of_nothing (e := { e with feed }) fresh.idle (fun k => ?_) hend
    cases k with
    | insert => exact fresh.inserts
    | update => exact fresh.updates
  let literal := e.literalOf key values
  let line := literal ++ "\n"
  rcases plays_insert_of_feed hfeed hwrite with
    ⟨id', hid, rfl, rfl, rfl⟩ | ⟨reason, reply, message, rfl, rfl, rfl⟩
  · have ends := ends_of_plays (endsWith e₁.feed hshutdown)
    rw [hfeed] at ends
    refine ⟨e₁.logs .insert literal, ⟨.write id' line, .ok ()⟩, [] ++ _, ?_,
      .of_call rfl (.inl ⟨rfl, rfl⟩) (writtenIn_logs ..) (printedIn_logs ..)
        (List.forall_mem_nil _) ends⟩
    simp [literal, line]
  · have lost : ¬ (⟨.write id line, .error reason⟩ : Said).IsAcknowledged := nofun
    have isSilent : ∀ y ∈ [(⟨.connect f.host f.port, reply⟩ : Said)],
        ∃ host port reply, y = ⟨.connect host port, reply⟩ :=
      List.forall_mem_singleton.2 ⟨_, _, _, rfl⟩
    refine ⟨e.logs .insert literal, ⟨.write id line, .error reason⟩,
      [⟨.connect f.host f.port, reply⟩] ++ _, ?_,
      (TellsOf.of_call rfl (.inr ⟨lost, _, rfl⟩) (writtenIn_logs ..) (printedIn_logs ..) isSilent
        (ends_of_plays (endsWith _ hshutdown))).of_lost lost true⟩
    simp [literal, line]

/-- A command whose session has connected goes on with its executor. -/
theorem plays_session [Url.Idna] {α : Type} {d : Executor → Dialogue (Except Error α)}
    {opening said : List Said} {result : Except Error α}
    (connected : (connect config).Plays opening (.ok e))
    (h : (session config d).Plays (opening ++ said) result) : (d e).Plays said result := by
  obtain ⟨first, answer, second, same, hconnect, hrest⟩ := plays_bind_iff.1 h
  obtain ⟨rfl, rfl, rfl⟩ := connected.unique hconnect same
  exact hrest

/-- The result of a command tells whether its write happened. Whatever the service and the feed
reply once the command has connected, its record goes out in exactly one write, whatever the
thresholds are, with the key and the values that the command was given. The command succeeds exactly
when this write was acknowledged and the feed, if there is one, was closed; the status that is
printed before the end promises no more than that. -/
theorem write_commands_tell_whether_they_wrote [Url.Idna] {opening said : List Said}
    (connected : (connect config).Plays opening (.ok e)) (c : Command) (payload : Payload)
    (elapsedMs : Nat) (turns : List Nat)
    (plays : (c.run config payload elapsedMs turns).Plays (opening ++ said) result)
    (writes : c.isWrite = true) :
    ∃ written, c.Writes e written ∧ ∃ before x after, said = before ++ x :: after ∧
      TellsOf written config.feed.isSome before x after result := by
  obtain ⟨fresh, key, fields, a, a', feeds, -, feed⟩ := fresh_of_plays connected
  have hconnected : e.feed.isSome = (e.feed.bind FeedWriter.connection).isSome := by
    rcases feed with ⟨hnone, -⟩ | ⟨f, id, -, -, hfeed⟩
    · rw [fresh.noFeed hnone]
      rfl
    · rw [hfeed]
      rfl
  rw [← fresh.feed]
  cases c with
  | schema json => cases writes
  | read key fields => cases writes
  | scan start count fields => cases writes
  | load l => cases writes
  | insert key assignments =>
      rw [run] at plays
      have hinsert := plays_session connected plays
      have assigned := areAssigned_fieldValues assignments
      rcases feed with ⟨hnone, -⟩ | ⟨f, id, -, -, hfeed⟩
      · have noFeed := fresh.noFeed hnone
        exact ⟨_, .inserted noFeed assigned,
          tellsOf_write fresh .insert (fun _ => noFeed) hconnected hinsert⟩
      · have hasFeed : e.feed.isSome = true := by rw [hfeed, Option.isSome_some]
        rw [hasFeed]
        exact ⟨_, .fed hasFeed assigned, tellsOf_feed fresh hfeed hinsert⟩
  | update key assignments =>
      rw [run] at plays
      have hupdate := plays_session connected plays
      exact ⟨_, .updated (areAssigned_fieldValues assignments),
        tellsOf_write fresh .update nofun hconnected hupdate⟩
  | delete key =>
      rw [run] at plays
      have hdelete := plays_session connected plays
      exact ⟨_, .deleted, tellsOf_delete fresh hconnected hdelete⟩

/-- In a world that lets a command connect, its session goes on from there. -/
theorem session_of_connect [Url.Idna] {α : Type} {w₀ w : World}
    (connected : (connect config).run w₀ = (.ok e, w))
    (d : Executor → Dialogue (Except Error α)) :
    (session config d).said w₀ = (connect config).said w₀ ++ (d e).said w ∧
      (session config d).run w₀ = (d e).run w := by
  rw [session, said_bind, run_bind, connected]
  exact ⟨rfl, rfl⟩

/-- An insert that is told to wait fails when the statement is refused that the session sends for it
at its end. The last text for its field is in that statement. -/
theorem waiting_insert_fails_with_the_session :
    ∃ e opening said result,
      let config : ClientConfig := { url := "http://[::1]", batchInserts := 2 }
      let c : Command := .insert "a" [("f", "x"), ("f", "v")]
      let statement := "USE ycsb;INSERT INTO usertable ([\x7b\"id\":\"a\",\"f\":hex(\"76\")\x7d]);"
      (connect config).Plays opening (.ok e) ∧
        (c.run config (fun _ _ => []) 0 []).Plays (opening ++ said) result ∧
        (∃ rest, said = ⟨.print "BATCHED_OK", ()⟩ :: rest) ∧ result ≠ .ok () ∧
        ∃ before x after, said = before ++ x :: after ∧
          TellsOf (.statement statement) false before x after result := by
  let config : ClientConfig := { url := "http://[::1]", batchInserts := 2 }
  let c : Command := .insert "a" [("f", "x"), ("f", "v")]
  let values := fieldValues [("f", "x"), ("f", "v")]
  let refusal : Http.Answer := .response 500 ⟨[], none⟩
  let w₀ := World.scripted (catalogAnswers ++ [refusal])
  obtain ⟨e, w, connected, hschema, answers⟩ := @connect_of_catalogAnswers _ config rfl
    (by decide +kernel) rfl [refusal]
  have fresh := fresh_of_connect connected
  have noFeed : e.feed = none := fresh.noFeed rfl
  have room : (e.inserts ++ [e.literalOf "a" values]).length < max 1 e.config.batchInserts := by
    rw [fresh.inserts, fresh.configured]
    exact Nat.lt_succ_self 1
  let gathered : Executor := { e with inserts := e.inserts ++ [e.literalOf "a" values] }
  have waits : (e.insert "a" values).bind finishWrite = finishWrite (.ok .batched, gathered) := by
    rw [insert_of_room noFeed room, done_bind]
  have refused : ((finishWrite (.ok .batched, gathered)).run w).1 ≠ .ok () := by
    have hne : gathered.inserts ≠ [] := by simp [gathered]
    rw [run_finishWrite, run_shutdown_of_no_feed (e := gathered) fresh.idle noFeed, run_flush,
      flushInserts_of_ne_nil hne, run_execute (e := { gathered with inserts := [] }) fresh.idle]
    intro succeeds
    have inserted := (both_eq_ok_iff.1 succeeds).1
    change Connector.effectOf (w.answer _) = .ok () at inserted
    rw [answers] at inserted
    cases inserted
  obtain ⟨hsaid, hrun⟩ := session_of_connect connected
    fun e => (e.insert "a" values).bind finishWrite
  rw [waits] at hsaid hrun
  have hconnect := (connect config).plays_said w₀
  have hplays := (c.run config (fun _ _ => []) 0 []).plays_said w₀
  rw [connected] at hconnect
  rw [run, hsaid, hrun] at hplays
  refine ⟨e, _, _, _, hconnect, hplays, ⟨_, rfl⟩, refused, ?_⟩
  obtain ⟨written, writes, tells⟩ :=
    write_commands_tell_whether_they_wrote hconnect c (fun _ _ => []) 0 [] hplays rfl
  change (Command.insert "a" [("f", "x"), ("f", "v")]).Writes e written at writes
  cases writes with
  | fed hasFeed assigned =>
      rw [noFeed] at hasFeed
      cases hasFeed
  | @inserted _ _ given _ assigned =>
      have hvalue : given.get? "f" = some (Utf8.encode "v") := assigned "f"
      have htext : e.insertion [e.literalOf "a" given] =
          "USE ycsb;INSERT INTO usertable ([\x7b\"id\":\"a\",\"f\":hex(\"76\")\x7d]);" := by
        simp only [insertion, literalOf, target, fresh.configured, hschema,
          Sqlpp.Target.recordLiteral, List.filterMap_cons, List.filterMap_nil, hvalue,
          Option.map_some]
        decide +kernel
      rwa [htext] at tells

end Command

end SqlppBench
