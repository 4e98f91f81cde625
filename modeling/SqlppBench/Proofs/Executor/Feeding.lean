import SqlppBench.Proofs.Executor.Transcripts
import SqlppBench.Proofs.Sqlpp.Constructors

/-! # What arrives at a feed

A session with a feed writes each record to it at once, while the feed may reset its connections,
go away and come back. The writer holds the newest connection of the feed, or none at all after an
attempt to connect again has failed (`HoldsNewest`), so a line that is taken stands behind all lines
before it. A record arrives exactly if its insert is committed, and it is never written again.
-/

namespace SqlppBench

/-! ## The feed of a world -/

/-- All lines of a connection are ended. -/
def FeedConnection.IsAtLineStart (c : FeedConnection) : Prop :=
  c.text = "" ∨ ∃ s, c.text = s ++ "\n"

/-- The connection when another text has arrived. -/
def FeedConnection.receive (c : FeedConnection) (text : String) : FeedConnection :=
  { c with text := c.text ++ text }

/-- A record with a line feed behind it is a line of its own. -/
theorem FeedConnection.lines_receive {c : FeedConnection} (h : c.IsAtLineStart) {record : String}
    (noLineFeed : '\n' ∉ record.toList) :
    (c.receive (record ++ "\n")).lines = c.lines ++ [record] := by
  have hrecord : ∀ a ∈ record.toList, (a == '\n') = false :=
    fun a ha => beq_false_of_ne (ne_of_mem_of_not_mem ha noLineFeed)
  have hline : Text.piecesBy (· == '\n') (record.toList ++ ['\n']) = [record.toList, []] :=
    Text.piecesBy_append_cons hrecord rfl []
  rcases h with hempty | ⟨s, hended⟩
  · simp [lines, receive, hempty, hline, Text.piecesBy]
  · have hlast : Text.piecesBy (· == '\n') (s.toList ++ ['\n']) =
        Text.piecesBy (· == '\n') s.toList ++ [[]] := Text.piecesBy_append_mark rfl s.toList []
    have hboth : Text.piecesBy (· == '\n') (s.toList ++ '\n' :: (record.toList ++ ['\n'])) =
        (Text.piecesBy (· == '\n') s.toList ++ [record.toList]) ++ [[]] := by
      rw [Text.piecesBy_append_mark rfl, hline, List.append_assoc]
      rfl
    simp [lines, receive, hended, hlast, hboth]

namespace World

variable {w w' : World} {earlier : List FeedConnection} {c : FeedConnection} {t : List Said}

/-- A text that is written to the newest connection arrives if this is live, and is lost if not. -/
theorem handle_write_newest (newest : w.feed = earlier ++ [c]) (text : String) :
    handle (.write earlier.length text) w =
      if c.isLive then (.ok (), { w with feed := earlier ++ [c.receive text] })
      else (.error reset, w) := by
  simp [handle, newest, FeedConnection.receive]

/-- A connection that is opened becomes the newest. -/
theorem handle_connect_of_ok {host : String} {port : Nat} {id : ConnectionId}
    (h : (handle (.connect host port) w).1 = .ok id) :
    id = w.feed.length ∧ (handle (.connect host port) w).2.feed = w.feed ++ [⟨true, ""⟩] := by
  simp only [handle] at h ⊢
  by_cases accepts : w.feedAccepts = true
  · rw [if_pos accepts] at h ⊢
    exact ⟨(Except.ok.inj h).symm, rfl⟩
  · rw [if_neg accepts] at h
    cases h

/-- What has nothing to do with the feed leaves it alone. -/
theorem Gives.feed (h : w.Gives t w') (others : ∀ x ∈ t, x.isForFeed = false) :
    w'.feed = w.feed := by
  induction h with
  | nil w => rfl
  | @cons w w' call rest _ ih =>
      have hfirst := others _ (List.mem_cons_self ..)
      rw [ih fun x hx => others x (List.mem_cons_of_mem _ hx)]
      cases call <;> first | rfl | cases hfirst

/-- All bytes that the feed received, in the order of its connections. -/
def arrived (w : World) : Bytes :=
  w.feed.flatMap fun c => Utf8.encode c.text

/-- The feed receives some records, each on a line of its own, and nothing else. -/
structure Receives (w : World) (records : List String) (w' : World) : Prop where
  lines : w'.received = w.received ++ records
  bytes : w'.arrived = w.arrived ++ Sqlpp.lineStream records

theorem receives_nil_of_feed (same : w'.feed = w.feed) : w.Receives [] w' := by
  constructor <;> simp [received, arrived, same, Sqlpp.lineStream]

/-- Nothing has arrived over a new connection. -/
theorem receives_nil_of_opened (opened : w'.feed = w.feed ++ [⟨true, ""⟩]) : w.Receives [] w' := by
  constructor <;> simp [received, arrived, opened, Sqlpp.lineStream, FeedConnection.lines,
    Text.piecesBy, Utf8.encode, Utf8.encodeChars]

/-- A record arrives over the newest connection. -/
theorem receives_line {record : String} (newest : w.feed = earlier ++ [c])
    (start : c.IsAtLineStart) (noLineFeed : '\n' ∉ record.toList)
    (taken : w'.feed = earlier ++ [c.receive (record ++ "\n")]) : w.Receives [record] w' := by
  constructor
  · simp [received, newest, taken, FeedConnection.lines_receive start noLineFeed]
  · simp [arrived, newest, taken, FeedConnection.receive, Sqlpp.lineStream, Utf8.encode]

theorem Receives.trans {w'' : World} {records later : List String} (h : w.Receives records w')
    (h' : w'.Receives later w'') : w.Receives (records ++ later) w'' where
  lines := by rw [h'.lines, h.lines, List.append_assoc]
  bytes := by rw [h'.bytes, h.bytes, Sqlpp.lineStream_append, List.append_assoc]

end World

/-! ## Writers -/

namespace FeedWriter

/-- The connection of the writer, if there is one, is the newest of the feed, and all lines that
arrived over it are ended. -/
def HoldsNewest (writer : FeedWriter) (feed : List FeedConnection) : Prop :=
  ∀ id, writer.connection = some id →
    ∃ earlier c, feed = earlier ++ [c] ∧ id = earlier.length ∧ c.IsAtLineStart

/-- The connection of the writer is the newest of the feed, and it is live. -/
def IsOpen (writer : FeedWriter) (feed : List FeedConnection) : Prop :=
  ∃ earlier c, feed = earlier ++ [c] ∧ writer.connection = some earlier.length ∧ c.isLive = true

end FeedWriter

/-- An attempt to connect to a feed. -/
structure Attempt where
  host : String
  port : Nat
  reply : Except String ConnectionId

/-- The attempt to connect, if a call is one. -/
def Said.attempt? : Said → Option Attempt
  | ⟨.connect host port, reply⟩ => some ⟨host, port, reply⟩
  | ⟨.request _, _⟩ | ⟨.write .., _⟩ | ⟨.close _, _⟩ | ⟨.log .., _⟩ | ⟨.print _, _⟩ => none

/-- The attempts to connect in a transcript. -/
def attemptsIn (t : List Said) : List Attempt :=
  t.filterMap Said.attempt?

theorem attemptsIn_append (t t' : List Said) :
    attemptsIn (t ++ t') = attemptsIn t ++ attemptsIn t' :=
  List.filterMap_append

namespace Executor

open Dialogue

variable {e e' : Executor} {w w' : World} {t : List Said} {writer : FeedWriter}

/-- What the session writes next will arrive. -/
def HasOpenFeed (e : Executor) (w : World) : Prop :=
  ∃ writer, e.feed = some writer ∧ writer.IsOpen w.feed

/-! ## Inserts -/

/-- A record fits on one line. -/
theorem hasNoControl_literalOf (e : Executor) (key : String) (values : FieldValues) :
    Sqlpp.HasNoControl (e.literalOf key values) := by
  rw [literalOf, Sqlpp.Target.recordLiteral_eq_objectText _ _ (key, values)]
  exact Sqlpp.Constructor.hasNoControl_objectText _

/-- How an insert goes at a feed whose newest connection is the writer's. Over a live connection
the record arrives. Otherwise nothing arrives, and there is one attempt to connect. -/
inductive FedTo (writer : FeedWriter) (literal : String) (e : Executor) (w : World)
    (t : List Said) : Except Error Outcome → Executor → World → Prop
  | arrived {w' : World} (earlier : List FeedConnection) (c : FeedConnection) :
      w.feed = earlier ++ [c] → writer.connection = some earlier.length → c.isLive = true →
      c.IsAtLineStart → attemptsIn t = [] → w'.feed = earlier ++ [c.receive (literal ++ "\n")] →
      FedTo writer literal e w t (.ok .committed) e w'
  | reconnected {w' : World} (message : String) :
      ¬ writer.IsOpen w.feed →
      attemptsIn t = [⟨writer.config.host, writer.config.port, .ok w.feed.length⟩] →
      w'.feed = w.feed ++ [⟨true, ""⟩] →
      FedTo writer literal e w t (.error (.feed message))
        { e with feed := some ⟨writer.config, some w.feed.length⟩ } w'
  | lost {w' : World} (message reason : String) :
      ¬ writer.IsOpen w.feed →
      attemptsIn t = [⟨writer.config.host, writer.config.port, .error reason⟩] →
      w'.feed = w.feed →
      FedTo writer literal e w t (.error (.feed message))
        { e with feed := some ⟨writer.config, none⟩ } w'

@[simp] theorem attemptsIn_logs (e : Executor) (operation : Operation) (text : String) :
    attemptsIn (e.logs operation text) = [] := by
  unfold logs
  split <;> rfl

/-- A write that fails changes nothing, and the writer was not open. -/
theorem not_isOpen_of_gives {text reason : String} (newest : writer.HoldsNewest w.feed)
    (gives :
      w.Gives (writer.connection.map fun id => ⟨.write id text, .error reason⟩).toList w') :
    ¬ writer.IsOpen w.feed ∧ w'.feed = w.feed := by
  cases hid : writer.connection with
  | none =>
      rw [hid] at gives
      obtain rfl := World.gives_nil_iff.1 gives
      refine ⟨?_, rfl⟩
      rintro ⟨earlier, c, -, hsome, -⟩
      rw [hid] at hsome
      cases hsome
  | some id =>
      obtain ⟨earlier, c, hw, rfl, -⟩ := newest id hid
      rw [hid] at gives
      obtain ⟨hreply, hlast⟩ := World.gives_cons_iff.1 gives
      obtain rfl := World.gives_nil_iff.1 hlast
      rw [World.handle_write_newest hw] at hreply ⊢
      cases live : c.isLive with
      | true =>
          rw [live, if_pos rfl] at hreply
          cases hreply
      | false =>
          refine ⟨?_, rfl⟩
          rintro ⟨earlier', c', hw', -, live'⟩
          obtain ⟨-, hc⟩ := List.append_inj' (hw.symm.trans hw') rfl
          rw [← List.singleton_inj.1 hc, live] at live'
          cases live'

/-- An attempt to connect is answered, and the writer goes on with what it gave. -/
theorem fedTo_of_attempt {literal message : String} {between : World}
    {reply : Except String ConnectionId} (dead : ¬ writer.IsOpen w.feed)
    (same : between.feed = w.feed)
    (attempts : attemptsIn t = [⟨writer.config.host, writer.config.port, reply⟩])
    (gives : between.Gives [⟨.connect writer.config.host writer.config.port, reply⟩] w') :
    FedTo writer literal e w t (.error (.feed message))
      { e with feed := some { writer with connection := reply.toOption } } w' := by
  obtain ⟨hreply, hlast⟩ := World.gives_cons_iff.1 gives
  obtain rfl := World.gives_nil_iff.1 hlast
  dsimp only at hreply
  by_cases accepts : between.feedAccepts = true
  · simp only [World.handle, accepts, if_true] at hreply ⊢
    subst hreply
    rw [same] at attempts ⊢
    exact .reconnected message dead attempts rfl
  · simp only [World.handle, accepts] at hreply ⊢
    subst hreply
    exact .lost message _ dead attempts same

/-- An insert goes to the feed, whose newest connection is the writer's. -/
theorem fedTo_of_plays (hfeed : e.feed = some writer) (newest : writer.HoldsNewest w.feed)
    {key : String} {values : FieldValues} {result : Except Error Outcome}
    (plays : (e.insert key values).Plays t (result, e')) (gives : w.Gives t w') :
    FedTo writer (e.literalOf key values) e w t result e' w' := by
  rcases plays_insert_of_feed hfeed plays with
    ⟨id, hid, rfl, rfl, rfl⟩ | ⟨reason, reply, message, rfl, rfl, rfl⟩
  · obtain ⟨w₁, logged, written⟩ := World.gives_append_iff.1 gives
    obtain ⟨hreply, hlast⟩ := World.gives_cons_iff.1 written
    obtain rfl := World.gives_nil_iff.1 hlast
    have hlogged := logged.feed fun _ => isForFeed_logs
    obtain ⟨earlier, c, hw, rfl, start⟩ := newest id hid
    rw [World.handle_write_newest (hlogged.trans hw)] at hreply ⊢
    by_cases live : c.isLive = true
    · rw [if_pos live]
      refine .arrived earlier c hw hid live start ?_ rfl
      rw [attemptsIn_append, attemptsIn_logs]
      rfl
    · rw [if_neg live] at hreply
      cases hreply
  · obtain ⟨w₁, logged, rest⟩ := World.gives_append_iff.1 gives
    obtain ⟨w₂, failed, attempted⟩ := World.gives_append_iff.1 rest
    have hlogged := logged.feed fun _ => isForFeed_logs
    rw [← hlogged] at newest
    obtain ⟨dead, same⟩ := not_isOpen_of_gives newest failed
    rw [hlogged] at dead same
    refine fedTo_of_attempt dead same ?_ attempted
    rw [attemptsIn_append, attemptsIn_append, attemptsIn_logs]
    cases writer.connection <;> rfl

/-- The executor goes on as it was, with a writer that holds the newest connection. -/
theorem FedTo.continues {literal : String} {result : Except Error Outcome}
    (h : FedTo writer literal e w t result e' w') (hfeed : e.feed = some writer) :
    ∃ connection, e' = { e with feed := some ⟨writer.config, connection⟩ } ∧
      FeedWriter.HoldsNewest ⟨writer.config, connection⟩ w'.feed := by
  cases h with
  | arrived earlier c hw hid live start attempts hw' =>
      refine ⟨writer.connection, by rw [← hfeed], ?_⟩
      intro id hsome
      obtain rfl := Option.some.inj (hid.symm.trans hsome)
      exact ⟨earlier, _, hw', rfl, .inr ⟨_, (String.append_assoc ..).symm⟩⟩
  | reconnected message dead attempts hw' =>
      refine ⟨_, rfl, ?_⟩
      rintro id ⟨⟩
      exact ⟨w.feed, _, hw', rfl, .inl rfl⟩
  | lost message reason dead attempts hw' => exact ⟨_, rfl, nofun⟩

/-- The record has arrived behind all others, or nothing has. -/
theorem FedTo.receives {literal : String} {result : Except Error Outcome}
    (h : FedTo writer literal e w t result e' w') (noLineFeed : '\n' ∉ literal.toList) :
    (result = .ok .committed ∧ w.Receives [literal] w') ∨
      ((∃ message, result = .error (.feed message)) ∧ w.Receives [] w') := by
  cases h with
  | arrived earlier c hw hid live start attempts hw' =>
      exact .inl ⟨rfl, World.receives_line hw start noLineFeed hw'⟩
  | reconnected message dead attempts hw' =>
      exact .inr ⟨⟨message, rfl⟩, World.receives_nil_of_opened hw'⟩
  | lost message reason dead attempts hw' =>
      exact .inr ⟨⟨message, rfl⟩, World.receives_nil_of_feed hw'⟩

/-- Over an open connection every record arrives, and the connection stays open. -/
theorem FedTo.isOpen {literal : String} {result : Except Error Outcome}
    (h : FedTo writer literal e w t result e' w') (isOpen : writer.IsOpen w.feed) :
    result = .ok .committed ∧ e' = e ∧ writer.IsOpen w'.feed := by
  cases h with
  | arrived earlier c hw hid live start attempts hw' =>
      exact ⟨rfl, rfl, earlier, _, hw', hid, live⟩
  | reconnected message dead attempts hw' => exact absurd isOpen dead
  | lost message reason dead attempts hw' => exact absurd isOpen dead

/-- There is no attempt to connect, or exactly one; if it succeeds, the feed is open. -/
theorem FedTo.attempts {literal : String} {result : Except Error Outcome}
    (h : FedTo writer literal e w t result e' w') :
    (result = .ok .committed ∧ attemptsIn t = []) ∨
      ∃ message reply, result = .error (.feed message) ∧
        attemptsIn t = [⟨writer.config.host, writer.config.port, reply⟩] ∧
        ((∃ id, reply = .ok id) → HasOpenFeed e' w') := by
  cases h with
  | arrived earlier c hw hid live start attempts hw' => exact .inl ⟨rfl, attempts⟩
  | reconnected message dead attempts hw' =>
      exact .inr ⟨message, _, rfl, attempts, fun _ => ⟨_, rfl, w.feed, _, hw', rfl, rfl⟩⟩
  | lost message reason dead attempts hw' => exact .inr ⟨message, _, rfl, attempts, nofun⟩

/-! ## The other calls -/

/-- Nothing is said to the feed, its writer stays, and no insert comes to wait. -/
structure SparesFeed (e : Executor) (t : List Said) (e' : Executor) : Prop where
  said : ∀ x ∈ t, x.isForFeed = false
  continues : Continues e e'
  inserts : e.inserts = [] → e'.inserts = []

theorem SparesFeed.refl (e : Executor) : SparesFeed e [] e :=
  ⟨by simp, ⟨rfl, rfl, rfl⟩, id⟩

theorem SparesFeed.trans {e'' : Executor} {t' : List Said} (first : SparesFeed e t e')
    (second : SparesFeed e' t' e'') : SparesFeed e (t ++ t') e'' where
  said x hx := (List.mem_append.1 hx).elim (first.said x) (second.said x)
  continues := first.continues.trans second.continues
  inserts h := second.inserts (first.inserts h)

/-- A statement that is answered. -/
theorem sparesFeed_saidFor {α : Type} (continues : Continues e e')
    (inserts : e.inserts = [] → e'.inserts = []) (operation : Operation) (statement : String)
    (a : Http.Answer) (result : Except Error α) :
    SparesFeed e (e.saidFor operation statement a) (e'.answered a result) :=
  ⟨fun _ => isForFeed_saidFor, continues.trans ⟨rfl, rfl, rfl⟩, inserts⟩

theorem sparesFeed_of_plays_lookup (idle : e.connector.results = none) {a : Action}
    (looksUp : a.isLookup = true) {result : Except Error Reply}
    (h : (e.perform a).Plays t (result, e')) : SparesFeed e t e' := by
  rcases plays_lookup looksUp h with
    ⟨rfl, rfl, -⟩ | ⟨operation, statement, fields, records, hfetch, -⟩
  · exact .refl e'
  · obtain ⟨a, rfl, -, rfl⟩ := plays_fetch idle hfetch
    exact sparesFeed_saidFor ⟨rfl, rfl, rfl⟩ id operation statement a _

theorem inserts_emptied (k : WriteKind) (h : e.inserts = []) : (k.emptied e).inserts = [] := by
  cases k
  · rfl
  · exact h

theorem sparesFeed_of_plays_flush (k : WriteKind) (idle : e.connector.results = none)
    {result : Except Error Unit} (h : (k.flush e).Plays t (result, e')) : SparesFeed e t e' := by
  rcases k.plays_flush idle h with ⟨-, rfl, -, rfl⟩ | ⟨-, a, rfl, -, rfl⟩
  · exact .refl e'
  · exact sparesFeed_saidFor (k.continues_emptied e) (inserts_emptied k) k.operation _ a _

theorem sparesFeed_of_plays_update (settled : e.Settled) {key : String} {values : FieldValues}
    {result : Except Error Outcome} (h : (e.update key values).Plays t (result, e')) :
    SparesFeed e t e' := by
  rcases WriteKind.plays_write (k := .update) nofun settled h with
    ⟨-, rfl, -, rfl⟩ | ⟨-, a, rfl, -, rfl⟩
  · exact ⟨by simp, WriteKind.continues_gather .update e _, id⟩
  · exact sparesFeed_saidFor (WriteKind.continues_emptied .update e) (inserts_emptied .update)
      .update _ a _

/-- No call but an insert has to do with the feed. -/
theorem sparesFeed_of_plays (settled : e.Settled) {a : Action}
    (other : ∀ key values, a ≠ .insert key values) {result : Except Error Reply}
    (h : (e.perform a).Plays t (result, e')) : SparesFeed e t e' := by
  cases a with
  | read key fields => exact sparesFeed_of_plays_lookup settled.idle rfl h
  | scan start count fields => exact sparesFeed_of_plays_lookup settled.idle rfl h
  | insert key values => exact absurd rfl (other key values)
  | update key values =>
      obtain ⟨given, hgiven, -⟩ := plays_replying_iff.1 h
      exact sparesFeed_of_plays_update settled hgiven
  | delete key =>
      obtain ⟨given, hgiven, -⟩ := plays_replying_iff.1 h
      obtain ⟨a, rfl, -, rfl⟩ := plays_execute settled.idle hgiven
      exact sparesFeed_saidFor ⟨rfl, rfl, rfl⟩ id .delete _ a _
  | flush =>
      obtain ⟨given, hgiven, -⟩ := plays_replying_iff.1 h
      obtain ⟨first, ⟨inserts, between⟩, rest, rfl, hinserts, hrest⟩ := plays_bind_iff.1 hgiven
      obtain ⟨second, ⟨updates, after⟩, nothing, rfl, hupdates, hdone⟩ := plays_bind_iff.1 hrest
      obtain ⟨rfl, hresult⟩ := plays_done_iff.1 hdone
      obtain ⟨rfl, rfl⟩ := Prod.mk.inj hresult
      obtain ⟨-, idle, -⟩ := WriteKind.session_flush (k := .insert) settled.idle hinserts
      rw [List.append_nil]
      exact (sparesFeed_of_plays_flush .insert settled.idle hinserts).trans
        (sparesFeed_of_plays_flush .update idle hupdates)

/-! ## Sessions -/

/-- A session with a feed between two calls: no insert waits, and what the writer holds is the
newest connection. -/
structure Feeding (session : Executor) (f : FeedConfig) (e : Executor) (w : World) : Prop where
  settled : e.Settled
  literals : e.literalOf = session.literalOf
  inserts : e.inserts = []
  feed : ∃ connection, e.feed = some ⟨f, connection⟩ ∧
    FeedWriter.HoldsNewest ⟨f, connection⟩ w.feed

/-- The record of an insert that was committed. -/
def Turn.committed? (session : Executor) (t : Turn) : Option String :=
  match t.call, t.reply with
  | .insert key values, .ok (.written .committed) => some (session.literalOf key values)
  | _, _ => none

/-- The records of the inserts that were committed, in the order of the calls. -/
def committedIn (session : Executor) (turns : List Turn) : List String :=
  turns.filterMap (Turn.committed? session)

variable {session : Executor} {f : FeedConfig}

theorem Feeding.after (h : Feeding session f e w) (event : FeedEvent) :
    Feeding session f e (w.after event) := by
  obtain ⟨connection, hfeed, newest⟩ := h.feed
  refine ⟨h.settled, h.literals, h.inserts, connection, hfeed, fun id hid => ?_⟩
  obtain ⟨earlier, c, hw, rfl, start⟩ := newest id hid
  cases event with
  | reset =>
      exact ⟨earlier.map fun c => { c with isLive := false }, { c with isLive := false },
        by simp [World.after, World.cut, hw], by simp, start⟩
  | listening yes => exact ⟨earlier, c, hw, rfl, start⟩

/-- Events of the feed take nothing from what it has received, and add nothing. -/
theorem receives_after (w : World) (event : FeedEvent) : w.Receives [] (w.after event) := by
  cases event with
  | reset =>
      constructor
      · simp only [World.after, World.cut, World.received, List.flatMap_map, List.append_nil]
        rfl
      · simp [World.after, World.cut, World.arrived, List.flatMap_map, Sqlpp.lineStream]
  | listening yes => exact World.receives_nil_of_feed rfl

/-- An insert goes to the feed. -/
theorem Feeding.fedTo (h : Feeding session f e w) (key : String) (values : FieldValues) :
    let insert : Action := .insert key values
    ∃ writer given, e.feed = some writer ∧ writer.config = f ∧
      (e.turn w insert).reply = given.map .written ∧
      FedTo writer (session.literalOf key values) e w ((e.perform insert).said w) given
        (e.turn w insert).after (e.worldAfter w insert) := by
  intro insert
  obtain ⟨connection, hfeed, newest⟩ := h.feed
  obtain ⟨given, plays, hreply⟩ := plays_replying_iff.1 ((e.perform insert).plays_said w)
  refine ⟨_, given, hfeed, rfl, hreply, ?_⟩
  rw [← h.literals]
  exact fedTo_of_plays hfeed newest plays ((e.perform insert).gives_said w)

/-- What a call gives to a session with a feed: the session goes on, the feed has received the
record of the call if it is a committed insert and nothing otherwise, and an open feed stays open
and takes the record. -/
structure Feeds (session : Executor) (f : FeedConfig) (w : World) (t : Turn) (w' : World) :
    Prop where
  feeding : Feeding session f t.after w'
  receives : w.Receives (t.committed? session).toList w'
  isOpen : HasOpenFeed t.before w → HasOpenFeed t.after w' ∧
    ∀ key values, t.call = .insert key values → t.reply = .ok (.written .committed)

theorem feeds_insert (h : Feeding session f e w) (key : String) (values : FieldValues) :
    Feeds session f w (e.turn w (.insert key values)) (e.worldAfter w (.insert key values)) := by
  obtain ⟨writer, given, hfeed, rfl, hreply, fed⟩ := h.fedTo key values
  obtain ⟨connection, hafter, newest⟩ := fed.continues hfeed
  refine ⟨⟨(keepsReady_turn h.settled w _).2, ?_, ?_, connection, ?_, newest⟩, ?_, ?_⟩
  · rw [hafter]
    exact h.literals
  · rw [hafter]
    exact h.inserts
  · rw [hafter]
  · have hline : '\n' ∉ (session.literalOf key values).toList :=
      (hasNoControl_literalOf session key values).not_mem (by decide)
    rcases fed.receives hline with ⟨rfl, receives⟩ | ⟨⟨message, rfl⟩, receives⟩ <;>
    · simpa [Turn.committed?, hreply, Except.map] using receives
  · rintro ⟨writer', hfeed', isOpen⟩
    obtain rfl := Option.some.inj (hfeed.symm.trans hfeed')
    obtain ⟨rfl, heq, isOpen⟩ := fed.isOpen isOpen
    refine ⟨⟨writer, ?_, isOpen⟩, fun _ _ _ => hreply⟩
    rw [heq]
    exact hfeed

theorem feeds_other (h : Feeding session f e w) {action : Action}
    (other : ∀ key values, action ≠ .insert key values) :
    Feeds session f w (e.turn w action) (e.worldAfter w action) := by
  have spares : SparesFeed e ((e.perform action).said w) (e.turn w action).after :=
    sparesFeed_of_plays h.settled other ((e.perform action).plays_said w)
  have same : (e.worldAfter w action).feed = w.feed :=
    ((e.perform action).gives_said w).feed spares.said
  have none : (e.turn w action).committed? session = none := by
    cases action with
    | insert key values => exact absurd rfl (other key values)
    | _ => rfl
  refine ⟨⟨(keepsReady_turn h.settled w action).2, ?_, spares.inserts h.inserts, ?_⟩, ?_, ?_⟩
  · rw [spares.continues.literalOf, h.literals]
  · rw [spares.continues.feed, same]
    exact h.feed
  · rw [none]
    exact World.receives_nil_of_feed same
  · rintro ⟨writer, hfeed, isOpen⟩
    refine ⟨⟨writer, spares.continues.feed.trans hfeed, by rwa [same]⟩, ?_⟩
    exact fun key values heq => absurd heq (other key values)

theorem feeds_turn (h : Feeding session f e w) (action : Action) :
    Feeds session f w (e.turn w action) (e.worldAfter w action) := by
  cases action with
  | insert key values => exact feeds_insert h key values
  | _ => exact feeds_other h nofun

/-- A session that has just connected holds its own connection. -/
theorem feeding_of_connect [Url.Idna] {config : ClientConfig} {w₀ w₁ : World}
    (connected : (connect config).run w₀ = (.ok e, w₁)) (hasFeed : config.feed = some f) :
    Feeding e f e w₁ ∧ w₀.Receives [] w₁ := by
  have plays := (connect config).plays_said w₀
  have gives := (connect config).gives_said w₀
  rw [connected] at plays gives
  obtain ⟨fresh, key, fields, a, a', opening, hsaid, ⟨noFeed, -⟩ | ⟨f', id, hf, rfl, hfeed⟩⟩ :=
    fresh_of_plays plays
  · rw [noFeed] at hasFeed
    cases hasFeed
  obtain rfl := Option.some.inj (hasFeed.symm.trans hf)
  rw [hsaid] at gives
  simp only [World.gives_cons_iff, World.gives_nil_iff] at gives
  obtain ⟨-, -, hreply, rfl⟩ := gives
  obtain ⟨rfl, hopened⟩ := World.handle_connect_of_ok hreply.symm
  refine ⟨⟨fresh.settled, rfl, fresh.inserts, _, hfeed, ?_⟩, World.receives_nil_of_opened hopened⟩
  rintro id ⟨⟩
  exact ⟨_, _, hopened, rfl, .inl rfl⟩

/-- Whatever happens in a session with a feed, the feed receives the records of the committed
inserts and nothing else. -/
theorem feeding_course (h : Feeding session f e w) (events : List Event) :
    let c := course e w events
    Feeding session f c.executor c.world ∧ w.Receives (committedIn session c.turns) c.world := by
  induction events generalizing e w with
  | nil => exact ⟨h, World.receives_nil_of_feed rfl⟩
  | cons first events ih =>
      cases first with
      | feed event =>
          obtain ⟨feeding, receives⟩ := ih (h.after event)
          exact ⟨feeding, (receives_after w event).trans receives⟩
      | call action =>
          have feeds := feeds_turn h action
          obtain ⟨feeding, receives⟩ := ih feeds.feeding
          have all := feeds.receives.trans receives
          refine ⟨feeding, ?_⟩
          simp only [committedIn, course, List.filterMap_cons] at all ⊢
          cases hfirst : (e.turn w action).committed? session <;>
          · rw [hfirst] at all
            exact all

/-- Until the feed resets it, an open feed takes every record. -/
theorem committed_of_isOpen (h : Feeding session f e w) (isOpen : HasOpenFeed e w)
    {events : List Event} (kept : .feed .reset ∉ events) :
    ∀ t ∈ (course e w events).turns, ∀ key values, t.call = .insert key values →
      t.reply = .ok (.written .committed) := by
  refine (course_induction_of_allowed (fun event => event ≠ .reset)
    (fun e w => Feeding session f e w ∧ HasOpenFeed e w)
    (fun t => ∀ key values, t.call = .insert key values → t.reply = .ok (.written .committed))
    ?_ ?_ ⟨h, isOpen⟩ events ?_).1
  · rintro e w event allowed ⟨feeding, isOpen⟩
    cases event with
    | reset => exact absurd rfl allowed
    | listening yes => exact ⟨feeding.after (.listening yes), isOpen⟩
  · rintro e w action ⟨feeding, isOpen⟩
    have feeds := feeds_turn feeding action
    obtain ⟨stillOpen, committed⟩ := feeds.isOpen isOpen
    exact ⟨committed, feeds.feeding, stillOpen⟩
  · rintro event hmem rfl
    exact kept hmem

theorem hasNoControl_of_mem_committedIn {turns : List Turn} {record : String}
    (h : record ∈ committedIn session turns) : Sqlpp.HasNoControl record := by
  obtain ⟨t, -, ht⟩ := List.mem_filterMap.1 h
  unfold Turn.committed? at ht
  split at ht
  · obtain rfl := Option.some.inj ht
    exact hasNoControl_literalOf session _ _
  · cases ht

/-- A feed receives exactly the records of the committed inserts. In every session of a connected
executor with a feed, with any calls in any order, any answers of the service and any events of the
feed, no insert ever waits. What the feed has received over all its connections is what it had
before and then the records of the inserts that were committed, each once, in the order of the calls
and each with a line feed behind it, so they can be read off the bytes. Of any insert that comes
next, nothing goes to the service. It is committed, or it fails because of the feed with exactly one
attempt to connect. If the attempt succeeds, all inserts from there on are committed until the feed
resets. -/
theorem feed_receives_the_committed_records [Url.Idna] {config : ClientConfig} {f : FeedConfig}
    {w₀ w₁ : World} {e : Executor} (hasFeed : config.feed = some f)
    (connected : (connect config).run w₀ = (.ok e, w₁)) (events : List Event) :
    let c := course e w₁ events
    let records := committedIn e c.turns
    c.executor.inserts = [] ∧
      c.world.received = w₀.received ++ records ∧
      c.world.arrived = w₀.arrived ++ Sqlpp.lineStream records ∧
      Http.Body.lines ⟨Sqlpp.lineStream records, none⟩ = records.map .ok ∧
      ∀ key values,
        let insert : Action := .insert key values
        let t := c.executor.turn c.world insert
        let attempts := attemptsIn ((c.executor.perform insert).said c.world)
        t.exchanges = [] ∧
          ((t.reply = .ok (.written .committed) ∧ attempts = []) ∨
            ∃ message reply, t.reply = .error (.feed message) ∧
              attempts = [⟨f.host, f.port, reply⟩] ∧
              ((∃ id, reply = .ok id) → ∀ later, .feed .reset ∉ later →
                ∀ t' ∈ (course t.after (c.executor.worldAfter c.world insert) later).turns,
                  ∀ key values, t'.call = .insert key values →
                    t'.reply = .ok (.written .committed))) := by
  intro c records
  obtain ⟨feeding, opened⟩ := feeding_of_connect connected hasFeed
  obtain ⟨feeding, receives⟩ : Feeding e f c.executor c.world ∧ w₁.Receives records c.world :=
    feeding_course feeding events
  have delivered : w₀.Receives records c.world := opened.trans receives
  refine ⟨feeding.inserts, delivered.lines, delivered.bytes, ?_, ?_⟩
  · exact Sqlpp.lines_lineStream fun record hrecord => hasNoControl_of_mem_committedIn hrecord
  · intro key values insert t attempts
    obtain ⟨writer, given, hfeed, rfl, hreply, fed⟩ := feeding.fedTo key values
    have silent : t.exchanges = [] := by
      have sends := (keepsReady_turn feeding.settled c.world insert).1.sends
      have nothing : c.executor.statementsOf insert = [] := by simp [insert, statementsOf, hfeed]
      exact List.map_eq_nil_iff.1 (sends.trans nothing)
    refine ⟨silent, fed.attempts.imp ?_ ?_⟩
    · rintro ⟨rfl, none⟩
      exact ⟨hreply, none⟩
    · rintro ⟨message, reply, rfl, one, opens⟩
      refine ⟨message, reply, hreply, one, fun succeeded later kept => ?_⟩
      exact committed_of_isOpen (feeds_turn feeding insert).feeding (opens succeeded) kept

/-- The record that meets the reset is lost, those before and behind it arrive. -/
theorem record_behind_a_reset_is_received :
    ∃ e w, (connect { url := "http://[::1]", feed := some ⟨"localhost", 10001⟩ }).run
        { World.scripted catalogAnswers with feedAccepts := true } = (.ok e, w) ∧
      let c := course e w [.call (.insert "a" .empty), .feed .reset, .call (.insert "b" .empty),
        .call (.insert "c" .empty)]
      c.world.received = [e.literalOf "a" .empty, e.literalOf "c" .empty] ∧
        c.executor.inserts = [] := by
  have parses : (Endpoint.parse "http://[::1]").isOk = true := by decide +kernel
  obtain ⟨endpoint, hurl⟩ := exists_eq_ok parses
  obtain ⟨c, hrun⟩ := @run_connect_of_catalog _
    { url := "http://[::1]", feed := some ⟨"localhost", 10001⟩ } endpoint
    { World.scripted catalogAnswers with feedAccepts := true } _ _ hurl rfl
    (keyOf_catalogAnswers _) (fieldsOf_catalogAnswers _)
  refine ⟨_, _, hrun, ?_⟩
  obtain ⟨inserts, received, -⟩ := feed_receives_the_committed_records rfl hrun
    [.call (.insert "a" .empty), .feed .reset, .call (.insert "b" .empty),
      .call (.insert "c" .empty)]
  exact ⟨received, inserts⟩

end Executor

end SqlppBench
