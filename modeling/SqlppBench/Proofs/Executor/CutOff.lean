import SqlppBench.Proofs.Connector.Discipline
import SqlppBench.Proofs.Executor.Readiness
import SqlppBench.Proofs.Http.Lines

/-! # Answers that are cut off

When reading a body fails, the lines that were complete by then are those of the whole body. They
hold either the end of the results, and then nothing behind it was to be read, or the failure is
reached (`recordsOfBody_of_isCutOf`). So whoever reads the records to their end learns as much as
from the whole answer or learns that reading failed (`IsWholeOrUnreadable`), and never takes a part
of the records for all of them.
-/

namespace SqlppBench

/-- A result for an answer that is cut off: the one for the whole answer, or the failure to read. -/
def IsWholeOrUnreadable {α : Type} (reason : String) (whole cut : Except Error α) : Prop :=
  cut = whole ∨ cut = .error (Connector.unreadable reason)

/-- What passes faults on keeps the failure to read. -/
theorem IsWholeOrUnreadable.congr {α β : Type} {reason : String} {whole cut : Except Error α}
    (h : IsWholeOrUnreadable reason whole cut) {f : Except Error α → Except Error β}
    (passes : ∀ fault, f (.error fault) = .error fault) :
    IsWholeOrUnreadable reason (f whole) (f cut) := by
  rcases h with rfl | rfl
  · exact .inl rfl
  · exact .inr (passes _)

namespace Connector

variable {whole cut : Http.Body} {reason : String}

/-! ## Bodies -/

/-- A body that is cut off gives the records of the whole one, or it cannot be read. -/
theorem recordsOfBody_of_isCutOf (h : cut.IsCutOf whole reason) :
    IsWholeOrUnreadable reason (recordsOfBody whole) (recordsOfBody cut) := by
  obtain ⟨complete, others, hcut, hwhole⟩ := h.exists_lines
  have hremaining := ResultCursor.remainingOf_append_error .beforeResults complete
    (.broken reason) [] others
  rw [← hcut, ← hwhole] at hremaining
  rcases hremaining with hsame | hfault
  · left
    simp only [recordsOfBody, ResultCursor.ofLines, ResultCursor.remaining, hsame]
  · right
    simp only [recordsOfBody, ResultCursor.ofLines, ResultCursor.remaining, Remaining.all, hfault]
    rfl

theorem recordsOf_of_isCutOf (h : cut.IsCutOf whole reason) :
    IsWholeOrUnreadable reason (recordsOf (.response 200 whole))
      (recordsOf (.response 200 cut)) :=
  recordsOfBody_of_isCutOf h

/-- Without records to end it, a body must be read to its own end. -/
theorem effectOf_of_isCutOf (h : cut.IsCutOf whole reason) :
    effectOf (.response 200 cut) = .error (unreadable reason) := by
  simp only [effectOf, bodyOf, if_true, h.failure]

/-! ## Connectors -/

/-- A connector that sends the next statement, with or without records, and whose result depends on
nothing but the answer to it. -/
structure IsReady (c : Connector) : Prop where
  closed : c.cursorState = none
  effect : ∀ statement w,
    let run := (c.executeForEffect statement).run w
    run.2 = w.posted (c.requestOf statement) ∧
      run.1.1 = effectOf (w.answer (c.requestOf statement))
  results : ∀ statement w,
    let run := (c.executeForResults statement).run w
    run.2 = w.posted (c.requestOf statement) ∧
      run.1.1 = (bodyOf (w.answer (c.requestOf statement))).map fun _ => ()

/-- A connector with nothing open is ready. -/
theorem isReady_of_idle {c : Connector} (h : c.results = none) : c.IsReady where
  closed := by
    rw [cursorState, h]
    rfl
  effect statement w := by
    rw [run_executeForEffect_of_idle h]
    exact ⟨rfl, note_fst _ _⟩
  results statement w := by
    rw [run_executeForResults_of_idle h]
    refine ⟨rfl, ?_⟩
    cases bodyOf (w.answer (c.requestOf statement)) <;> rfl

/-- A statement whose answer is read to its end. -/
inductive Query where
  | effect (statement : String)
  | records (statement : String)
  | primaryKey (name : Catalog.RelationName)
  | fields (name : Catalog.RelationName)

/-- The text of the statement. -/
def Query.statement : Query → String
  | .effect statement => statement
  | .records statement => statement
  | .primaryKey name => name.primaryKeyStatement
  | .fields name => name.fieldsStatement

/-- The calls that send the statement and read the answer. -/
def Query.calls : Query → List Action
  | .effect statement => [.effect statement]
  | .records statement => [.results statement, .drain]
  | .primaryKey name => [.primaryKey name]
  | .fields name => [.fields name]

/-- The replies are the same but for the last one, which the cut may have made a failure to read. -/
def AgreeBeforeCut (reason : String) (whole cut : List (Except Error Reply)) : Prop :=
  ∃ earlier last last', whole = earlier ++ [last] ∧ cut = earlier ++ [last'] ∧
    IsWholeOrUnreadable reason last last'

variable {c : Connector} {w w' : World}

/-- A single reply is the last one. -/
theorem agreeBeforeCut_singleton {last last' : Except Error Reply}
    (h : IsWholeOrUnreadable reason last last') : AgreeBeforeCut reason [last] [last'] :=
  ⟨[], last, last', rfl, rfl, h⟩

/-- The records of a body come with the second call, which leaves nothing open. -/
theorem run_records (h : c.results = none) {statement : String} {body : Http.Body} {w : World}
    (answered : w.answer (c.requestOf statement) = .response 200 body) :
    let run := (Dialogue.session perform c (Query.records statement).calls).run w
    run.1.1 = [.ok .opened, (recordsOfBody body).map .records] ∧ run.1.2.results = none := by
  have hbody : bodyOf (.response 200 body) = .ok body := by simp [bodyOf]
  have hdrain := drainAll_of_open (c := { c.afterAnswer (.response 200 body) with
    results := some (.ofLines body.lines), error := "" }) rfl
  simp only [Query.calls, Dialogue.run_session_cons, Dialogue.run_session_nil, perform,
    run_replying, run_executeForResults_of_idle h, answered, hbody, note_ok, Dialogue.run_done,
    hdrain, note_fst, results_note]
  exact ⟨rfl, rfl⟩

/-- A catalog query learns as much from a cut-off answer as from the whole one, or fails. -/
theorem discover_of_isCutOf {α : Type} (h : cut.IsCutOf whole reason) (idle : c.results = none)
    (name : Catalog.RelationName) {statement : String}
    (answered : w.answer (c.requestOf statement) = .response 200 whole)
    (answered' : w'.answer (c.requestOf statement) = .response 200 cut)
    (ofRecords : List String → Except Error α) :
    IsWholeOrUnreadable reason ((c.discover name statement ofRecords).run w).1.1
      ((c.discover name statement ofRecords).run w').1.1 := by
  cases hname : name.check with
  | error fault =>
      -- nothing is sent, so the answers do not matter
      left
      rw [run_discover_of_unnamed idle hname, run_discover_of_unnamed idle hname]
  | ok u =>
      rw [run_discover_of_idle idle hname, run_discover_of_idle idle hname, answered, answered']
      simp only [note_fst]
      exact (recordsOf_of_isCutOf h).congr (f := fun records => records.bind ofRecords)
        fun _ => rfl

/-- A statement without records fails when its answer is cut off, whatever it was to be. -/
theorem effect_of_isCutOf (h : cut.IsCutOf whole reason) (idle : c.results = none)
    (statement : String) (answered : w.answer (c.requestOf statement) = .response 200 cut) :
    let run := (Dialogue.session perform c (Query.effect statement).calls).run w
    run.1.1 = [.error (unreadable reason)] ∧ run.1.2.results = none := by
  simp only [Query.calls, Dialogue.run_session_singleton, perform, run_replying,
    run_executeForEffect_of_idle idle, answered, effectOf_of_isCutOf h, note_fst, results_note,
    results_afterAnswer]
  exact ⟨rfl, idle⟩

/-- The replies of a query to an answer that is cut off, and the connector behind it. -/
theorem query_of_isCutOf (h : cut.IsCutOf whole reason) (idle : c.results = none) (q : Query)
    (answered : w.answer (c.requestOf q.statement) = .response 200 whole)
    (answered' : w'.answer (c.requestOf q.statement) = .response 200 cut) :
    let run := (Dialogue.session perform c q.calls).run w
    let run' := (Dialogue.session perform c q.calls).run w'
    AgreeBeforeCut reason run.1.1 run'.1.1 ∧ run'.1.2.results = none := by
  cases q with
  | effect statement =>
      obtain ⟨hcut, closed⟩ := effect_of_isCutOf h idle statement answered'
      refine ⟨?_, closed⟩
      rw [hcut, Query.calls, Dialogue.run_session_singleton]
      exact agreeBeforeCut_singleton (.inr rfl)
  | records statement =>
      obtain ⟨hwhole, -⟩ := run_records idle answered
      obtain ⟨hcut, closed⟩ := run_records idle answered'
      refine ⟨⟨[.ok .opened], _, _, hwhole, hcut, ?_⟩, closed⟩
      exact (recordsOfBody_of_isCutOf h).congr (f := Except.map Reply.records) fun _ => rfl
  | primaryKey name =>
      have learnt := discover_of_isCutOf h idle name answered answered' (Catalog.keyOfRecords name)
      have closed := results_run_discover idle name name.primaryKeyStatement
        (Catalog.keyOfRecords name) w'
      simp only [Query.calls, Dialogue.run_session_singleton, perform, run_replying, primaryKey]
      exact ⟨agreeBeforeCut_singleton (learnt.congr (f := Except.map Reply.key) fun _ => rfl),
        closed⟩
  | fields name =>
      have learnt := discover_of_isCutOf h idle name answered answered'
        (Catalog.fieldsOfRecords name)
      have closed := results_run_discover idle name name.fieldsStatement
        (Catalog.fieldsOfRecords name) w'
      simp only [Query.calls, Dialogue.run_session_singleton, perform, run_replying, fields]
      exact ⟨agreeBeforeCut_singleton (learnt.congr (f := Except.map Reply.fields) fun _ => rfl),
        closed⟩

end Connector

namespace Executor

variable {e : Executor} {w w' : World} {whole cut : Http.Body} {reason : String}

/-! ## Lookups -/

/-- Decoding comes after all records were read, so it never sees a part of them. -/
theorem fetch_of_isCutOf (h : cut.IsCutOf whole reason) (idle : e.connector.results = none)
    (operation : Operation) {statement : String} (fields : List String)
    (answered : w.answer (e.connector.requestOf statement) = .response 200 whole)
    (answered' : w'.answer (e.connector.requestOf statement) = .response 200 cut) :
    IsWholeOrUnreadable reason ((e.fetch operation statement fields).run w).1.1
      ((e.fetch operation statement fields).run w').1.1 := by
  rw [run_fetch idle, run_fetch idle, answered, answered']
  exact (Connector.recordsOf_of_isCutOf h).congr
    (f := fun records => records.bind (decodeAll fields)) fun _ => rfl

/-- A lookup learns as much from a cut-off answer as from the whole one, or fails. -/
theorem lookup_of_isCutOf (h : cut.IsCutOf whole reason) (idle : e.connector.results = none)
    {lookup : Action} (looksUp : lookup.isLookup = true)
    (answered : ∀ statement ∈ e.statementsOf lookup,
      w.answer (e.connector.requestOf statement) = .response 200 whole)
    (answered' : ∀ statement ∈ e.statementsOf lookup,
      w'.answer (e.connector.requestOf statement) = .response 200 cut) :
    IsWholeOrUnreadable reason ((e.perform lookup).run w).1.1
      ((e.perform lookup).run w').1.1 := by
  rcases e.lookup_cases looksUp with
    ⟨fault, -, -, hrun⟩ | ⟨operation, statement, names, ofRecords, hstatement, passes, -, hrun⟩
  · left
    rw [hrun, hrun]
  · rw [hrun, hrun]
    rw [hstatement] at answered answered'
    have fetched := fetch_of_isCutOf h idle operation names
      (answered statement (List.mem_singleton_self statement))
      (answered' statement (List.mem_singleton_self statement))
    exact fetched.congr passes

/-- An answer that is cut off never passes for a whole one. What a connector reads of it to the end
is what it reads of the whole answer, or it fails to read the body; without records it always
fails. So do the lookups of an executor, at any point of any session. In every case nothing stays
open, and the next statement is sent. -/
theorem cut_off_answer_never_passes_for_whole [Url.Idna] (h : cut.IsCutOf whole reason) :
    (∀ (c : Connector) (q : Connector.Query) (w w' : World), c.cursorState = none →
      w.answer (c.requestOf q.statement) = .response 200 whole →
      w'.answer (c.requestOf q.statement) = .response 200 cut →
        let run := (Dialogue.session Connector.perform c q.calls).run w
        let run' := (Dialogue.session Connector.perform c q.calls).run w'
        Connector.AgreeBeforeCut reason run.1.1 run'.1.1 ∧
          (∀ statement, q = .effect statement →
            run'.1.1 = [.error (Connector.unreadable reason)]) ∧
          run'.1.2.IsReady) ∧
      ∀ (config : ClientConfig) (e : Executor) (lookup : Action) (w w' : World),
        Alive config e → lookup.isLookup = true →
        (∀ statement ∈ e.statementsOf lookup,
          w.answer (e.connector.requestOf statement) = .response 200 whole) →
        (∀ statement ∈ e.statementsOf lookup,
          w'.answer (e.connector.requestOf statement) = .response 200 cut) →
          let run := (e.perform lookup).run w
          let run' := (e.perform lookup).run w'
          IsWholeOrUnreadable reason run.1.1 run'.1.1 ∧ run'.1.2.connector.IsReady := by
  constructor
  · intro c q w w' closed answered answered'
    have idle : c.results = none := by simpa [Connector.cursorState] using closed
    obtain ⟨agree, closed'⟩ := Connector.query_of_isCutOf h idle q answered answered'
    refine ⟨agree, ?_, Connector.isReady_of_idle closed'⟩
    rintro statement rfl
    exact (Connector.effect_of_isCutOf h idle statement answered').1
  · intro config e lookup w w' alive looksUp answered answered'
    have settled := alive.settled
    have completes := completes_perform settled lookup w'
    exact ⟨lookup_of_isCutOf h settled.idle looksUp answered answered',
      Connector.isReady_of_idle completes.settled.idle⟩

/-- A scan does not take the first of two records for both of them. -/
theorem cut_off_scan_never_passes_for_whole :
    let whole : Http.Body :=
      ⟨Utf8.encode "\"results\": [ \x7b\"f\":\"AB\"\x7d\n, \x7b\"f\":\"CD\"\x7d\n]\n", none⟩
    let cut : Http.Body :=
      ⟨Utf8.encode "\"results\": [ \x7b\"f\":\"AB\"\x7d\n, \x7b", some World.reset⟩
    cut.IsCutOf whole World.reset ∧
      ∃ e w, Alive { url := "http://[::1]" } e ∧ (∀ r, w.answer r = .response 200 whole) ∧
        let w' := World.scripted [.response 200 cut]
        let drained :=
          (Dialogue.session Connector.perform e.connector [.results "SELECT 1;", .drain]).run
        let scanned := (e.perform (.scan "a" 9 none)).run
        Connector.AgreeBeforeCut World.reset (drained w).1.1 (drained w').1.1 ∧
          IsWholeOrUnreadable World.reset (scanned w).1.1 (scanned w').1.1 ∧
          (scanned w').1.2.connector.IsReady := by
  intro whole cut
  obtain ⟨e, w, connected, -, hanswer⟩ := @connect_of_catalogAnswers _ { url := "http://[::1]" } rfl
    (by decide +kernel) rfl [.response 200 whole]
  have alive : Alive { url := "http://[::1]" } e := ⟨_, e, w, [], connected, rfl⟩
  have cutOff : cut.IsCutOf whole World.reset := ⟨by decide +kernel, rfl⟩
  obtain ⟨connectors, executors⟩ := cut_off_answer_never_passes_for_whole cutOff
  have drained := connectors e.connector (.records "SELECT 1;") w
    (.scripted [.response 200 cut]) alive.settled.cursorState (hanswer _) rfl
  have scanned := executors _ e (.scan "a" 9 none) w (.scripted [.response 200 cut]) alive rfl
    (fun _ _ => hanswer _) fun _ _ => rfl
  exact ⟨cutOff, e, w, alive, hanswer, drained.1, scanned⟩

end Executor

end SqlppBench
