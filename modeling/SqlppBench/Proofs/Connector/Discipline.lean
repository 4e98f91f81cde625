import SqlppBench.Proofs.Connector.Exchange

/-! # One statement at a time

A connector has the results of at most one statement open. The reference automaton (`Reference`)
knows of the open results only what they still have to give; a connector refines it: every run of
calls has the same replies and the same exchanges with the world (`run_session_reference`). A call
that is refused because of open results leaves the automaton as it is, so a run without its refused
calls goes as it did with them (`run_session_kept`).
-/

namespace SqlppBench

namespace Connector

/-- A call of a connector. -/
inductive Action where
  | effect (statement : String)
  | results (statement : String)
  | next
  | drain
  | close
  | primaryKey (name : Catalog.RelationName)
  | fields (name : Catalog.RelationName)

/-- What a call gives. -/
inductive Reply where
  | done
  | opened
  | record (record : Option String)
  | records (records : List String)
  | closed
  | key (name : String)
  | fields (fields : List FieldInfo)

/-- Whether a call is for a statement of its own. -/
def Action.startsStatement : Action → Bool
  | .effect _ | .results _ | .primaryKey _ | .fields _ => true
  | .next | .drain | .close => false

/-- Gives the result of a statement as a reply. -/
def replying {α : Type} (reply : α → Reply) (d : Dialogue (Except Error α × Connector)) :
    Dialogue (Except Error Reply × Connector) :=
  d.bind fun (result, c) => .done (result.map reply, c)

/-- Performs a call. -/
def perform (c : Connector) : Action → Dialogue (Except Error Reply × Connector)
  | .effect statement => replying (fun _ => .done) (c.executeForEffect statement)
  | .results statement => replying (fun _ => .opened) (c.executeForResults statement)
  | .next => replying .record (.done c.nextResult)
  | .drain => replying .records (.done c.drainAll)
  | .close => .done (.ok .closed, c.close)
  | .primaryKey name => replying .key (c.primaryKey name)
  | .fields name => replying .fields (c.fields name)

@[simp] theorem run_replying {α : Type} (reply : α → Reply)
    (d : Dialogue (Except Error α × Connector)) (w : World) :
    (replying reply d).run w = (((d.run w).1.1.map reply, (d.run w).1.2), (d.run w).2) := by
  simp [replying, Dialogue.run_bind]

/-- Whether a call was refused because results are open. -/
def isRefusal : Except Error Reply → Bool
  | .error .statementInFlight => true
  | _ => false

end Connector

/-! ## The reference automaton -/

/-- Open results: where their cursor stands and what they still have to give. -/
structure OpenResults where
  state : CursorState
  left : Remaining
deriving DecidableEq, Repr

/-- An endpoint, and the results that are open, if there are any. -/
structure Reference where
  endpoint : Endpoint
  results : Option OpenResults

namespace Reference

open Connector

/-- The automaton with nothing open. -/
def idle (s : Reference) : Reference :=
  { s with results := none }

/-- Posts a statement, unless results are open. The answer decides the reply and what is open. -/
def start (s : Reference) (statement : String)
    (use : Http.Answer → Except Error Reply × Option OpenResults) :
    Dialogue (Except Error Reply × Reference) :=
  match s.results with
  | some _ => .done (.error .statementInFlight, s)
  | none =>
    .perform (.request ⟨s.endpoint, statement⟩) fun a =>
      .done ((use a).1, { s with results := (use a).2 })

/-- Asks the catalog about a relation, which must have a name. -/
def consult {α : Type} (s : Reference) (name : Catalog.RelationName) (statement : String)
    (ofRecords : List String → Except Error α) (reply : α → Reply) :
    Dialogue (Except Error Reply × Reference) :=
  match s.results, name.check with
  | none, .error e => .done (.error e, s)
  | _, _ => s.start statement fun a => (((recordsOf a).bind ofRecords).map reply, none)

/-- One record of the open results, or their end. -/
def next (s : Reference) : Except Error Reply × Reference :=
  match s.results with
  | none => (.ok (.record none), s)
  | some o =>
    match o.left.head with
    | .ok (some record) =>
      (.ok (.record (some record)), { s with results := some ⟨.insideResults, o.left.tail⟩ })
    | .ok none => (.ok (.record none), s.idle)
    | .error fault => (.error (unreadable fault.message), s.idle)

/-- All that the open results still have to give. -/
def drain (s : Reference) : Except Error Reply × Reference :=
  match s.results with
  | none => (.ok (.records []), s)
  | some o =>
    ((o.left.all.mapError fun fault => unreadable fault.message).map .records, s.idle)

/-- Performs a call. -/
def perform (s : Reference) : Action → Dialogue (Except Error Reply × Reference)
  | .effect statement =>
    s.start statement fun a => ((effectOf a).map fun _ => .done, none)
  | .results statement =>
    s.start statement fun a =>
      match bodyOf a with
      | .error e => (.error e, none)
      | .ok body =>
        (.ok .opened, some ⟨.beforeResults, (ResultCursor.ofLines body.lines).remaining⟩)
  | .next => .done s.next
  | .drain => .done s.drain
  | .close => .done (.ok .closed, s.idle)
  | .primaryKey name =>
    s.consult name name.primaryKeyStatement (Catalog.keyOfRecords name) .key
  | .fields name =>
    s.consult name name.fieldsStatement (Catalog.fieldsOfRecords name) .fields

end Reference

/-! ## Refinement -/

namespace Connector

/-- A cursor as the reference sees it. -/
def openResultsOf (cursor : ResultCursor) : OpenResults :=
  ⟨cursor.state, cursor.remaining⟩

/-- A connector as the reference sees it. -/
def reference (c : Connector) : Reference :=
  ⟨c.endpoint, c.results.map openResultsOf⟩

@[simp] theorem reference_note {α : Type} (result : Except Error α) (c : Connector) :
    (note result c).2.reference = c.reference := by
  simp [reference]

@[simp] theorem reference_afterAnswer (c : Connector) (a : Http.Answer) :
    (c.afterAnswer a).reference = c.reference := by
  simp [reference]

/-- What a call of the connector does, as the reference sees it. -/
def Refines (c : Connector) (a : Action) (w : World) : Prop :=
  (c.reference.perform a).run w =
    ((((c.perform a).run w).1.1, ((c.perform a).run w).1.2.reference), ((c.perform a).run w).2)

theorem refines_effect (c : Connector) (statement : String) (w : World) :
    c.Refines (.effect statement) w := by
  cases h : c.results with
  | none =>
      simp [Refines, perform, Reference.perform, Reference.start, run_executeForEffect_of_idle h,
        reference, h, requestOf]
  | some cursor =>
      have hopen : c.isOpen = true := by simp [isOpen, h]
      simp [Refines, perform, Reference.perform, Reference.start,
        run_executeForEffect_of_open hopen, reference, h, Except.map]

theorem refines_results (c : Connector) (statement : String) (w : World) :
    c.Refines (.results statement) w := by
  cases h : c.results with
  | none =>
      simp only [Refines, perform, Reference.perform, Reference.start, run_replying,
        run_executeForResults_of_idle h, reference, h, requestOf, Option.map_none,
        Dialogue.run_perform, Dialogue.run_done, World.handle_request]
      cases bodyOf (w.answer ⟨c.endpoint, statement⟩) <;>
        simp [h, Except.map, openResultsOf, ResultCursor.ofLines]
  | some cursor =>
      have hopen : c.isOpen = true := by simp [isOpen, h]
      simp [Refines, perform, Reference.perform, Reference.start,
        run_executeForResults_of_open hopen, reference, h, Except.map]

theorem refines_next (c : Connector) (w : World) : c.Refines .next w := by
  cases h : c.results with
  | none =>
      simp [Refines, perform, Reference.perform, Reference.next, nextResult_of_idle h, reference,
        h, Except.map]
  | some cursor =>
      -- a record, the end of the results, or a line that cannot be read
      rcases nextResult_of_open h with
        ⟨record, cursor', hstate, hrem, heq⟩ | ⟨hhead, heq⟩ | ⟨fault, hhead, heq⟩
      · simp [Refines, perform, Reference.perform, Reference.next, heq, reference, h, Except.map,
          openResultsOf, hstate, hrem]
      · simp [Refines, perform, Reference.perform, Reference.next, heq, reference, h, Except.map,
          openResultsOf, hhead, Reference.idle, close]
      · simp [Refines, perform, Reference.perform, Reference.next, heq, reference, h, Except.map,
          openResultsOf, hhead, Reference.idle, close]

theorem refines_drain (c : Connector) (w : World) : c.Refines .drain w := by
  cases h : c.results with
  | none =>
      simp [Refines, perform, Reference.perform, Reference.drain, drainAll_of_idle h, reference,
        h, Except.map]
  | some cursor =>
      simp [Refines, perform, Reference.perform, Reference.drain, drainAll_of_open h, reference,
        h, openResultsOf, Reference.idle, close]

/-- Both catalog queries refine the reference's one. -/
theorem run_consult {α : Type} (c : Connector) (name : Catalog.RelationName) (statement : String)
    (ofRecords : List String → Except Error α) (reply : α → Reply) (w : World) :
    (c.reference.consult name statement ofRecords reply).run w =
      let run := (c.discover name statement ofRecords).run w
      ((run.1.1.map reply, run.1.2.reference), run.2) := by
  cases h : c.results with
  | none =>
      cases hname : name.check with
      | error e =>
          simp [Reference.consult, run_discover_of_unnamed h hname, reference, h, hname,
            Except.map]
      | ok u =>
          simp [Reference.consult, Reference.start, run_discover_of_idle h hname, reference, h,
            hname, requestOf]
  | some cursor =>
      have hopen : c.isOpen = true := by simp [isOpen, h]
      simp [Reference.consult, Reference.start, run_discover_of_open hopen, reference, h,
        Except.map]

/-- Every call of a connector is a call of the reference. -/
theorem refines (c : Connector) (a : Action) (w : World) : c.Refines a w := by
  cases a with
  | effect statement => exact refines_effect c statement w
  | results statement => exact refines_results c statement w
  | next => exact refines_next c w
  | drain => exact refines_drain c w
  | close => simp [Refines, perform, Reference.perform, Reference.idle, reference, close]
  | primaryKey name =>
      simp [Refines, perform, Reference.perform, run_consult, primaryKey]
  | fields name => simp [Refines, perform, Reference.perform, run_consult, fields]

/-- Every run of a connector is a run of the reference, with the same replies in the same world. -/
theorem run_session_reference (c : Connector) (calls : List Action) (w : World) :
    (Dialogue.session Reference.perform c.reference calls).run w =
      let run := (Dialogue.session perform c calls).run w
      ((run.1.1, run.1.2.reference), run.2) := by
  induction calls generalizing c w with
  | nil => rfl
  | cons a calls ih =>
      have first := c.refines a w
      rw [Refines] at first
      simp only [Dialogue.run_session_cons, first, ih]

/-! ## Refused calls -/

theorem isOrderly_itemsOf {α : Type} (reader : Json.Cursor → Json.Result α) (what : String)
    (records : List String) : IsOrderly (Catalog.itemsOf reader what records) := by
  induction records with
  | nil => exact isOrderly_ok []
  | cons record records ih =>
      unfold Catalog.itemsOf
      split
      · exact isOrderly_error (by simp [Error.kind])
      · exact ih.map _

theorem isOrderly_keyOfRecords (name : Catalog.RelationName) (records : List String) :
    IsOrderly (Catalog.keyOfRecords name records) := by
  have hitems := isOrderly_itemsOf (Json.list Json.anyText) "primary key" records
  unfold Catalog.keyOfRecords
  split
  · rename_i fault h
    exact isOrderly_error (hitems fault h)
  · unfold Catalog.keyOfPaths
    split
    · exact isOrderly_error (by simp [Error.kind])
    · exact isOrderly_ok _
    · exact isOrderly_error (by simp [Error.kind])

theorem isOrderly_fieldsOfRecords (name : Catalog.RelationName) (records : List String) :
    IsOrderly (Catalog.fieldsOfRecords name records) := by
  have hitems := isOrderly_itemsOf (Json.record FieldInfo.reader) "field list" records
  unfold Catalog.fieldsOfRecords
  split
  · rename_i fault h
    exact isOrderly_error (hitems fault h)
  · exact isOrderly_error (by simp [Error.kind])
  · exact isOrderly_ok _

theorem isOrderly_check (name : Catalog.RelationName) : IsOrderly name.check := by
  unfold Catalog.RelationName.check
  split
  · exact isOrderly_error (by simp [Error.kind])
  · exact isOrderly_ok ()

end Connector

namespace Reference

open Connector

variable {s : Reference} {w : World}

/-- A result that is no breach of order is no refusal. -/
theorem isRefusal_of_isOrderly {result : Except Error Reply} (h : IsOrderly result) :
    isRefusal result = false := by
  unfold isRefusal
  split
  · exact absurd rfl (h .statementInFlight rfl)
  · rfl

/-- A statement whose answers are orderly is refused only when results are open. -/
theorem run_start_of_refusal {statement : String}
    {use : Http.Answer → Except Error Reply × Option OpenResults}
    (orderly : ∀ a, IsOrderly (use a).1)
    (h : isRefusal ((s.start statement use).run w).1.1 = true) :
    (s.start statement use).run w = ((.error .statementInFlight, s), w) := by
  unfold start at h ⊢
  cases hr : s.results with
  | none => simp [hr, isRefusal_of_isOrderly (orderly _)] at h
  | some o => simp

theorem run_consult_of_refusal {α : Type} {name : Catalog.RelationName} {statement : String}
    {ofRecords : List String → Except Error α} {reply : α → Reply}
    (orderly : ∀ records, IsOrderly (ofRecords records))
    (h : isRefusal ((s.consult name statement ofRecords reply).run w).1.1 = true) :
    (s.consult name statement ofRecords reply).run w = ((.error .statementInFlight, s), w) := by
  unfold consult at h ⊢
  split at h
  · rename_i e _ hname
    have hcheck := isRefusal_of_isOrderly (isOrderly_error (isOrderly_check name e hname))
    simp [hcheck] at h
  · exact run_start_of_refusal
      (fun a => ((failsOnly_recordsOf a).isOrderly.bind orderly).map reply) h

/-- A refused call sends nothing and leaves the automaton as it is. -/
theorem run_of_refusal {a : Action} (h : isRefusal ((s.perform a).run w).1.1 = true) :
    (s.perform a).run w = ((.error .statementInFlight, s), w) := by
  cases a with
  | effect statement =>
      exact run_start_of_refusal (fun a => (failsOnly_effectOf a).isOrderly.map _) h
  | results statement =>
      refine run_start_of_refusal (fun a => ?_) h
      have hbody := (failsOnly_bodyOf a).isOrderly
      cases hb : bodyOf a with
      | error fault => exact isOrderly_error (hbody fault hb)
      | ok body => exact isOrderly_ok _
  | next =>
      exfalso
      simp only [perform, next, Dialogue.run_done] at h
      split at h
      · simp [isRefusal] at h
      · split at h <;> simp [isRefusal, unreadable] at h
  | drain =>
      exfalso
      simp only [perform, drain, Dialogue.run_done] at h
      split at h
      · simp [isRefusal] at h
      · rename_i o _
        cases hall : o.left.all <;>
          simp [hall, isRefusal, Except.map, unreadable] at h
  | close => simp [perform, isRefusal] at h
  | primaryKey name => exact run_consult_of_refusal (isOrderly_keyOfRecords name) h
  | fields name => exact run_consult_of_refusal (isOrderly_fieldsOfRecords name) h

/-- A run without its refused calls goes as it did with them. -/
theorem run_session_kept (s : Reference) (calls : List Action) (w : World) :
    let run := (Dialogue.session perform s calls).run w
    let kept := (calls.zip run.1.1).filter fun turn => !isRefusal turn.2
    (Dialogue.session perform s (kept.map Prod.fst)).run w =
      ((kept.map Prod.snd, run.1.2), run.2) := by
  induction calls generalizing s w with
  | nil => rfl
  | cons a calls ih =>
      simp only [Dialogue.run_session_cons, List.zip_cons_cons, List.filter_cons]
      -- a refused call leaves the automaton and the world as they are: the rest goes on from there
      cases h : isRefusal ((s.perform a).run w).1.1 with
      | false =>
          simp only [Bool.not_false, if_true, List.map_cons, Dialogue.run_session_cons]
          rw [ih]
      | true =>
          simp only [Bool.not_true, Bool.false_eq_true, if_false]
          rw [run_of_refusal h]
          exact ih s w

end Reference

/-! ## The rules of one call -/

namespace Connector

/-- The rules for the next call of a connector in a world. -/
structure Disciplined (c : Connector) (w : World) : Prop where
  /-- The state of the cursor tells whether results are open. -/
  cursorState : c.cursorState = none ↔ c.isOpen = false
  /-- With open results a statement is refused: nothing is sent, and the results stay there. -/
  refused : c.isOpen = true → ∀ a : Action, a.startsStatement = true →
    (c.perform a).run w =
      ((.error .statementInFlight, { c with error := Error.statementInFlight.cause }), w)
  /-- A statement without records is sent once and leaves nothing open. -/
  effect : c.isOpen = false → ∀ statement,
    let run := (c.perform (.effect statement)).run w
    run.2 = w.posted (c.requestOf statement) ∧ run.1.2.isOpen = false
  /-- A statement with records is sent once; its results are open, and not read yet, exactly when
  the status is that of success. -/
  results : c.isOpen = false → ∀ statement,
    let run := (c.perform (.results statement)).run w
    let succeeds := ∃ body, w.answer (c.requestOf statement) = .response 200 body
    run.2 = w.posted (c.requestOf statement) ∧ (run.1.2.isOpen = true ↔ succeeds) ∧
      (run.1.2.cursorState = some .beforeResults ↔ succeeds)
  /-- The catalog is asked once, and only about a relation with a name; nothing stays open. -/
  catalog : c.isOpen = false → ∀ (a : Action) (name : Catalog.RelationName),
    a = .primaryKey name ∨ a = .fields name →
    let run := (c.perform a).run w
    run.1.2.isOpen = false ∧
      (name.scope = "" ∨ name.relation = "" → run.2 = w) ∧
      (name.scope ≠ "" → name.relation ≠ "" →
        ∃ statement, run.2 = w.posted (c.requestOf statement))
  /-- Results stay open exactly behind a record, inside of which the cursor then stands. -/
  next :
    let run := (c.perform .next).run w
    run.2 = w ∧ (run.1.2.isOpen = true ↔ ∃ record, run.1.1 = .ok (.record (some record))) ∧
      (run.1.2.isOpen = true → run.1.2.cursorState = some .insideResults) ∧
      (c.isOpen = false → run.1.1 = .ok (.record none))
  /-- Draining sends nothing and leaves nothing open. -/
  drain :
    let run := (c.perform .drain).run w
    run.2 = w ∧ run.1.2.isOpen = false
  /-- Closing sends nothing and leaves nothing open. -/
  close :
    let run := (c.perform .close).run w
    run.2 = w ∧ run.1.2.isOpen = false

variable {c : Connector} {w : World}

theorem results_eq_none_iff : c.results = none ↔ c.isOpen = false := by
  simp [isOpen]

/-- A call for a statement is refused while results are open. -/
theorem run_perform_of_open (h : c.isOpen = true) {a : Action} (ha : a.startsStatement = true) :
    (c.perform a).run w =
      ((.error .statementInFlight, { c with error := Error.statementInFlight.cause }), w) := by
  cases a with
  | effect statement => simp [perform, run_executeForEffect_of_open h, note_error, Except.map]
  | results statement => simp [perform, run_executeForResults_of_open h, note_error, Except.map]
  | primaryKey name =>
      simp [perform, primaryKey, run_discover_of_open h, note_error, Except.map]
  | fields name => simp [perform, fields, run_discover_of_open h, note_error, Except.map]
  | next => simp [Action.startsStatement] at ha
  | drain => simp [Action.startsStatement] at ha
  | close => simp [Action.startsStatement] at ha

theorem check_eq_ok_iff (name : Catalog.RelationName) :
    name.check = .ok () ↔ name.scope ≠ "" ∧ name.relation ≠ "" := by
  unfold Catalog.RelationName.check
  split <;> grind [String.isEmpty_iff]

/-- A catalog query of an idle connector, whatever is made of the records. -/
theorem run_discover_disciplined {α : Type} (h : c.results = none) (name : Catalog.RelationName)
    (statement : String) (ofRecords : List String → Except Error α) (w : World) :
    let run := (c.discover name statement ofRecords).run w
    run.1.2.results = none ∧
      (name.scope = "" ∨ name.relation = "" → run.2 = w) ∧
      (name.scope ≠ "" → name.relation ≠ "" →
        ∃ statement, run.2 = w.posted (c.requestOf statement)) := by
  have hcheck := check_eq_ok_iff name
  cases hname : name.check with
  | error e =>
      rw [hname] at hcheck
      simp only [run_discover_of_unnamed h hname, results_note, h, true_and]
      refine ⟨fun _ => trivial, fun hscope hrelation => ?_⟩
      simp [hscope, hrelation] at hcheck
  | ok u =>
      obtain ⟨hscope, hrelation⟩ := hcheck.1 hname
      simp only [run_discover_of_idle h hname, results_note, results_afterAnswer, h, true_and]
      exact ⟨by simp [hscope, hrelation], fun _ _ => ⟨statement, rfl⟩⟩

/-- The rules hold for every connector in every world. -/
theorem disciplined (c : Connector) (w : World) : c.Disciplined w where
  cursorState := by simp [cursorState, isOpen]
  refused h a ha := run_perform_of_open h ha
  effect h statement := by
    have hidle := results_eq_none_iff.2 h
    simp [perform, run_executeForEffect_of_idle hidle, isOpen, hidle]
  results h statement := by
    have hidle := results_eq_none_iff.2 h
    have hok := isOk_bodyOf_iff (w.answer (c.requestOf statement))
    simp only [perform, run_replying, run_executeForResults_of_idle hidle, ← hok, true_and]
    cases bodyOf (w.answer (c.requestOf statement)) <;>
      simp [isOpen, cursorState, hidle, Except.isOk, Except.toBool, ResultCursor.ofLines]
  catalog h a name ha := by
    have hidle := results_eq_none_iff.2 h
    rcases ha with rfl | rfl
    · have rules := run_discover_disciplined hidle name name.primaryKeyStatement
        (Catalog.keyOfRecords name) w
      simpa [perform, primaryKey, isOpen] using rules
    · have rules := run_discover_disciplined hidle name name.fieldsStatement
        (Catalog.fieldsOfRecords name) w
      simpa [perform, fields, isOpen] using rules
  next := by
    cases h : c.results with
    | none => simp [perform, nextResult_of_idle h, isOpen, h, Except.map]
    | some cursor =>
        rcases nextResult_of_open h with
          ⟨record, cursor', hstate, _, heq⟩ | ⟨_, heq⟩ | ⟨fault, _, heq⟩
        · simp [perform, heq, isOpen, h, Except.map, cursorState, hstate]
        · simp [perform, heq, isOpen, h, Except.map, close]
        · simp [perform, heq, isOpen, h, Except.map, close]
  drain := by
    cases h : c.results with
    | none => simp [perform, drainAll_of_idle h, isOpen, h]
    | some cursor => simp [perform, drainAll_of_open h, isOpen, close]
  close := by simp [perform, close, isOpen]

/-- At most one statement is in flight. A run of calls is a run of the reference automaton, with the
same replies and the same exchanges; without the refused calls it goes as it did with them; and
whatever connector it leads to keeps to the rules. -/
theorem at_most_one_statement_in_flight (c : Connector) (calls : List Action) (w : World) :
    let run := (Dialogue.session perform c calls).run w
    let kept := (calls.zip run.1.1).filter fun turn => !isRefusal turn.2
    let run' := (Dialogue.session perform c (kept.map Prod.fst)).run w
    (Dialogue.session Reference.perform c.reference calls).run w =
        ((run.1.1, run.1.2.reference), run.2) ∧
      (run'.1.1 = kept.map Prod.snd ∧ run'.1.2.reference = run.1.2.reference ∧ run'.2 = run.2) ∧
      run.1.2.Disciplined run.2 := by
  intro run kept run'
  have whole := run_session_reference c calls w
  have part := run_session_reference c (kept.map Prod.fst) w
  have without := Reference.run_session_kept c.reference calls w
  rw [whole] at without
  -- both runs are runs of the reference, where refused calls do not matter
  have same : ((run'.1.1, run'.1.2.reference), run'.2) =
      ((kept.map Prod.snd, run.1.2.reference), run.2) := part.symm.trans without
  simp only [Prod.mk.injEq] at same
  exact ⟨whole, ⟨same.1.1, same.1.2, same.2⟩, disciplined _ _⟩

end Connector

end SqlppBench
