import SqlppBench.Proofs.Connector.Discipline

/-! # What the accessors tell of a failure

A connector keeps the cause of its last failure, and `hasError` looks only at whether there is one.
So a failed call is noticed exactly when its cause is not empty. Of all the causes that a call can
have, only one is not made here: the message that the service puts into its answer. The accessors
therefore tell of a failed call unless it posted a request whose answer gives no reason
(`Http.Answer.GivesNoReason`), and such answers exist (`empty_message_hides_the_failure`).
-/

namespace SqlppBench

/-- An answer that is a failure and says nothing about it: nothing is known of why the connection
was dropped, or the message of the service is there and is empty. -/
def Http.Answer.GivesNoReason : Http.Answer → Prop
  | .dropped reason => reason = ""
  | .response status body => status ≠ 200 ∧ ServiceMessage.ofText? body.text = some ""

/-- Every phrase of the table says something. -/
theorem Http.phrase_ne_empty : ∀ entry ∈ Http.reasons, entry.2 ≠ "" := by
  decide

/-- There is a phrase for every status. -/
theorem Http.reason_ne_empty (status : Nat) : Http.reason status ≠ "" := by
  unfold Http.reason
  split
  · rename_i code phrase found
    exact Http.phrase_ne_empty _ (List.mem_of_find?_eq_some found)
  · decide

/-- What is said about an answer is empty only if its body says so. -/
theorem ServiceMessage.ofAnswer_eq_empty_iff (status : Nat) (body : Http.Body) :
    ServiceMessage.ofAnswer status body = "" ↔ ServiceMessage.ofText? body.text = some "" := by
  unfold ServiceMessage.ofAnswer
  cases ServiceMessage.ofText? body.text with
  | none => simpa using Http.reason_ne_empty status
  | some message => simp

namespace Connector

/-! ## Causes -/

/-- A result with a cause that says something, if it is a failure. -/
def IsExplained {α : Type} (result : Except Error α) : Prop :=
  FailsOnly (fun fault => fault.cause ≠ "") result

/-- A result that is explained unless the answer gives no reason. -/
def ExplainsAs {α : Type} (a : Http.Answer) (result : Except Error α) : Prop :=
  ∀ fault, result = .error fault → (fault.cause = "" ↔ a.GivesNoReason)

section Causes

variable {α β : Type} {a : Http.Answer}

theorem append_ne_empty {s : String} (h : s ≠ "") (t : String) : s ++ t ≠ "" := by
  simp [String.append_eq_empty_iff, h]

theorem cause_unreadable_ne_empty (reason : String) : (unreadable reason).cause ≠ "" :=
  append_ne_empty (by decide) reason

/-- An answer that is no success explains itself as far as it gives a reason. -/
theorem explainsAs_bodyOf (a : Http.Answer) : ExplainsAs a (bodyOf a) := by
  intro fault h
  cases a with
  | dropped reason =>
      obtain rfl : Error.transport reason = fault := by simpa [bodyOf] using h
      exact Iff.rfl
  | response status body =>
      by_cases hstatus : status = 200
      · simp [bodyOf, hstatus] at h
      · obtain rfl : Error.protocol (ServiceMessage.ofAnswer status body) = fault := by
          simpa [bodyOf, hstatus] using h
        simpa [Http.Answer.GivesNoReason, hstatus, Error.cause] using
          ServiceMessage.ofAnswer_eq_empty_iff status body

/-- A success gives no reason to look for one. -/
theorem not_givesNoReason_of_bodyOf {body : Http.Body} (h : bodyOf a = .ok body) :
    ¬ a.GivesNoReason := by
  cases a with
  | dropped reason => simp [bodyOf] at h
  | response status other =>
      rintro ⟨hstatus, -⟩
      simp [bodyOf, hstatus] at h

/-- What is made of a body explains itself if it explains itself for every body. -/
theorem ExplainsAs.of_body {use : Http.Body → Except Error β}
    (hu : ∀ body, IsExplained (use body)) :
    ExplainsAs a (match bodyOf a with
      | .error fault => .error fault
      | .ok body => use body) := by
  intro fault h
  cases hbody : bodyOf a with
  | error earlier =>
      obtain rfl : earlier = fault := by simpa [hbody] using h
      exact explainsAs_bodyOf a earlier hbody
  | ok body =>
      rw [hbody] at h
      exact iff_of_false (hu body fault h) (not_givesNoReason_of_bodyOf hbody)

theorem explainsAs_effectOf (a : Http.Answer) : ExplainsAs a (effectOf a) := by
  refine ExplainsAs.of_body fun body => ?_
  cases body.failure with
  | none => exact failsOnly_ok ()
  | some reason => exact failsOnly_error (cause_unreadable_ne_empty reason)

theorem isExplained_recordsOfBody (body : Http.Body) : IsExplained (recordsOfBody body) := by
  unfold recordsOfBody
  cases (ResultCursor.ofLines body.lines).remaining.all with
  | error fault => exact failsOnly_error (cause_unreadable_ne_empty fault.message)
  | ok records => exact failsOnly_ok records

/-- What is made of the records explains itself if it explains itself for all records. -/
theorem explainsAs_recordsOf_bind {ofRecords : List String → Except Error α}
    (hr : ∀ records, IsExplained (ofRecords records)) (a : Http.Answer) :
    ExplainsAs a ((recordsOf a).bind ofRecords) := by
  have hwhole : (recordsOf a).bind ofRecords = match bodyOf a with
      | .error fault => .error fault
      | .ok body => (recordsOfBody body).bind ofRecords := by
    unfold recordsOf
    cases bodyOf a <;> rfl
  rw [hwhole]
  exact ExplainsAs.of_body fun body => (isExplained_recordsOfBody body).bind hr

end Causes

/-! ## The catalog -/

theorem isExplained_check (name : Catalog.RelationName) : IsExplained name.check := by
  unfold Catalog.RelationName.check
  split
  · exact failsOnly_error (show _ ≠ "" by decide)
  · exact failsOnly_ok ()

theorem isExplained_itemsOf {α : Type} (reader : Json.Cursor → Json.Result α) (what : String)
    (records : List String) : IsExplained (Catalog.itemsOf reader what records) := by
  induction records with
  | nil => exact failsOnly_ok []
  | cons record records ih =>
      unfold Catalog.itemsOf
      split
      · refine failsOnly_error ?_
        simp only [Error.cause, String.append_assoc]
        exact append_ne_empty (by decide) _
      · exact ih.map _

theorem isExplained_keyOfPaths (name : Catalog.RelationName) (paths : List Catalog.KeyPath) :
    IsExplained (Catalog.keyOfPaths name paths) := by
  unfold Catalog.keyOfPaths
  split
  · exact failsOnly_error (append_ne_empty (by decide) _)
  · exact failsOnly_ok _
  · refine failsOnly_error ?_
    simp only [Error.cause, String.append_assoc]
    rw [Ne, String.append_eq_empty_iff]
    exact fun hempty => append_ne_empty (by decide) _ hempty.2

theorem isExplained_keyOfRecords (name : Catalog.RelationName) (records : List String) :
    IsExplained (Catalog.keyOfRecords name records) := by
  have hitems := isExplained_itemsOf (Json.list Json.anyText) "primary key" records
  unfold Catalog.keyOfRecords
  split
  · rename_i fault h
    exact failsOnly_error (hitems fault h)
  · exact isExplained_keyOfPaths name _

theorem isExplained_fieldsOfRecords (name : Catalog.RelationName) (records : List String) :
    IsExplained (Catalog.fieldsOfRecords name records) := by
  have hitems := isExplained_itemsOf (Json.record FieldInfo.reader) "field list" records
  unfold Catalog.fieldsOfRecords
  split
  · rename_i fault h
    exact failsOnly_error (hitems fault h)
  · exact failsOnly_error (append_ne_empty (by decide) _)
  · exact failsOnly_ok _

/-! ## The accessors -/

/-- Whether a request was posted between two worlds to which the answer gives no reason. -/
def LeftUnexplained (w w' : World) : Prop :=
  ∃ r, w' = w.posted r ∧ (w.answer r).GivesNoReason

/-- What the accessors tell after a call. -/
structure Telling (c : Connector) (a : Action) (w : World) : Prop where
  /-- The cause of a failure is kept, and both accessors tell of it unless it is unexplained. -/
  failed : ∀ fault,
    let run := (c.perform a).run w
    run.1.1 = .error fault →
      run.1.2.error = fault.cause ∧
        (run.1.2.hasError = true ∧ run.1.2.error ≠ "" ↔ ¬ LeftUnexplained w run.2)
  /-- Behind a success nothing is told, unless results were asked for that nobody had opened. -/
  succeeded : ∀ reply,
    let run := (c.perform a).run w
    run.1.1 = .ok reply → a ≠ .close →
      (run.1.2.hasError = true ↔ c.isOpen = false ∧ (a = .next ∨ a = .drain))
  /-- Closing is no call of the service: it changes nothing about what is told. -/
  closed :
    let run := (c.perform a).run w
    a = .close → run.1.2.error = c.error

theorem hasError_eq_true_iff (c : Connector) : c.hasError = true ↔ c.error ≠ "" := by
  simp [hasError]

/-- Without a request nothing is left unexplained. -/
theorem not_leftUnexplained_refl (w : World) : ¬ LeftUnexplained w w := by
  rintro ⟨r, hsame, -⟩
  have hlength := congrArg (fun w : World => w.sent.length) hsame
  simp at hlength

theorem leftUnexplained_posted_iff (w : World) (r : Http.Request) :
    LeftUnexplained w (w.posted r) ↔ (w.answer r).GivesNoReason := by
  constructor
  · rintro ⟨other, hsame, hanswer⟩
    have hsent := congrArg World.sent hsame
    simp only [World.sent_posted, List.append_cancel_left_eq, List.cons.injEq, and_true] at hsent
    rwa [hsent]
  · intro hanswer
    exact ⟨r, rfl, hanswer⟩

section Calls

variable {α : Type} {c : Connector} {a : Action} {w : World}

/-- A call that ends by noting its result keeps to the rules, if the result is explained as far as
the exchange explains it. -/
theorem telling_of_noted (result : Except Error α) {reply : α → Reply} {c' : Connector} {w' : World}
    (hrun : (c.perform a).run w = (((note result c').1.map reply, (note result c').2), w'))
    (loud : c.isOpen = true ∨ (a ≠ .next ∧ a ≠ .drain)) (hclose : a ≠ .close)
    (hexplained : ∀ fault, result = .error fault → (fault.cause = "" ↔ LeftUnexplained w w')) :
    c.Telling a w where
  failed fault h := by
    rw [hrun] at h ⊢
    cases result with
    | ok x => simp [note, Except.map] at h
    | error earlier =>
        obtain rfl : earlier = fault := by simpa [note, Except.map] using h
        have hcause := hexplained earlier rfl
        simp [note, hasError_eq_true_iff, ← hcause]
  succeeded reply h _ := by
    rw [hrun] at h ⊢
    cases result with
    | error fault => simp [note, Except.map] at h
    | ok x =>
        rcases loud with hopen | ⟨hnext, hdrain⟩
        · simp [note, hasError, hopen]
        · simp [note, hasError, hnext, hdrain]
  closed h := absurd h hclose

/-- A call that is refused because of open results is told of. -/
theorem telling_of_open (h : c.isOpen = true) (ha : a.startsStatement = true) : c.Telling a w := by
  have hclose : a ≠ .close := by
    rintro rfl
    simp [Action.startsStatement] at ha
  have hrun : (c.perform a).run w = (((note (.error .statementInFlight) c).1.map fun _ : Unit =>
      Reply.done, (note (.error .statementInFlight : Except Error Unit) c).2), w) :=
    run_perform_of_open h ha
  refine telling_of_noted (.error .statementInFlight) hrun (.inl h) hclose ?_
  rintro fault ⟨⟩
  exact iff_of_false (show Error.statementInFlight.cause ≠ "" by decide)
    (not_leftUnexplained_refl w)

/-- A catalog query is told of, whatever is made of the records. -/
theorem telling_of_discover {name : Catalog.RelationName} {statement : String}
    {ofRecords : List String → Except Error α} {reply : α → Reply} (h : c.results = none)
    (hperform : c.perform a = replying reply (c.discover name statement ofRecords))
    (ha : a.startsStatement = true) (hr : ∀ records, IsExplained (ofRecords records)) :
    c.Telling a w := by
  have loud : a ≠ .next ∧ a ≠ .drain ∧ a ≠ .close := by
    refine ⟨?_, ?_, ?_⟩ <;> rintro rfl <;> simp [Action.startsStatement] at ha
  cases hname : name.check with
  | error e =>
      have hrun := run_discover_of_unnamed h hname statement ofRecords w
      refine telling_of_noted (.error e) (by rw [hperform, run_replying, hrun])
        (.inr ⟨loud.1, loud.2.1⟩) loud.2.2 ?_
      rintro fault ⟨⟩
      exact iff_of_false (isExplained_check name e hname) (not_leftUnexplained_refl w)
  | ok u =>
      have hrun := run_discover_of_idle h hname statement ofRecords w
      refine telling_of_noted _ (by rw [hperform, run_replying, hrun]) (.inr ⟨loud.1, loud.2.1⟩)
        loud.2.2 ?_
      intro fault hfault
      rw [leftUnexplained_posted_iff]
      exact explainsAs_recordsOf_bind hr _ fault hfault

/-- A statement of an idle connector is told of. -/
theorem telling_of_idle (h : c.results = none) (ha : a.startsStatement = true) : c.Telling a w := by
  cases a with
  | effect statement =>
      refine telling_of_noted _ (by rw [perform, run_replying, run_executeForEffect_of_idle h])
        (.inr (by simp)) (by simp) ?_
      intro fault hfault
      rw [leftUnexplained_posted_iff]
      exact explainsAs_effectOf _ fault hfault
  | results statement =>
      have hrun := run_executeForResults_of_idle h statement w
      have hexplained := explainsAs_bodyOf (w.answer (c.requestOf statement))
      -- what is open behind the call depends on the answer, but what is noted does not
      cases hbody : bodyOf (w.answer (c.requestOf statement)) with
      | error fault =>
          rw [hbody] at hrun
          refine telling_of_noted (.error fault) (by rw [perform, run_replying, hrun])
            (.inr (by simp)) (by simp) ?_
          rintro other ⟨⟩
          rw [leftUnexplained_posted_iff]
          exact hexplained fault hbody
      | ok body =>
          rw [hbody] at hrun
          exact telling_of_noted (.ok ()) (by rw [perform, run_replying, hrun])
            (.inr (by simp)) (by simp) (fun fault hfault => by cases hfault)
  | primaryKey name => exact telling_of_discover h rfl rfl (isExplained_keyOfRecords name)
  | fields name => exact telling_of_discover h rfl rfl (isExplained_fieldsOfRecords name)
  | next => simp [Action.startsStatement] at ha
  | drain => simp [Action.startsStatement] at ha
  | close => simp [Action.startsStatement] at ha

/-- Without open results there is nothing to give, and the accessors say so. -/
theorem telling_of_nothing {reply : Reply}
    (hrun : (c.perform a).run w = ((.ok reply, { c with error := Error.noStatement.cause }), w))
    (h : c.results = none) (ha : a = .next ∨ a = .drain) : c.Telling a w where
  failed fault hfault := by simp [hrun] at hfault
  succeeded _ _ _ := by
    have hcause : Error.noStatement.cause ≠ "" := by decide
    simp [hrun, hasError, isOpen, h, ha, hcause]
  closed hclose := by
    rcases ha with rfl | rfl <;> cases hclose

/-- Reading a record is told of. -/
theorem telling_next (c : Connector) (w : World) : c.Telling .next w := by
  cases h : c.results with
  | none =>
      exact telling_of_nothing (by simp [perform, nextResult_of_idle h, Except.map]; rfl) h
        (.inl rfl)
  | some cursor =>
      have hopen : c.isOpen = true := by simp [isOpen, h]
      rcases nextResult_of_open h with ⟨record, cursor', -, -, heq⟩ | ⟨-, heq⟩ | ⟨fault, -, heq⟩
      · have hnote : c.nextResult =
            note (.ok (some record)) { c with results := some cursor' } := by
          rw [heq, note_ok]
        refine telling_of_noted (.ok (some record)) (by rw [perform, run_replying,
          Dialogue.run_done, hnote]) (.inl hopen) (by simp) ?_
        rintro fault ⟨⟩
      · refine telling_of_noted (.ok none) (by rw [perform, run_replying,
          Dialogue.run_done, heq]) (.inl hopen) (by simp) ?_
        rintro fault ⟨⟩
      · refine telling_of_noted _ (by rw [perform, run_replying, Dialogue.run_done, heq])
          (.inl hopen) (by simp) ?_
        rintro other ⟨⟩
        exact iff_of_false (cause_unreadable_ne_empty fault.message) (not_leftUnexplained_refl w)

/-- Reading all records is told of. -/
theorem telling_drain (c : Connector) (w : World) : c.Telling .drain w := by
  cases h : c.results with
  | none =>
      exact telling_of_nothing (by simp [perform, drainAll_of_idle h, Except.map]; rfl) h (.inr rfl)
  | some cursor =>
      have hopen : c.isOpen = true := by simp [isOpen, h]
      refine telling_of_noted _
        (by rw [perform, run_replying, Dialogue.run_done, drainAll_of_open h]) (.inl hopen)
        (by simp) ?_
      intro fault hfault
      cases hall : cursor.remaining.all with
      | ok records => simp [hall] at hfault
      | error broken =>
          obtain rfl : unreadable broken.message = fault := by simpa [hall] using hfault
          exact iff_of_false (cause_unreadable_ne_empty _) (not_leftUnexplained_refl w)

end Calls

/-- The accessors tell of a call whether it failed, whatever the connector has been through and
whatever the service answers, with two exceptions: a failure whose answer gives no reason for it
leaves them as a success does, and asking for results that nobody has opened leaves them as a
failure does, although it is none. -/
theorem accessors_tell_of_failures (c : Connector) (a : Action) (w : World) : c.Telling a w := by
  cases a with
  | next => exact telling_next c w
  | drain => exact telling_drain c w
  | close => exact ⟨fun _ h => by simp [perform] at h, fun _ _ h => absurd rfl h, fun _ => rfl⟩
  | effect _ | results _ | primaryKey _ | fields _ =>
      cases hopen : c.isOpen with
      | true => exact telling_of_open hopen rfl
      | false => exact telling_of_idle (results_eq_none_iff.2 hopen) rfl

/-- A refusal with an empty message. -/
def emptyRefusal : Http.Answer :=
  .response 500 ⟨Utf8.encode "\x7b\"msg\": \"\"\x7d", none⟩

theorem effectOf_emptyRefusal : effectOf emptyRefusal = .error (.protocol "") := by
  have hmessage : ServiceMessage.ofAnswer 500 ⟨Utf8.encode "\x7b\"msg\": \"\"\x7d", none⟩ = "" := by
    decide +kernel
  simp [effectOf, bodyOf, emptyRefusal, hmessage]

/-- An empty message in the answer hides the failure of a statement. -/
theorem empty_message_hides_the_failure :
    ∃ c, ofUrl "http://[::1]" = .ok c ∧
      let run := (c.perform (.effect "SELECT 1;")).run (.scripted [emptyRefusal])
      run.1.1 = .error (.protocol "") ∧ run.1.2.hasError = false ∧ run.1.2.error = "" := by
  obtain ⟨c, hurl, hidle⟩ : ∃ c, ofUrl "http://[::1]" = .ok c ∧ c.results = none := ⟨_, rfl, rfl⟩
  refine ⟨c, hurl, ?_⟩
  have hanswer :
      (World.scripted [emptyRefusal]).answer (c.requestOf "SELECT 1;") = emptyRefusal := rfl
  simp only [perform, run_replying, run_executeForEffect_of_idle hidle, hanswer,
    effectOf_emptyRefusal]
  exact ⟨rfl, rfl, rfl⟩

end Connector

end SqlppBench
