import SqlppBench.Proofs.Connector.Remaining
import SqlppBench.Proofs.Session

/-! # Statements of a connector in a world

What each statement of a connector does when it is run in a world, as one equation for an idle
connector and one for a connector with open results. An idle connector posts one request, and the
answer alone decides the result (`effectOf`, `recordsOf`); with open results nothing is posted and
nothing but the noted cause changes.
-/

namespace SqlppBench

/-! ## Kinds of failures -/

/-- If the result is a failure, it is one of these. -/
def FailsOnly {α : Type} (among : Error → Prop) (result : Except Error α) : Prop :=
  ∀ fault, result = .error fault → among fault

/-- A failure that says nothing about the next statement: neither the configuration nor the order of
the statements is wrong. -/
def Error.IsPassing (fault : Error) : Prop :=
  fault.kind ≠ .configuration ∧ fault.kind ≠ .discipline

/-- A result that is no breach of the order of statements: neither was a statement started while
results were open, nor were results asked for without a statement. -/
def IsOrderly {α : Type} (result : Except Error α) : Prop :=
  ∀ fault, result = .error fault → fault.kind ≠ .discipline

section Results

variable {α β : Type} {among : Error → Prop} {result : Except Error α}

theorem failsOnly_ok (a : α) : FailsOnly among (.ok a : Except Error α) := by
  intro fault h
  cases h

theorem failsOnly_error {fault : Error} (h : among fault) :
    FailsOnly among (.error fault : Except Error α) := by
  rintro other ⟨⟩
  exact h

theorem FailsOnly.map (h : FailsOnly among result) (f : α → β) :
    FailsOnly among (result.map f) := by
  cases result with
  | error fault => exact failsOnly_error (h fault rfl)
  | ok a => exact failsOnly_ok (f a)

theorem FailsOnly.bind (h : FailsOnly among result) {f : α → Except Error β}
    (hf : ∀ a, FailsOnly among (f a)) : FailsOnly among (result.bind f) := by
  cases result with
  | error fault => exact failsOnly_error (h fault rfl)
  | ok a => exact hf a

theorem isOrderly_ok (a : α) : IsOrderly (.ok a : Except Error α) :=
  failsOnly_ok a

/-- A fault of another kind is no breach of order. -/
theorem isOrderly_error {fault : Error} (h : fault.kind ≠ .discipline) :
    IsOrderly (.error fault : Except Error α) :=
  failsOnly_error h

theorem IsOrderly.map (h : IsOrderly result) (f : α → β) : IsOrderly (result.map f) :=
  FailsOnly.map h f

theorem IsOrderly.bind (h : IsOrderly result) {f : α → Except Error β}
    (hf : ∀ a, IsOrderly (f a)) : IsOrderly (result.bind f) :=
  FailsOnly.bind h hf

/-- A passing failure is no breach of order. -/
theorem FailsOnly.isOrderly (h : FailsOnly Error.IsPassing result) : IsOrderly result :=
  fun fault hfault => (h fault hfault).2

/-- Such a result tells of neither breach. -/
theorem IsOrderly.ne_breach (h : IsOrderly result) :
    result ≠ .error .statementInFlight ∧ result ≠ .error .noStatement :=
  ⟨fun heq => h _ heq rfl, fun heq => h _ heq rfl⟩

end Results

namespace Connector

variable {c : Connector}

theorem note_ok {α : Type} (a : α) (c : Connector) :
    note (.ok a) c = (.ok a, { c with error := "" }) := rfl

theorem note_error {α : Type} (e : Error) (c : Connector) :
    (note (.error e) c : Except Error α × Connector) = (.error e, { c with error := e.cause }) :=
  rfl

/-- A result is passed on as it is. -/
@[simp] theorem note_fst {α : Type} (result : Except Error α) (c : Connector) :
    (note result c).1 = result := by
  cases result <;> rfl

@[simp] theorem results_note {α : Type} (result : Except Error α) (c : Connector) :
    (note result c).2.results = c.results := by
  cases result <;> rfl

@[simp] theorem endpoint_note {α : Type} (result : Except Error α) (c : Connector) :
    (note result c).2.endpoint = c.endpoint := by
  cases result <;> rfl

@[simp] theorem results_afterAnswer (c : Connector) (a : Http.Answer) :
    (c.afterAnswer a).results = c.results := by
  cases a <;> rfl

@[simp] theorem endpoint_afterAnswer (c : Connector) (a : Http.Answer) :
    (c.afterAnswer a).endpoint = c.endpoint := by
  cases a <;> rfl

/-- A noted result does not tell what was noted before. -/
theorem note_congr {α : Type} (result : Except Error α) {c c' : Connector}
    (h : { c with error := "" } = { c' with error := "" }) : note result c = note result c' := by
  obtain ⟨endpoint, results, error, answered⟩ := c
  obtain ⟨endpoint', results', error', answered'⟩ := c'
  simp only [Connector.mk.injEq, true_and] at h
  obtain ⟨rfl, rfl, rfl⟩ := h
  cases result <;> rfl

/-! ## What an answer means -/

/-- The result of a statement without records. -/
def effectOf (a : Http.Answer) : Except Error Unit :=
  match bodyOf a with
  | .error e => .error e
  | .ok body =>
    match body.failure with
    | some reason => .error (unreadable reason)
    | none => .ok ()

/-- The records of a body that is read to its end. -/
def recordsOfBody (body : Http.Body) : Except Error (List String) :=
  (ResultCursor.ofLines body.lines).remaining.all.mapError fun fault => unreadable fault.message

/-- The records of an answer that is read to its end. -/
def recordsOf (a : Http.Answer) : Except Error (List String) :=
  match bodyOf a with
  | .error e => .error e
  | .ok body => recordsOfBody body

/-- An answer is a passing failure at most, whatever it says. -/
theorem failsOnly_bodyOf (a : Http.Answer) : FailsOnly Error.IsPassing (bodyOf a) := by
  cases a with
  | dropped reason => exact failsOnly_error (by simp [Error.IsPassing, Error.kind])
  | response status body =>
      rw [bodyOf]
      split
      · exact failsOnly_ok body
      · exact failsOnly_error (by simp [Error.IsPassing, Error.kind])

theorem failsOnly_effectOf (a : Http.Answer) : FailsOnly Error.IsPassing (effectOf a) := by
  have hbody := failsOnly_bodyOf a
  unfold effectOf
  split
  · rename_i fault h
    exact failsOnly_error (hbody fault h)
  · split
    · exact failsOnly_error (by simp [unreadable, Error.IsPassing, Error.kind])
    · exact failsOnly_ok ()

theorem failsOnly_recordsOf (a : Http.Answer) : FailsOnly Error.IsPassing (recordsOf a) := by
  have hbody := failsOnly_bodyOf a
  unfold recordsOf
  split
  · rename_i fault h
    exact failsOnly_error (hbody fault h)
  · rename_i body _
    unfold recordsOfBody
    cases (ResultCursor.ofLines body.lines).remaining.all with
    | error fault => exact failsOnly_error (by simp [unreadable, Error.IsPassing, Error.kind])
    | ok records => exact failsOnly_ok records

/-- An answer has a body to read exactly when its status is that of success. -/
theorem isOk_bodyOf_iff (a : Http.Answer) :
    (bodyOf a).isOk = true ↔ ∃ body, a = .response 200 body := by
  cases a with
  | dropped reason => simp [bodyOf, Except.isOk, Except.toBool]
  | response status body =>
      by_cases h : status = 200 <;> simp [bodyOf, h, Except.isOk, Except.toBool]

/-! ## Statements -/

/-- The request that a statement is posted in. -/
def requestOf (c : Connector) (statement : String) : Http.Request :=
  ⟨c.endpoint, statement⟩

/-- With open results no statement is sent. -/
theorem run_executeForEffect_of_open (h : c.isOpen = true) (statement : String) (w : World) :
    (c.executeForEffect statement).run w = (note (.error .statementInFlight) c, w) := by
  simp [executeForEffect, send, h]

/-- With open results no statement is sent. -/
theorem run_executeForResults_of_open (h : c.isOpen = true) (statement : String) (w : World) :
    (c.executeForResults statement).run w = (note (.error .statementInFlight) c, w) := by
  simp [executeForResults, openResults, send, h]

/-- With open results the catalog is not asked. -/
theorem run_discover_of_open {α : Type} (h : c.isOpen = true) (name : Catalog.RelationName)
    (statement : String) (ofRecords : List String → Except Error α) (w : World) :
    (c.discover name statement ofRecords).run w = (note (.error .statementInFlight) c, w) := by
  simp [discover, h]

/-- An idle connector posts one request, and the answer to it decides the result. -/
theorem executeForEffect_of_idle (h : c.results = none) (statement : String) :
    c.executeForEffect statement =
      .perform (.request (c.requestOf statement)) fun a =>
        .done (note (effectOf a) (c.afterAnswer a)) := by
  have hclosed : c.isOpen = false := by simp [isOpen, h]
  simp only [executeForEffect, send, hclosed, Bool.false_eq_true, if_false, Dialogue.perform_bind,
    requestOf, effectOf]
  congr 1
  funext a
  cases bodyOf a with
  | error e => rfl
  | ok body => cases hf : body.failure <;> simp [hf]

/-- An idle connector sends a statement and reads the answer to its end. -/
theorem run_executeForEffect_of_idle (h : c.results = none) (statement : String) (w : World) :
    (c.executeForEffect statement).run w =
      (note (effectOf (w.answer (c.requestOf statement)))
          (c.afterAnswer (w.answer (c.requestOf statement))),
        w.posted (c.requestOf statement)) := by
  rw [executeForEffect_of_idle h]
  rfl

/-- An idle connector posts one request and opens the results of the answer, if there are any. -/
theorem executeForResults_of_idle (h : c.results = none) (statement : String) :
    c.executeForResults statement =
      .perform (.request (c.requestOf statement)) fun a =>
        .done (match bodyOf a with
          | .error e => note (.error e) (c.afterAnswer a)
          | .ok body =>
            note (.ok ()) { c.afterAnswer a with results := some (.ofLines body.lines) }) := by
  have hclosed : c.isOpen = false := by simp [isOpen, h]
  simp only [executeForResults, openResults, send, hclosed, Bool.false_eq_true, if_false,
    Dialogue.perform_bind, requestOf]
  congr 1
  funext a
  cases bodyOf a <;> rfl

/-- An idle connector sends a statement and leaves its results open if there are any. -/
theorem run_executeForResults_of_idle (h : c.results = none) (statement : String) (w : World) :
    (c.executeForResults statement).run w =
      (match bodyOf (w.answer (c.requestOf statement)) with
        | .error e => note (.error e) (c.afterAnswer (w.answer (c.requestOf statement)))
        | .ok body =>
          note (.ok ()) { c.afterAnswer (w.answer (c.requestOf statement)) with
            results := some (.ofLines body.lines) },
        w.posted (c.requestOf statement)) := by
  rw [executeForResults_of_idle h]
  rfl

/-- Without the names of a scope and a relation the catalog is not asked. -/
theorem discover_of_unnamed {α : Type} (h : c.results = none) {name : Catalog.RelationName}
    {e : Error} (unnamed : name.check = .error e) (statement : String)
    (ofRecords : List String → Except Error α) :
    c.discover name statement ofRecords = .done (note (.error e) c) := by
  have hclosed : c.isOpen = false := by simp [isOpen, h]
  have hclose : c.close = c := by
    obtain ⟨endpoint, results, error, answered⟩ := c
    simp_all [close]
  simp [discover, hclosed, unnamed, hclose]

/-- Without the names of a scope and a relation nothing is posted. -/
theorem run_discover_of_unnamed {α : Type} (h : c.results = none) {name : Catalog.RelationName}
    {e : Error} (unnamed : name.check = .error e) (statement : String)
    (ofRecords : List String → Except Error α) (w : World) :
    (c.discover name statement ofRecords).run w = (note (.error e) c, w) := by
  rw [discover_of_unnamed h unnamed]
  rfl

/-- An idle connector posts one request to the catalog, and the answer to it decides the result. -/
theorem discover_of_idle {α : Type} (h : c.results = none) {name : Catalog.RelationName}
    (named : name.check = .ok ()) (statement : String)
    (ofRecords : List String → Except Error α) :
    c.discover name statement ofRecords =
      .perform (.request (c.requestOf statement)) fun a =>
        .done (note ((recordsOf a).bind ofRecords) (c.afterAnswer a)) := by
  have hclosed : c.isOpen = false := by simp [isOpen, h]
  have hclose (a : Http.Answer) : (c.afterAnswer a).close = c.afterAnswer a := by
    cases a <;> cases c <;> simp_all [close, afterAnswer]
  simp only [discover, hclosed, Bool.false_eq_true, if_false, named, openResults, send,
    Dialogue.perform_bind, requestOf, recordsOf]
  congr 1
  funext a
  change Http.Answer at a
  cases bodyOf a with
  | error e => simp [hclose, Except.bind]
  | ok body =>
      -- the results are opened and drained at once, so nothing stays open
      have hdrain := drainAll_of_open (c := { c.afterAnswer a with
        results := some (.ofLines body.lines) }) rfl
      simp only [Dialogue.done_bind, Except.bind, recordsOfBody]
      rw [hdrain]
      cases hall : (ResultCursor.ofLines body.lines).remaining.all with
      | error fault =>
          simp only [mapError_error, note_error]
          simp [close, ← h]
      | ok records =>
          simp only [mapError_ok, note_ok]
          refine congrArg Dialogue.done (note_congr _ ?_)
          simp [close, ← h]

/-- An idle connector asks the catalog once, reads the answer to its end and is idle again. -/
theorem run_discover_of_idle {α : Type} (h : c.results = none) {name : Catalog.RelationName}
    (named : name.check = .ok ()) (statement : String) (ofRecords : List String → Except Error α)
    (w : World) :
    (c.discover name statement ofRecords).run w =
      (note ((recordsOf (w.answer (c.requestOf statement))).bind ofRecords)
          (c.afterAnswer (w.answer (c.requestOf statement))),
        w.posted (c.requestOf statement)) := by
  rw [discover_of_idle h named]
  rfl

/-- A catalog query leaves nothing open. -/
theorem results_run_discover {α : Type} (h : c.results = none) (name : Catalog.RelationName)
    (statement : String) (ofRecords : List String → Except Error α) (w : World) :
    ((c.discover name statement ofRecords).run w).1.2.results = none := by
  cases hname : name.check with
  | error e => simp [run_discover_of_unnamed h hname, h]
  | ok u => simp [run_discover_of_idle h hname, h]

end Connector

end SqlppBench
