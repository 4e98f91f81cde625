import SqlppBench.World

/-! # Sessions in a world

A session is a list of calls on a state that each of them may change. `run_session_cons` opens the
run of a session at its first call, and `session_induction` carries an invariant from one call to
the whole run: the invariant may speak of the calls made so far, of the state and of the world.
-/

namespace SqlppBench

namespace World

/-- The answer that a request gets when it is posted now. -/
def answer (w : World) (r : Http.Request) : Http.Answer :=
  w.service w.sent r

/-- The world once a request was posted. -/
def posted (w : World) (r : Http.Request) : World :=
  { w with sent := w.sent ++ [r] }

@[simp] theorem sent_posted (w : World) (r : Http.Request) :
    (w.posted r).sent = w.sent ++ [r] := rfl

@[simp] theorem handle_request (w : World) (r : Http.Request) :
    handle (.request r) w = (w.answer r, w.posted r) := rfl

/-- Nothing but a request is sent. -/
theorem sent_handle {call : Call} (h : ∀ r, call ≠ .request r) (w : World) :
    (handle call w).2.sent = w.sent := by
  cases call with
  | request r => exact absurd rfl (h r)
  | connect host port =>
      simp only [handle]
      split <;> rfl
  | write id line =>
      simp only [handle]
      split
      · split <;> rfl
      · rfl
  | close id => rfl
  | log operation text => rfl
  | print line => rfl

/-- The service stays the same, whatever is called for. -/
@[simp] theorem service_handle (call : Call) (w : World) :
    (handle call w).2.service = w.service := by
  cases call with
  | request r => rfl
  | connect host port =>
      simp only [handle]
      split <;> rfl
  | write id line =>
      simp only [handle]
      split
      · split <;> rfl
      · rfl
  | close id => rfl
  | log operation text => rfl
  | print line => rfl

/-- The world once a statement was logged, if it is one of those that are. -/
def loggedIf (w : World) (isLogged : Bool) (operation : Operation) (text : String) : World :=
  if isLogged then { w with logged := w.logged ++ [(operation, text)] } else w

@[simp] theorem sent_loggedIf (w : World) (b : Bool) (operation : Operation) (text : String) :
    (w.loggedIf b operation text).sent = w.sent := by
  unfold loggedIf
  split <;> rfl

@[simp] theorem answer_loggedIf (w : World) (b : Bool) (operation : Operation) (text : String) :
    (w.loggedIf b operation text).answer = w.answer := by
  unfold loggedIf
  split <;> rfl

/-- A world whose service gives some answers, one after the other, and then drops connections. -/
def scripted (answers : List Http.Answer) : World where
  service earlier _ := answers.getD earlier.length (.dropped reset)

/-- A world whose service answers each request by a function of its statement. -/
def answering (f : String → Http.Answer) : World where
  service _ r := f r.statement

/-- The statements that were sent, in their order. -/
def statements (w : World) : List String :=
  w.sent.map Http.Request.statement

@[simp] theorem statements_posted (w : World) (r : Http.Request) :
    (w.posted r).statements = w.statements ++ [r.statement] := by
  simp [statements]

@[simp] theorem statements_loggedIf (w : World) (b : Bool) (operation : Operation)
    (text : String) : (w.loggedIf b operation text).statements = w.statements := by
  simp [statements]

end World

namespace Dialogue

variable {σ α ρ : Type}

/-- One call after another; the replies are in the order of the calls. -/
def session (perform : σ → α → Dialogue (ρ × σ)) (s : σ) : List α → Dialogue (List ρ × σ)
  | [] => .done ([], s)
  | a :: rest =>
    (perform s a).bind fun (reply, s) =>
      (session perform s rest).bind fun (replies, s) => .done (reply :: replies, s)

@[simp] theorem run_session_nil (perform : σ → α → Dialogue (ρ × σ)) (s : σ) (w : World) :
    (session perform s []).run w = (([], s), w) := rfl

/-- The first call of a session, and then the others from where it leaves the state. -/
theorem run_session_cons (perform : σ → α → Dialogue (ρ × σ)) (s : σ) (a : α) (rest : List α)
    (w : World) :
    (session perform s (a :: rest)).run w =
      let first := (perform s a).run w
      let others := (session perform first.1.2 rest).run first.2
      ((first.1.1 :: others.1.1, others.1.2), others.2) := by
  simp only [session, run_bind, run_done]

/-- A session of one call is that call. -/
theorem run_session_singleton (perform : σ → α → Dialogue (ρ × σ)) (s : σ) (a : α) (w : World) :
    (session perform s [a]).run w =
      let only := (perform s a).run w
      (([only.1.1], only.1.2), only.2) := by
  rw [run_session_cons]
  rfl

/-- A session of two parts is the one part and then the other. -/
theorem run_session_append (perform : σ → α → Dialogue (ρ × σ)) (s : σ) (before after : List α)
    (w : World) :
    (session perform s (before ++ after)).run w =
      let first := (session perform s before).run w
      let others := (session perform first.1.2 after).run first.2
      ((first.1.1 ++ others.1.1, others.1.2), others.2) := by
  induction before generalizing s w with
  | nil => rfl
  | cons a before ih => simp only [List.cons_append, run_session_cons, ih]

/-- What every call keeps, a session keeps: an invariant of the calls so far, the state and the
world. -/
theorem session_induction {perform : σ → α → Dialogue (ρ × σ)}
    {Holds : List α → σ → World → Prop}
    (step : ∀ earlier s w a, Holds earlier s w →
      Holds (earlier ++ [a]) ((perform s a).run w).1.2 ((perform s a).run w).2)
    {earlier : List α} {s : σ} {w : World} (start : Holds earlier s w) (calls : List α) :
    Holds (earlier ++ calls) ((session perform s calls).run w).1.2
      ((session perform s calls).run w).2 := by
  induction calls generalizing earlier s w with
  | nil => simpa using start
  | cons a calls ih =>
      have first := step earlier s w a start
      simpa [run_session_cons] using ih first

end Dialogue

end SqlppBench
