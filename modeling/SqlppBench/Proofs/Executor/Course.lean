import SqlppBench.Proofs.Executor.Session

/-! # The course of a session

A session takes its course call by call, while the feed may reset its connections, go away and come
back between two calls. The course keeps, for every call, what was exchanged for it and how it left
the executor (`Turn`), so that a statement about calls can be made of all turns of a course.
`course_induction` carries an invariant along a course.
-/

namespace SqlppBench

/-- A request and its answer. -/
structure Exchange where
  request : Http.Request
  answer : Http.Answer

/-- The service has done what it was asked to: the status is that of success, and the body could be
read to its end. -/
def Exchange.IsAcknowledged (x : Exchange) : Prop :=
  ∃ body, x.answer = .response 200 body ∧ body.failure = none

/-- What a feed does by itself. -/
inductive FeedEvent where
  /-- It resets its connections. -/
  | reset
  /-- It goes away, or it comes back. -/
  | listening (yes : Bool)

namespace World

/-- The exchanges when some requests are posted one after the other. -/
def exchangesOf (w : World) : List Http.Request → List Exchange
  | [] => []
  | r :: rest => ⟨r, w.answer r⟩ :: (w.posted r).exchangesOf rest

/-- What was exchanged on the way to a later world. -/
def exchangesTo (w later : World) : List Exchange :=
  w.exchangesOf (later.sent.drop w.sent.length)

/-- The world after the feed did something. -/
def after (w : World) : FeedEvent → World
  | .reset => w.cut
  | .listening yes => { w with feedAccepts := yes }

theorem map_request_exchangesOf (w : World) (requests : List Http.Request) :
    (w.exchangesOf requests).map Exchange.request = requests := by
  induction requests generalizing w with
  | nil => rfl
  | cons r rest ih => rw [exchangesOf, List.map_cons, ih]

/-- The answers depend on nothing but the service and on what was sent before. -/
theorem exchangesOf_congr {w w' : World} (service : w.service = w'.service)
    (sent : w.sent = w'.sent) (requests : List Http.Request) :
    w.exchangesOf requests = w'.exchangesOf requests := by
  induction requests generalizing w w' with
  | nil => rfl
  | cons r rest ih =>
      have hposted : (w.posted r).exchangesOf rest = (w'.posted r).exchangesOf rest :=
        ih service (by simp [sent])
      rw [exchangesOf, exchangesOf, hposted, answer, answer, service, sent]

theorem exchangesOf_append (w : World) (requests others : List Http.Request) :
    w.exchangesOf (requests ++ others) =
      w.exchangesOf requests ++
        ({ w with sent := w.sent ++ requests } : World).exchangesOf others := by
  induction requests generalizing w with
  | nil => simp [exchangesOf]
  | cons r rest ih =>
      have hothers := @exchangesOf_congr { w.posted r with sent := (w.posted r).sent ++ rest }
        { w with sent := w.sent ++ r :: rest } rfl (by simp) others
      rw [List.cons_append, exchangesOf, exchangesOf, ih, hothers, List.cons_append]

/-- A later world, with all that was exchanged on the way to it. -/
structure Reaches (w : World) (exchanges : List Exchange) (later : World) : Prop where
  service : later.service = w.service
  sent : later.sent = w.sent ++ exchanges.map Exchange.request
  answers : w.exchangesOf (exchanges.map Exchange.request) = exchanges

theorem Reaches.refl (w : World) : w.Reaches [] w :=
  ⟨rfl, by simp, rfl⟩

/-- A statement may be logged before it is posted. -/
theorem reaches_posted (w : World) (isLogged : Bool) (operation : Operation) (text : String)
    (r : Http.Request) :
    w.Reaches [⟨r, w.answer r⟩] ((w.loggedIf isLogged operation text).posted r) := by
  refine ⟨?_, ?_, rfl⟩
  · unfold loggedIf
    split <;> rfl
  · rw [sent_posted, sent_loggedIf]
    rfl

theorem Reaches.trans {w w' w'' : World} {exchanges others : List Exchange}
    (first : w.Reaches exchanges w') (second : w'.Reaches others w'') :
    w.Reaches (exchanges ++ others) w'' := by
  refine ⟨second.service.trans first.service, ?_, ?_⟩
  · rw [second.sent, first.sent, List.map_append, List.append_assoc]
  · have hothers := @exchangesOf_congr
      { w with sent := w.sent ++ exchanges.map Exchange.request } w' first.service.symm
      first.sent.symm (others.map Exchange.request)
    rw [List.map_append, exchangesOf_append, first.answers, hothers, second.answers]

theorem Reaches.exchangesTo {w later : World} {exchanges : List Exchange}
    (h : w.Reaches exchanges later) : w.exchangesTo later = exchanges := by
  rw [World.exchangesTo, h.sent, List.drop_left, h.answers]

end World

namespace Executor

/-- What happens in a session: a call, or something that the feed does by itself. -/
inductive Event where
  | call (action : Action)
  | feed (event : FeedEvent)

/-- A call that took place. -/
structure Turn where
  before : Executor
  call : Action
  reply : Except Error Reply
  exchanges : List Exchange
  after : Executor

/-- The statements that were sent for a call. -/
def Turn.statements (t : Turn) : List String :=
  t.exchanges.map fun x => x.request.statement

/-- A call as it takes place in a world. -/
def turn (e : Executor) (w : World) (action : Action) : Turn :=
  let run := (e.perform action).run w
  ⟨e, action, run.1.1, w.exchangesTo run.2, run.1.2⟩

@[simp] theorem before_turn (e : Executor) (w : World) (action : Action) :
    (e.turn w action).before = e := rfl

@[simp] theorem call_turn (e : Executor) (w : World) (action : Action) :
    (e.turn w action).call = action := rfl

/-- The world behind a call. -/
def worldAfter (e : Executor) (w : World) (action : Action) : World :=
  ((e.perform action).run w).2

/-- The statements of a call are those that were sent meanwhile. -/
theorem statements_turn {e : Executor} {w : World} {action : Action} {statements : List String}
    (h : (e.worldAfter w action).statements = w.statements ++ statements) :
    (e.turn w action).statements = statements := by
  have hmap : (e.turn w action).statements =
      (((w.exchangesTo (e.worldAfter w action)).map Exchange.request).map
        Http.Request.statement) := by
    rw [List.map_map]
    rfl
  have hlength : w.sent.length = w.statements.length := by simp [World.statements]
  rw [hmap, World.exchangesTo, World.map_request_exchangesOf, List.map_drop, hlength]
  change (e.worldAfter w action).statements.drop w.statements.length = statements
  rw [h, List.drop_left]

/-- The calls of a session, and where it has come to. -/
structure Course where
  turns : List Turn
  executor : Executor
  world : World

/-- The course that a session takes. -/
def course (e : Executor) (w : World) : List Event → Course
  | [] => ⟨[], e, w⟩
  | .feed event :: rest => course e (w.after event) rest
  | .call action :: rest =>
    let others := course (e.turn w action).after (e.worldAfter w action) rest
    { others with turns := e.turn w action :: others.turns }

/-- An executor at some point of a session: it has connected, and calls were made since, whatever
the service and the feed did. -/
def Alive [Url.Idna] (config : ClientConfig) (e : Executor) : Prop :=
  ∃ w₀ e₀ w₁ events, (connect config).run w₀ = (.ok e₀, w₁) ∧ (course e₀ w₁ events).executor = e

/-- What every call and some events keep holds at the end of a course in which the feed does nothing
else, and what every call gives holds of all its turns. -/
theorem course_induction_of_allowed (Allowed : FeedEvent → Prop)
    (Inv : Executor → World → Prop) (Good : Turn → Prop)
    (event : ∀ e w event, Allowed event → Inv e w → Inv e (w.after event))
    (call : ∀ e w action, Inv e w →
      Good (e.turn w action) ∧ Inv (e.turn w action).after (e.worldAfter w action))
    {e : Executor} {w : World} (start : Inv e w) (events : List Event)
    (allowed : ∀ event, .feed event ∈ events → Allowed event) :
    (∀ t ∈ (course e w events).turns, Good t) ∧
      Inv (course e w events).executor (course e w events).world := by
  induction events generalizing e w with
  | nil => exact ⟨by simp [course], start⟩
  | cons first events ih =>
      have rest : ∀ event, .feed event ∈ events → Allowed event :=
        fun event h => allowed event (List.mem_cons_of_mem _ h)
      cases first with
      | feed happened =>
          exact ih (event e w happened (allowed happened (List.mem_cons_self ..)) start) rest
      | call action =>
          obtain ⟨good, next⟩ := call e w action start
          obtain ⟨others, last⟩ := ih next rest
          refine ⟨fun t ht => ?_, last⟩
          rcases List.mem_cons.1 ht with rfl | ht
          · exact good
          · exact others t ht

/-- What every call and every event keeps holds at the end of a course, and what every call gives
holds of all its turns. -/
theorem course_induction (Inv : Executor → World → Prop) (Good : Turn → Prop)
    (event : ∀ e w event, Inv e w → Inv e (w.after event))
    (call : ∀ e w action, Inv e w →
      Good (e.turn w action) ∧ Inv (e.turn w action).after (e.worldAfter w action))
    {e : Executor} {w : World} (start : Inv e w) (events : List Event) :
    (∀ t ∈ (course e w events).turns, Good t) ∧
      Inv (course e w events).executor (course e w events).world :=
  course_induction_of_allowed (fun _ => True) Inv Good (fun e w x _ => event e w x) call start
    events fun _ _ => trivial

/-- Whatever precedes a call, the rest of the course is the course from there. -/
theorem course_split (Inv : Executor → World → Prop)
    (event : ∀ e w event, Inv e w → Inv e (w.after event))
    (call : ∀ e w action, Inv e w → Inv (e.turn w action).after (e.worldAfter w action))
    {e : Executor} {w : World} (start : Inv e w) {events : List Event} {earlier later : List Turn}
    {t : Turn} (h : (course e w events).turns = earlier ++ t :: later) :
    ∃ w' rest, Inv t.before w' ∧
      course t.before w' rest = { course e w events with turns := t :: later } := by
  induction events generalizing e w earlier with
  | nil => simp [course] at h
  | cons first events ih =>
      cases first with
      | feed happened => exact ih (event e w happened start) h
      | call action =>
          cases earlier with
          | nil =>
              obtain ⟨rfl, -⟩ := List.cons.inj h
              refine ⟨w, .call action :: events, start, ?_⟩
              rw [← List.nil_append (_ :: later), ← h]
              rfl
          | cons made earlier => exact ih (call e w action start) (List.cons.inj h).2

end Executor

end SqlppBench
