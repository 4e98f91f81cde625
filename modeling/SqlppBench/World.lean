import SqlppBench.Dialogue

/-! # A world that is a value

A query service that answers each request by a function of the requests so far, a feed that accepts
connections or does not, a log and a terminal. A write on a live connection of the feed delivers the
whole text; a write on a connection that was reset delivers nothing and fails.
-/

namespace SqlppBench

/-- A connection to the feed, as the feed sees it. -/
structure FeedConnection where
  isLive : Bool := true
  /-- The text that arrived. -/
  text : String := ""
deriving DecidableEq, Repr

/-- The lines that arrived, without one that is not ended. -/
def FeedConnection.lines (c : FeedConnection) : List String :=
  (Text.piecesBy (· == '\n') c.text.toList).dropLast.map String.ofList

/-- A world for sessions to run in. -/
structure World where
  /-- The answer to a request, given the requests before it. -/
  service : List Http.Request → Http.Request → Http.Answer
  /-- Whether the feed accepts connections. -/
  feedAccepts : Bool := false
  /-- The requests that were posted, in their order. -/
  sent : List Http.Request := []
  /-- The connections that the feed accepted, in their order. -/
  feed : List FeedConnection := []
  /-- What was logged, in its order. -/
  logged : List (Operation × String) := []
  /-- The lines that were printed, in their order. -/
  printed : List String := []

namespace World

/-- What is said when nothing listens. -/
def refused : String := "Connection refused (os error 111)"

/-- What is said when a connection was reset. -/
def reset : String := "Connection reset by peer (os error 104)"

/-- Answers a call. -/
def handle : (call : Call) → World → call.Reply × World
  | .request r, w => (w.service w.sent r, { w with sent := w.sent ++ [r] })
  | .connect _ _, w =>
    if w.feedAccepts then (.ok w.feed.length, { w with feed := w.feed ++ [{}] })
    else (.error refused, w)
  | .write id text, w =>
    match w.feed[id]? with
    | some c =>
      if c.isLive then
        (.ok (), { w with feed := w.feed.set id { c with text := c.text ++ text } })
      else (.error reset, w)
    | none => (.error reset, w)
  | .close _, w => (.ok (), w)
  | .log operation text, w => ((), { w with logged := w.logged ++ [(operation, text)] })
  | .print line, w => ((), { w with printed := w.printed ++ [line] })

/-- All lines that the feed received, in the order of its connections. -/
def received (w : World) : List String :=
  w.feed.flatMap FeedConnection.lines

/-- The feed resets all its connections. -/
def cut (w : World) : World :=
  { w with feed := w.feed.map fun c => { c with isLive := false } }

end World

/-- Runs a dialogue in a world. -/
def Dialogue.run {α : Type} (d : Dialogue α) (w : World) : α × World :=
  d.runWith World.handle w

@[simp] theorem Dialogue.run_done {α : Type} (a : α) (w : World) :
    (Dialogue.done a).run w = (a, w) := rfl

@[simp] theorem Dialogue.run_perform {α : Type} (call : Call) (next : call.Reply → Dialogue α)
    (w : World) :
    (Dialogue.perform call next).run w =
      (next (World.handle call w).1).run (World.handle call w).2 := rfl

theorem Dialogue.run_bind {α β : Type} (d : Dialogue α) (f : α → Dialogue β) (w : World) :
    (d.bind f).run w = (f (d.run w).1).run (d.run w).2 :=
  d.runWith_bind World.handle f w

end SqlppBench
