import SqlppBench.Http.Answer
import SqlppBench.Http.Request
import SqlppBench.Operation

/-! # Dialogues with the world

A session asks the world for things: it posts requests, writes to a feed, logs and prints. What it
does next may depend on what comes back. A dialogue is the whole of this as a value, so that one and
the same session can be run over real sockets, or by a world that is itself a value, or in turns
with other sessions.

`run_bind` says that running two dialogues in sequence is to run one and then the other.
-/

namespace SqlppBench

/-- Names an open connection. -/
abbrev ConnectionId := Nat

/-- What a session asks of the world. -/
inductive Call where
  /-- Post a request. -/
  | request (r : Http.Request)
  /-- Open a connection to a feed. -/
  | connect (host : String) (port : Nat)
  /-- Write a text to a feed. -/
  | write (connection : ConnectionId) (text : String)
  /-- Close a connection. -/
  | close (connection : ConnectionId)
  /-- Write to the log of statements. -/
  | log (operation : Operation) (text : String)
  /-- Print a line. -/
  | print (line : String)

/-- What the world replies. A failure is given by its reason. -/
def Call.Reply : Call → Type
  | .request _ => Http.Answer
  | .connect .. => Except String ConnectionId
  | .write .. | .close _ => Except String Unit
  | .log .. | .print _ => Unit

/-- A computation that may call on the world. -/
inductive Dialogue (α : Type) where
  | done (a : α)
  | perform (call : Call) (next : call.Reply → Dialogue α)

namespace Dialogue

variable {α β : Type}

/-- One dialogue and then another, which may depend on what the first gave. -/
def bind : Dialogue α → (α → Dialogue β) → Dialogue β
  | .done a, f => f a
  | .perform call next, f => .perform call fun reply => (next reply).bind f

instance : Monad Dialogue where
  pure := .done
  bind := .bind

/-- A single call. -/
def ask (call : Call) : Dialogue call.Reply :=
  .perform call .done

@[simp] theorem done_bind (a : α) (f : α → Dialogue β) : (done a).bind f = f a := rfl

@[simp] theorem perform_bind (call : Call) (next : call.Reply → Dialogue α) (f : α → Dialogue β) :
    (perform call next).bind f = .perform call fun reply => (next reply).bind f := rfl

/-- One by one, the results of a dialogue for each item of a list. -/
def each (f : α → Dialogue β) : List α → Dialogue (List β)
  | [] => .done []
  | a :: rest => (f a).bind fun b => (each f rest).bind fun bs => .done (b :: bs)

/-! ## Turns -/

/-- Performs the next call of a dialogue, if there is one. -/
def step : Dialogue α → Dialogue (Dialogue α)
  | .done a => .done (.done a)
  | .perform call next => .perform call fun reply => .done (next reply)

/-- Performs the next call of the dialogue at a place of a list. -/
def stepAt : Nat → List (Dialogue α) → Dialogue (List (Dialogue α))
  | _, [] => .done []
  | 0, d :: ds => d.step.bind fun d => .done (d :: ds)
  | n + 1, d :: ds => (stepAt n ds).bind fun ds => .done (d :: ds)

/-- Several dialogues side by side. Each of the turns names the one that makes its next call; what
is left when the turns are over is done one dialogue after the other. -/
def interleave : List Nat → List (Dialogue α) → Dialogue (List α)
  | [], ds => each id ds
  | n :: turns, ds => (stepAt n ds).bind (interleave turns)

/-! ## Running over a handler -/

variable {σ : Type}

/-- Runs a dialogue on a state, by a function that answers each call and says how the state
changes. -/
def runWith (handle : (call : Call) → σ → call.Reply × σ) : Dialogue α → σ → α × σ
  | .done a, s => (a, s)
  | .perform call next, s =>
    let (reply, s) := handle call s
    runWith handle (next reply) s

@[simp] theorem runWith_done (handle : (call : Call) → σ → call.Reply × σ) (a : α) (s : σ) :
    (done a).runWith handle s = (a, s) := rfl

@[simp] theorem runWith_perform (handle : (call : Call) → σ → call.Reply × σ) (call : Call)
    (next : call.Reply → Dialogue α) (s : σ) :
    (perform call next).runWith handle s =
      (next (handle call s).1).runWith handle (handle call s).2 := rfl

theorem runWith_bind (handle : (call : Call) → σ → call.Reply × σ) (d : Dialogue α)
    (f : α → Dialogue β) (s : σ) :
    (d.bind f).runWith handle s =
      (f (d.runWith handle s).1).runWith handle (d.runWith handle s).2 := by
  induction d generalizing s with
  | done a => rfl
  | perform call next ih => exact ih _ _

end Dialogue

end SqlppBench
