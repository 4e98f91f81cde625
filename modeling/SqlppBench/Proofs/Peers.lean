import SqlppBench.Proofs.Transcript

/-! # Dialogues with peers

The service and the feed are the peers of a session. They may reply in any way that depends on what
was said to them so far (`Peers`); the log of statements is for the reader of the log alone, so
nothing that is written there is among it (`heardIn`).

A dialogue without its log calls (`quiet`) therefore gets the same replies as with them: it says the
same to its peers (`saidTo_quiet`) and gives the same result (`resultTo_quiet`).
-/

namespace SqlppBench

/-- Whether a call writes to the log of statements. -/
def Call.isLog : Call → Bool
  | .log .. => true
  | .request _ | .connect .. | .write .. | .close _ | .print _ => false

/-- What is written to the log with a call. -/
def Said.logged? : Said → Option (Operation × String)
  | ⟨.log operation text, _⟩ => some (operation, text)
  | ⟨.request _, _⟩ | ⟨.connect .., _⟩ | ⟨.write .., _⟩ | ⟨.close _, _⟩ | ⟨.print _, _⟩ => none

/-- What is written to the log in a transcript. -/
def loggedIn (t : List Said) : List (Operation × String) :=
  t.filterMap Said.logged?

/-- What the peers hear of a transcript: everything but the log. -/
def heardIn (t : List Said) : List Said :=
  t.filter fun x => !x.call.isLog

@[simp] theorem loggedIn_append (t t' : List Said) :
    loggedIn (t ++ t') = loggedIn t ++ loggedIn t' :=
  List.filterMap_append

@[simp] theorem heardIn_heardIn (t : List Said) : heardIn (heardIn t) = heardIn t := by
  simp [heardIn]

/-- The log call of a transcript is what is written to the log with it. -/
theorem Said.isSome_logged? (x : Said) : x.logged?.isSome = x.call.isLog := by
  obtain ⟨call, reply⟩ := x
  cases call <;> rfl

/-- The peers hear nothing of the log. -/
@[simp] theorem loggedIn_heardIn (t : List Said) : loggedIn (heardIn t) = [] := by
  refine List.filterMap_eq_nil_iff.2 fun x hx => ?_
  have silent := (List.mem_filter.1 hx).2
  rw [← Said.isSome_logged?] at silent
  simpa using silent

/-- Where nothing is logged, the peers hear everything. -/
theorem heardIn_of_loggedIn_eq_nil {t : List Said} (h : loggedIn t = []) : heardIn t = t := by
  refine List.filter_eq_self.2 fun x hx => ?_
  rw [← Said.isSome_logged?, List.filterMap_eq_nil_iff.1 h x hx]
  rfl

/-- How the peers of a session reply to a call, by what they have heard before it. -/
def Peers := List Said → (call : Call) → call.Reply

/-- Peers who have heard some things reply as in a transcript. -/
def Peers.Gives (peers : Peers) : List Said → List Said → Prop
  | _, [] => True
  | heard, x :: rest => x.reply = peers heard x.call ∧ peers.Gives (heard ++ heardIn [x]) rest

namespace Dialogue

variable {α β : Type}

/-- The dialogue without what it writes to the log. -/
def quiet : Dialogue α → Dialogue α
  | .done a => .done a
  | .perform (.log _ _) next => (next ()).quiet
  | .perform call next => .perform call fun reply => (next reply).quiet

theorem bind_assoc {γ : Type} (d : Dialogue α) (f : α → Dialogue β) (g : β → Dialogue γ) :
    (d.bind f).bind g = d.bind fun a => (f a).bind g := by
  induction d with
  | done a => rfl
  | perform call next ih => exact congrArg (perform call) (funext ih)

@[simp] theorem quiet_done (a : α) : (done a).quiet = .done a := rfl

theorem quiet_bind (d : Dialogue α) (f : α → Dialogue β) :
    (d.bind f).quiet = d.quiet.bind fun a => (f a).quiet := by
  induction d with
  | done a => rfl
  | perform call next ih =>
      cases call with
      | log operation text => exact ih ()
      | _ => exact congrArg (perform _) (funext ih)

variable (peers : Peers)

/-- What is said between a dialogue and peers who have heard some things. -/
def saidTo : Dialogue α → List Said → List Said
  | .done _, _ => []
  | .perform call next, heard =>
    let said : Said := ⟨call, peers heard call⟩
    said :: (next (peers heard call)).saidTo (heard ++ heardIn [said])

/-- What a dialogue gives with peers who have heard some things. -/
def resultTo : Dialogue α → List Said → α
  | .done a, _ => a
  | .perform call next, heard =>
    (next (peers heard call)).resultTo (heard ++ heardIn [⟨call, peers heard call⟩])

/-- A run with peers is one way for a dialogue to go on. -/
theorem plays_saidTo (d : Dialogue α) (heard : List Said) :
    d.Plays (d.saidTo peers heard) (d.resultTo peers heard) := by
  induction d generalizing heard with
  | done a => exact .done a
  | perform call next ih => exact .perform _ (ih _ _)

/-- Replies that the peers give are those of the run with them. -/
theorem resultTo_of_plays {d : Dialogue α} {t heard : List Said} {a : α} (h : d.Plays t a)
    (given : peers.Gives heard t) : d.saidTo peers heard = t ∧ d.resultTo peers heard = a := by
  induction h generalizing heard with
  | done a => exact ⟨rfl, rfl⟩
  | @perform call next rest a reply _ ih =>
      obtain ⟨hreply, given⟩ := given
      obtain rfl : reply = peers heard call := hreply
      obtain ⟨hsaid, hresult⟩ := ih given
      exact ⟨congrArg (_ :: ·) hsaid, hresult⟩

/-- What is made of the result is not said to anyone. -/
theorem saidTo_bind_done (d : Dialogue α) (f : α → β) (heard : List Said) :
    (d.bind fun a => .done (f a)).saidTo peers heard = d.saidTo peers heard := by
  induction d generalizing heard with
  | done a => rfl
  | perform call next ih => exact congrArg (_ :: ·) (ih _ _)

theorem resultTo_bind_done (d : Dialogue α) (f : α → β) (heard : List Said) :
    (d.bind fun a => .done (f a)).resultTo peers heard = f (d.resultTo peers heard) := by
  induction d generalizing heard with
  | done a => rfl
  | perform call next ih => exact ih _ _

/-- Without its log calls, a dialogue says what the peers hear of it. -/
theorem saidTo_quiet (d : Dialogue α) (heard : List Said) :
    d.quiet.saidTo peers heard = heardIn (d.saidTo peers heard) := by
  induction d generalizing heard with
  | done a => rfl
  | perform call next ih =>
      cases call with
      | log operation text =>
          change (next ()).quiet.saidTo peers heard =
            heardIn ((next ()).saidTo peers (heard ++ []))
          rw [List.append_nil]
          exact ih () heard
      | _ => exact congrArg (_ :: ·) (ih _ _)

/-- Without its log calls, a dialogue gives the same result. -/
theorem resultTo_quiet (d : Dialogue α) (heard : List Said) :
    d.quiet.resultTo peers heard = d.resultTo peers heard := by
  induction d generalizing heard with
  | done a => rfl
  | perform call next ih =>
      cases call with
      | log operation text =>
          change (next ()).quiet.resultTo peers heard =
            (next ()).resultTo peers (heard ++ [])
          rw [List.append_nil]
          exact ih () heard
      | _ => exact ih _ _

end Dialogue

end SqlppBench
