import SqlppBench.Proofs.Session

/-! # Transcripts

A transcript holds the calls of a dialogue with their replies. `Plays` admits any replies at all, so
what is said about all transcripts of a dialogue holds in every world. The transcript in one world
is one of them (`plays_said`), and it tells what becomes of the world (`gives_said`).

`plays_bind_iff` splits the transcript of two dialogues in sequence. `exists_shared_of_interleave`
does the same for dialogues side by side: in whatever turns they make their calls, each of them has
a transcript of its own in what is said (`partOf`).
-/

namespace SqlppBench

/-- A call and the reply to it. -/
structure Said where
  call : Call
  reply : call.Reply

namespace World

/-- The world replies as in a transcript, and this is what has become of it then. -/
inductive Gives : World → List Said → World → Prop
  | nil (w : World) : Gives w [] w
  | cons {w w' : World} {call : Call} {rest : List Said} :
      Gives (handle call w).2 rest w' → Gives w (⟨call, (handle call w).1⟩ :: rest) w'

@[simp] theorem gives_nil_iff {w w' : World} : w.Gives [] w' ↔ w' = w := by
  constructor
  · rintro ⟨⟩
    rfl
  · rintro rfl
    exact .nil w'

@[simp] theorem gives_cons_iff {w w' : World} {x : Said} {rest : List Said} :
    w.Gives (x :: rest) w' ↔
      x.reply = (handle x.call w).1 ∧ (handle x.call w).2.Gives rest w' := by
  constructor
  · rintro ⟨⟩
    exact ⟨rfl, ‹_›⟩
  · obtain ⟨call, reply⟩ := x
    rintro ⟨hreply, h⟩
    obtain rfl : reply = (handle call w).1 := hreply
    exact .cons h

theorem gives_append_iff {w w' : World} {t t' : List Said} :
    w.Gives (t ++ t') w' ↔ ∃ between, w.Gives t between ∧ between.Gives t' w' := by
  induction t generalizing w with
  | nil => simp
  | cons x t ih => simp [ih, and_assoc]

end World

namespace Dialogue

variable {α β : Type}

/-- A dialogue goes on to its end with these calls and replies, and gives this result. -/
inductive Plays : Dialogue α → List Said → α → Prop
  | done (a : α) : Plays (.done a) [] a
  | perform {call : Call} {next : call.Reply → Dialogue α} {rest : List Said} {a : α}
      (reply : call.Reply) :
      Plays (next reply) rest a → Plays (.perform call next) (⟨call, reply⟩ :: rest) a

variable {d : Dialogue α} {f : α → Dialogue β} {t : List Said} {a : α} {b : β}

@[simp] theorem plays_done_iff {a b : α} : (done a).Plays t b ↔ t = [] ∧ b = a := by
  constructor
  · rintro ⟨⟩
    exact ⟨rfl, rfl⟩
  · rintro ⟨rfl, rfl⟩
    exact .done b

@[simp] theorem plays_perform_iff {call : Call} {next : call.Reply → Dialogue α} :
    (perform call next).Plays t a ↔
      ∃ reply rest, t = ⟨call, reply⟩ :: rest ∧ (next reply).Plays rest a := by
  constructor
  · rintro ⟨⟩
    rename_i rest reply h
    exact ⟨reply, rest, rfl, h⟩
  · rintro ⟨reply, rest, rfl, h⟩
    exact .perform reply h

/-- The transcript of two dialogues in sequence is that of the one and then that of the other. -/
theorem plays_bind_iff :
    (d.bind f).Plays t b ↔
      ∃ first a second, t = first ++ second ∧ d.Plays first a ∧ (f a).Plays second b := by
  constructor
  · intro h
    induction d generalizing t with
    | done a => exact ⟨[], a, t, rfl, .done a, h⟩
    | perform call next ih =>
        obtain ⟨reply, rest, rfl, hrest⟩ := plays_perform_iff.1 h
        obtain ⟨first, a, second, rfl, hfirst, hsecond⟩ := ih reply hrest
        exact ⟨⟨call, reply⟩ :: first, a, second, rfl, .perform reply hfirst, hsecond⟩
  · rintro ⟨first, a, second, rfl, hfirst, hsecond⟩
    induction hfirst with
    | done a => exact hsecond
    | perform reply _ ih => exact .perform reply (ih hsecond)

/-- Where two transcripts of a dialogue begin what is said, they are the same, and so are the
results. -/
theorem Plays.unique {a' : α} {t' rest rest' : List Said} (h : d.Plays t a) (h' : d.Plays t' a')
    (same : t ++ rest = t' ++ rest') : t = t' ∧ a = a' ∧ rest = rest' := by
  induction h generalizing t' with
  | done a =>
      obtain ⟨rfl, rfl⟩ := plays_done_iff.1 h'
      exact ⟨rfl, rfl, same⟩
  | perform reply _ ih =>
      obtain ⟨reply', said, rfl, hsaid⟩ := plays_perform_iff.1 h'
      rw [List.cons_append, List.cons_append, List.cons.injEq] at same
      obtain ⟨heq, same⟩ := same
      obtain rfl : reply = reply' := by simpa using heq
      obtain ⟨rfl, rfl, rfl⟩ := ih hsaid same
      exact ⟨rfl, rfl, rfl⟩

/-- A dialogue gives the same result whenever its calls get the same replies. -/
theorem Plays.eq_of_replies {a' : α} {t' : List Said} (h : d.Plays t a) (h' : d.Plays t' a')
    (replies : ∀ x ∈ t, ∀ x' ∈ t', x.call = x'.call → x = x') : t = t' ∧ a = a' := by
  induction h generalizing t' with
  | done a =>
      obtain ⟨rfl, rfl⟩ := plays_done_iff.1 h'
      exact ⟨rfl, rfl⟩
  | @perform call next rest a reply _ ih =>
      obtain ⟨reply', said, rfl, hsaid⟩ := plays_perform_iff.1 h'
      have hfirst := replies ⟨call, reply⟩ (List.mem_cons_self ..) ⟨call, reply'⟩
        (List.mem_cons_self ..) rfl
      obtain rfl : reply = reply' := by simpa using hfirst
      obtain ⟨rfl, rfl⟩ := ih hsaid fun x hx x' hx' =>
        replies x (List.mem_cons_of_mem _ hx) x' (List.mem_cons_of_mem _ hx')
      exact ⟨rfl, rfl⟩

/-! ## The transcript in a world -/

/-- What is said when a dialogue is run in a world. -/
def said : Dialogue α → World → List Said
  | .done _, _ => []
  | .perform call next, w =>
    ⟨call, (World.handle call w).1⟩ :: (next (World.handle call w).1).said (World.handle call w).2

/-- What is said for two dialogues in sequence, the second in the world that the first leaves. -/
theorem said_bind (d : Dialogue α) (f : α → Dialogue β) (w : World) :
    (d.bind f).said w = d.said w ++ (f (d.run w).1).said (d.run w).2 := by
  induction d generalizing w with
  | done a => rfl
  | perform call next ih => exact congrArg (_ :: ·) (ih _ _)

/-- A run in a world is one way for a dialogue to go on. -/
theorem plays_said (d : Dialogue α) (w : World) : d.Plays (d.said w) (d.run w).1 := by
  induction d generalizing w with
  | done a => exact .done a
  | perform call next ih => exact .perform _ (ih _ _)

/-- The world behind a run is the one behind its transcript. -/
theorem gives_said (d : Dialogue α) (w : World) : w.Gives (d.said w) (d.run w).2 := by
  induction d generalizing w with
  | done a => exact .nil w
  | perform call next ih => exact .cons (ih _ _)

/-! ## Side by side -/

/-- What one of several speakers says and hears, in what all of them say. -/
def partOf (i : Nat) (t : List (Nat × Said)) : List Said :=
  t.filterMap fun x => if x.1 = i then some x.2 else none

theorem partOf_cons_self (i : Nat) (x : Said) (t : List (Nat × Said)) :
    partOf i ((i, x) :: t) = x :: partOf i t := by
  simp [partOf]

theorem partOf_cons_of_ne {i j : Nat} (h : j ≠ i) (x : Said) (t : List (Nat × Said)) :
    partOf i ((j, x) :: t) = partOf i t := by
  simp [partOf, h]

/-- What one speaker says is among what all of them say. -/
theorem mem_of_mem_partOf {i : Nat} {x : Said} {t : List (Nat × Said)} (h : x ∈ partOf i t) :
    x ∈ t.map Prod.snd := by
  obtain ⟨y, hy, hpart⟩ := List.mem_filterMap.1 h
  split at hpart
  · obtain rfl := Option.some.inj hpart
    exact List.mem_map_of_mem hy
  · cases hpart

/-- Dialogues share what is said: all of it comes from one of them, and each of them has its part in
it, with which it goes on to its end. -/
structure Shared (ds : List (Dialogue α)) (t : List (Nat × Said)) (results : List α) : Prop where
  length : results.length = ds.length
  speakers : ∀ x ∈ t, x.1 < ds.length
  plays : ∀ i (hd : i < ds.length) (ha : i < results.length),
    ds[i].Plays (partOf i t) results[i]

/-- One dialogue after another is one way to share what is said. -/
theorem exists_shared_of_each {ds : List (Dialogue α)} {results : List α}
    (h : (each id ds).Plays t results) :
    ∃ shared, shared.map Prod.snd = t ∧ Shared ds shared results := by
  induction ds generalizing t results with
  | nil =>
      obtain ⟨rfl, rfl⟩ := plays_done_iff.1 h
      exact ⟨[], rfl, rfl, by simp, by simp⟩
  | cons d ds ih =>
      obtain ⟨first, a, second, rfl, hfirst, hrest⟩ := plays_bind_iff.1 h
      obtain ⟨others, as, third, rfl, hothers, hdone⟩ := plays_bind_iff.1 hrest
      obtain ⟨rfl, rfl⟩ := plays_done_iff.1 hdone
      obtain ⟨shared, rfl, hshared⟩ := ih hothers
      -- the first dialogue keeps the first place, and all others move up by one
      let label : Nat × Said → Nat × Said := fun x => (x.1 + 1, x.2)
      have hzero : partOf 0 (first.map (fun x => (0, x)) ++ shared.map label) = first := by
        simp only [partOf, label, List.filterMap_append, List.filterMap_map, Function.comp_def]
        simp
      have hsucc (i : Nat) :
          partOf (i + 1) (first.map (fun x => (0, x)) ++ shared.map label) = partOf i shared := by
        simp only [partOf, label, List.filterMap_append, List.filterMap_map, Function.comp_def]
        simp
      refine ⟨first.map (fun x => (0, x)) ++ shared.map label, ?_, ?_, ?_, ?_⟩
      · simp [label, Function.comp_def]
      · rw [List.length_cons, List.length_cons, hshared.length]
      · intro x hx
        rcases List.mem_append.1 hx with hx | hx
        · obtain ⟨y, -, rfl⟩ := List.mem_map.1 hx
          exact Nat.succ_pos _
        · obtain ⟨y, hy, rfl⟩ := List.mem_map.1 hx
          exact Nat.succ_lt_succ (hshared.speakers y hy)
      · intro i hd ha
        cases i with
        | zero =>
            rw [hzero]
            exact hfirst
        | succ i =>
            rw [hsucc]
            exact hshared.plays i (Nat.lt_of_succ_lt_succ hd) (Nat.lt_of_succ_lt_succ ha)

/-- A turn is the next call of one dialogue, or nothing where there is none. -/
theorem plays_stepAt {n : Nat} {ds ds' : List (Dialogue α)} (h : (stepAt n ds).Plays t ds') :
    (t = [] ∧ ds' = ds) ∨
      ∃ (call : Call) (next : call.Reply → Dialogue α) (reply : call.Reply),
        ds[n]? = some (.perform call next) ∧ t = [⟨call, reply⟩] ∧ ds' = ds.set n (next reply) := by
  induction n generalizing t ds ds' with
  | zero =>
      cases ds with
      | nil => exact .inl (plays_done_iff.1 h)
      | cons d ds =>
          obtain ⟨first, d', second, rfl, hstep, hdone⟩ := plays_bind_iff.1 h
          obtain ⟨rfl, rfl⟩ := plays_done_iff.1 hdone
          cases d with
          | done a =>
              obtain ⟨rfl, rfl⟩ := plays_done_iff.1 hstep
              exact .inl ⟨rfl, rfl⟩
          | perform call next =>
              obtain ⟨reply, rest, rfl, hrest⟩ := plays_perform_iff.1 hstep
              obtain ⟨rfl, rfl⟩ := plays_done_iff.1 hrest
              exact .inr ⟨call, next, reply, rfl, rfl, rfl⟩
  | succ n ih =>
      cases ds with
      | nil => exact .inl (plays_done_iff.1 h)
      | cons d ds =>
          obtain ⟨first, others, second, rfl, hstep, hdone⟩ := plays_bind_iff.1 h
          obtain ⟨rfl, rfl⟩ := plays_done_iff.1 hdone
          rcases ih hstep with ⟨rfl, rfl⟩ | ⟨call, next, reply, hget, rfl, rfl⟩
          · exact .inl ⟨rfl, rfl⟩
          · exact .inr ⟨call, next, reply, hget, rfl, rfl⟩

/-- In whatever turns dialogues make their calls, they share what is said. -/
theorem exists_shared_of_interleave {turns : List Nat} {ds : List (Dialogue α)} {results : List α}
    (h : (interleave turns ds).Plays t results) :
    ∃ shared, shared.map Prod.snd = t ∧ Shared ds shared results := by
  induction turns generalizing t ds with
  | nil => exact exists_shared_of_each h
  | cons n turns ih =>
      obtain ⟨first, ds', second, rfl, hstep, hothers⟩ := plays_bind_iff.1 h
      obtain ⟨shared, rfl, hshared⟩ := ih hothers
      rcases plays_stepAt hstep with ⟨rfl, rfl⟩ | ⟨call, next, reply, hget, rfl, rfl⟩
      · exact ⟨shared, rfl, hshared⟩
      · obtain ⟨hn, hcall⟩ := List.getElem?_eq_some_iff.1 hget
        refine ⟨(n, ⟨call, reply⟩) :: shared, rfl, ?_, ?_, ?_⟩
        · rw [hshared.length, List.length_set]
        · intro x hx
          rcases List.mem_cons.1 hx with rfl | hx
          · exact hn
          · simpa using hshared.speakers x hx
        · intro i hd ha
          have hplays := hshared.plays i (by simpa using hd) ha
          by_cases hi : n = i
          · -- the call of this turn is the first of the dialogue that makes it
            subst hi
            rw [List.getElem_set_self] at hplays
            rw [partOf_cons_self, hcall]
            exact .perform reply hplays
          · rw [List.getElem_set_ne hi] at hplays
            rw [partOf_cons_of_ne hi]
            exact hplays

end Dialogue

end SqlppBench
