import SqlppBench.Connector.Basic

/-! # What open results still have to give

The lines that a cursor has not read yet hold records, and reading them ends with the results or
with a line that cannot be read. `ResultCursor.remaining` says which: the next answer of a cursor is
the head of what remains (`next_eq_head`) and a record leaves the tail (`remaining_of_next`), so
that draining a connector gives all of it (`drainAll_of_open`).
-/

namespace SqlppBench

/-- Records, and the fault that comes behind them unless the results end there. -/
structure Remaining where
  records : List String
  fault : Option Http.LineFault
deriving DecidableEq, Repr

namespace Remaining

/-- A record and what remains behind it. -/
def cons (record : String) (r : Remaining) : Remaining :=
  ⟨record :: r.records, r.fault⟩

/-- The first record, or how the results end if there is none. -/
def head (r : Remaining) : Except Http.LineFault (Option String) :=
  match r.records, r.fault with
  | record :: _, _ => .ok (some record)
  | [], none => .ok none
  | [], some fault => .error fault

/-- What remains behind the first record. -/
def tail (r : Remaining) : Remaining :=
  ⟨r.records.tail, r.fault⟩

/-- All records, unless there is a fault behind them. -/
def all (r : Remaining) : Except Http.LineFault (List String) :=
  match r.fault with
  | none => .ok r.records
  | some fault => .error fault

@[simp] theorem head_cons (record : String) (r : Remaining) :
    (r.cons record).head = .ok (some record) := rfl

@[simp] theorem tail_cons (record : String) (r : Remaining) : (r.cons record).tail = r := rfl

theorem eq_cons_of_head {r : Remaining} {record : String} (h : r.head = .ok (some record)) :
    r = r.tail.cons record := by
  obtain ⟨records, fault⟩ := r
  cases records with
  | nil => cases fault <;> simp [head] at h
  | cons first records => simp_all [head, tail, cons]

/-- All that remains is the first record and all that remains behind it. -/
theorem all_cons (record : String) (r : Remaining) :
    (r.cons record).all = r.all.map (record :: ·) := by
  obtain ⟨records, fault⟩ := r
  cases fault <;> rfl

theorem all_of_head_none {r : Remaining} (h : r.head = .ok none) : r.all = .ok [] := by
  obtain ⟨records, fault⟩ := r
  cases records <;> cases fault <;> simp_all [head, all]

theorem all_of_head_error {r : Remaining} {fault : Http.LineFault} (h : r.head = .error fault) :
    r.all = .error fault := by
  obtain ⟨records, fault'⟩ := r
  cases records <;> cases fault' <;> simp_all [head, all]

end Remaining

/-! ## Cursors -/

namespace ResultCursor

/-- What the lines hold for a cursor in the given state. -/
def remainingOf (state : CursorState) : List Http.Line → Remaining
  | [] => ⟨[], none⟩
  | .error fault :: _ => ⟨[], some fault⟩
  | .ok line :: rest =>
    match candidate? state line with
    | none => remainingOf state rest
    | some text =>
      let record := stripCommas text
      if record = [] then remainingOf .insideResults rest
      else if record = [']'] then ⟨[], none⟩
      else (remainingOf .insideResults rest).cons (String.ofList record)

/-- A line that cannot be read is noticed unless the results end before it, in which case nothing
behind their end matters. -/
theorem remainingOf_append_error (state : CursorState) (lines : List Http.Line)
    (fault : Http.LineFault) (rest others : List Http.Line) :
    remainingOf state (lines ++ .error fault :: rest) = remainingOf state (lines ++ others) ∨
      (remainingOf state (lines ++ .error fault :: rest)).fault = some fault := by
  induction lines generalizing state with
  | nil => exact .inr rfl
  | cons line lines ih =>
      cases line with
      | error earlier => exact .inl rfl
      | ok line =>
          simp only [List.cons_append, remainingOf]
          cases candidate? state line with
          | none => exact ih state
          | some text =>
              by_cases hblank : stripCommas text = []
              · simp only [hblank, if_true]
                exact ih .insideResults
              · by_cases hend : stripCommas text = [']']
                · exact .inl (by simp [hend])
                · simp only [hblank, hend, if_false]
                  exact (ih .insideResults).imp (congrArg _) id

/-- What a cursor still has to give. -/
def remaining (c : ResultCursor) : Remaining :=
  remainingOf c.state c.lines

/-- One answer of a cursor: it is the head of what remains; after a record the cursor is inside the
results and the tail remains. -/
theorem nextOf_spec (state : CursorState) (lines : List Http.Line) :
    (nextOf state lines).1 = (remainingOf state lines).head ∧
      ∀ record, (nextOf state lines).1 = .ok (some record) →
        (nextOf state lines).2.state = .insideResults ∧
          (nextOf state lines).2.remaining = (remainingOf state lines).tail := by
  fun_induction nextOf state lines with
  | case1 => simp [remainingOf, Remaining.head]
  | case2 state fault rest => simp [remainingOf, Remaining.head]
  | case3 state line rest hc ih => simpa only [remainingOf, hc] using ih
  | case4 state line rest text hc record hr ih =>
      have hr : stripCommas text = [] := hr
      simpa only [remainingOf, hc, hr, if_true] using ih
  | case5 state line rest text hc record hr hb =>
      have hb : stripCommas text = [']'] := hb
      simp [remainingOf, hc, hb, Remaining.head]
  | case6 state line rest text hc record hr hb =>
      have hr : stripCommas text ≠ [] := hr
      have hb : stripCommas text ≠ [']'] := hb
      simp [remainingOf, hc, hr, hb, remaining, record]

/-- The next answer of a cursor is the head of what remains. -/
theorem next_eq_head (c : ResultCursor) : c.next.1 = c.remaining.head :=
  (nextOf_spec c.state c.lines).1

/-- After a record the cursor stands inside the results. -/
theorem state_of_next {c c' : ResultCursor} {record : String}
    (h : c.next = (.ok (some record), c')) : c'.state = .insideResults := by
  have spec := (nextOf_spec c.state c.lines).2 record (congrArg Prod.fst h)
  have hc : (nextOf c.state c.lines).2 = c' := congrArg Prod.snd h
  rw [hc] at spec
  exact spec.1

/-- A record leaves the tail. -/
theorem remaining_of_next {c c' : ResultCursor} {record : String}
    (h : c.next = (.ok (some record), c')) : c.remaining = c'.remaining.cons record := by
  have spec := (nextOf_spec c.state c.lines).2 record (congrArg Prod.fst h)
  have hc : (nextOf c.state c.lines).2 = c' := congrArg Prod.snd h
  rw [hc] at spec
  have hhead : c.remaining.head = .ok (some record) := by
    rw [← next_eq_head, h]
  rw [spec.2]
  exact Remaining.eq_cons_of_head hhead

end ResultCursor

/-! ## Connectors -/

/-- A success has no error to map. -/
@[simp] theorem mapError_ok {α ε ε' : Type} (f : ε → ε') (a : α) :
    (Except.ok a).mapError f = .ok a := rfl

@[simp] theorem mapError_error {α ε ε' : Type} (f : ε → ε') (e : ε) :
    (Except.error e : Except ε α).mapError f = .error (f e) := rfl

namespace Connector

/-- With nothing open there is no record, and the cause tells why. -/
theorem nextResult_of_idle {c : Connector} (h : c.results = none) :
    c.nextResult = (.ok none, { c with error := Error.noStatement.cause }) := by
  simp [nextResult, h]

/-- With results open, the next record comes off what remains; without one nothing stays open. -/
theorem nextResult_of_open {c : Connector} {cursor : ResultCursor} (h : c.results = some cursor) :
    (∃ record cursor', cursor'.state = .insideResults ∧
        cursor.remaining = cursor'.remaining.cons record ∧
        c.nextResult =
          (.ok (some record), { c with results := some cursor', error := "" })) ∨
      (cursor.remaining.head = .ok none ∧ c.nextResult = note (.ok none) c.close) ∨
      ∃ fault, cursor.remaining.head = .error fault ∧
        c.nextResult = note (.error (unreadable fault.message)) c.close := by
  have hhead := cursor.next_eq_head
  simp only [nextResult, h]
  split
  · rename_i record cursor' hn
    left
    exact ⟨record, cursor', ResultCursor.state_of_next hn, ResultCursor.remaining_of_next hn, rfl⟩
  · rename_i cursor' hn
    right; left
    rw [hn] at hhead
    exact ⟨hhead.symm, rfl⟩
  · rename_i fault cursor' hn
    right; right
    rw [hn] at hhead
    exact ⟨fault, hhead.symm, rfl⟩

/-- A record is the first of what remains, and it leaves the rest. -/
theorem exists_of_nextResult {c c' : Connector} {cursor : ResultCursor} {record : String}
    (h : c.results = some cursor) (hn : c.nextResult = (.ok (some record), c')) :
    ∃ cursor', cursor'.state = .insideResults ∧
      cursor.remaining = cursor'.remaining.cons record ∧
      c' = { c with results := some cursor', error := "" } := by
  rcases nextResult_of_open h with ⟨record', cursor', hstate, hrem, heq⟩ | ⟨_, heq⟩ | ⟨_, _, heq⟩
  · simp only [heq, Prod.mk.injEq, Except.ok.injEq, Option.some.injEq] at hn
    obtain ⟨rfl, rfl⟩ := hn
    exact ⟨cursor', hstate, hrem, rfl⟩
  · simp [heq, note] at hn
  · simp [heq, note] at hn

/-- With nothing open there is nothing to drain, and the cause tells why. -/
theorem drainAll_of_idle {c : Connector} (h : c.results = none) :
    c.drainAll = (.ok [], { c with error := Error.noStatement.cause }) := by
  rw [drainAll]
  split <;> simp_all [nextResult]

/-- A noted result does not tell which record the results stood at when they were closed. -/
theorem note_close {α : Type} (result : Except Error α) (c : Connector) (cursor : ResultCursor) :
    note result ({ c with results := some cursor, error := "" } : Connector).close =
      note result c.close := by
  cases result <;> rfl

/-- A record in front of what remains is the first of what draining gives. -/
theorem note_all_cons (record : String) (r : Remaining) (c : Connector) :
    note ((r.cons record).all.mapError fun fault => unreadable fault.message) c =
      let drained := note (r.all.mapError fun fault => unreadable fault.message) c
      (drained.1.map (record :: ·), drained.2) := by
  rw [Remaining.all_cons]
  cases r.all <;> rfl

/-- Draining gives all records that are left, or the failure behind them, and nothing is open
afterwards. -/
theorem drainAll_of_open {c : Connector} {cursor : ResultCursor} (h : c.results = some cursor) :
    c.drainAll =
      note (cursor.remaining.all.mapError fun fault => unreadable fault.message) c.close := by
  -- one case for each answer to the first call, and two for the call that drains the others
  fun_induction drainAll c generalizing cursor with
  | case1 c fault c' hn =>
      rcases nextResult_of_open h with ⟨_, _, _, _, heq⟩ | ⟨_, heq⟩ | ⟨fault', hhead, heq⟩
      · simp [heq] at hn
      · simp [heq, note] at hn
      · rw [Remaining.all_of_head_error hhead]
        simp only [heq, note, Prod.mk.injEq, Except.error.injEq] at hn
        obtain ⟨rfl, rfl⟩ := hn
        rfl
  | case2 c c' hn =>
      rcases nextResult_of_open h with ⟨_, _, _, _, heq⟩ | ⟨hhead, heq⟩ | ⟨_, _, heq⟩
      · simp [heq] at hn
      · rw [Remaining.all_of_head_none hhead]
        simp only [heq, note, Prod.mk.injEq] at hn
        simp [note, ← hn.2]
      · simp [heq, note] at hn
  | case3 c record c' hn records c'' hd ih =>
      obtain ⟨cursor', _, hrem, rfl⟩ := exists_of_nextResult h hn
      rw [hrem, note_all_cons, ← note_close _ c cursor', ← ih rfl, hd]
      rfl
  | case4 c record c' hn fault c'' hd ih =>
      obtain ⟨cursor', _, hrem, rfl⟩ := exists_of_nextResult h hn
      rw [hrem, note_all_cons, ← note_close _ c cursor', ← ih rfl, hd]
      rfl

end Connector

end SqlppBench
