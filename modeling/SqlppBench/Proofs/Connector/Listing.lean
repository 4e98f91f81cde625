import SqlppBench.Proofs.Connector.Remaining
import SqlppBench.Proofs.Http.Lines
import SqlppBench.Proofs.Text.Trimming

/-! # The records that a stream lists

What a cursor gives can be said of the lines as a whole, without a cursor that goes along them: the
texts from the opening line on, without commas and blanks around them, up to the closing bracket
(`listedRecords`). A cursor over any lines gives exactly these records, one a call, and then how
they end; an unreadable line matters exactly if the closing bracket does not come before it
(`remainingOf_beforeResults`). No answer depends on a line behind the one that decides it
(`isDecided_or_passesAll`).
-/

namespace SqlppBench

/-! ## The lines of a stream -/

namespace Http

/-- The lines of a stream that line feeds end are as they stand between these, apart from one
carriage return each. What comes behind the last line feed is a line if it is complete and not
empty. -/
theorem Body.exists_pieces (body : Body) :
    ∃ (pieces : List Bytes) (last : Bytes), (∀ piece ∈ pieces, IsLine piece) ∧ IsLine last ∧
      body.bytes = pieces.flatMap (fun piece => piece ++ [lineFeed]) ++ last ∧
      body.lines = pieces.map (fun piece => Line.ofBytes (withoutReturn piece)) ++
        match body.failure with
        | some reason => [.error (.broken reason)]
        | none => if last = [] then [] else [Line.ofBytes last] := by
  obtain ⟨bytes, failure⟩ := body
  induction hn : bytes.length using Nat.strongRecOn generalizing bytes with
  | ind n ih =>
      by_cases hline : IsLine bytes
      · refine ⟨[], bytes, by simp, hline, rfl, ?_⟩
        cases failure with
        | some reason => exact lines_of_unfinished hline reason
        | none =>
            by_cases hempty : bytes = []
            · rw [hempty]
              rfl
            · rw [lines_of_isLine hline hempty]
              simp [hempty]
      · -- a line feed ends the first line, and the others are those of a shorter stream
        obtain ⟨line, later, rfl, hfirst⟩ := List.eq_append_cons_of_mem (not_not.1 hline)
        have hlater : later.length < n := by
          rw [← hn, List.length_append, List.length_cons]
          omega
        obtain ⟨pieces, last, hpieces, hlast, hbytes, hlines⟩ := ih later.length hlater later rfl
        refine ⟨line :: pieces, last, List.forall_mem_cons.2 ⟨hfirst, hpieces⟩, hlast, ?_, ?_⟩
        · dsimp only at hbytes ⊢
          rw [hbytes]
          simp
        · rw [lines_append_lineFeed hfirst, hlines]
          rfl

/-- The lines of a stream before the first that cannot be read. -/
def readable : List Line → List String
  | .ok line :: rest => line :: readable rest
  | .error _ :: _ => []
  | [] => []

/-- Why the first line that cannot be read cannot be, if there is one. -/
def firstFault? : List Line → Option LineFault
  | .ok _ :: rest => firstFault? rest
  | .error fault :: _ => some fault
  | [] => none

/-- Lines that can be read come first. -/
theorem readable_append (lines : List String) (others : List Line) :
    readable (lines.map .ok ++ others) = lines ++ readable others := by
  induction lines with
  | nil => rfl
  | cons line lines ih => exact congrArg (line :: ·) ih

theorem firstFault?_append (lines : List String) (others : List Line) :
    firstFault? (lines.map .ok ++ others) = firstFault? others := by
  induction lines with
  | nil => rfl
  | cons line lines ih => exact ih

end Http

namespace ResultCursor

open Http (Line LineFault readable firstFault?)

/-! ## The listed records -/

/-- What stands on a line between one comma before it and one behind it. -/
def betweenCommas (s : List Char) : List Char :=
  let s := Text.trimChars s
  let s := (s.dropPrefix? [',']).getD s
  let s := (s.dropSuffix? [',']).getD s
  Text.trimChars s

/-- Whether a line begins with the name of the results. -/
def opensResults (line : String) : Bool :=
  "\"results\":".toList.isPrefixOf (Text.trimChars line.toList)

/-- What stands on the opening line behind the name of the results and one opening bracket. -/
def behindOpening (line : String) : List Char :=
  let rest := Text.dropBlanks ((Text.trimChars line.toList).drop "\"results\":".length)
  (rest.dropPrefix? ['[']).getD rest

/-- The texts between the commas of some lines; empty ones do not count. -/
def textsOn (lines : List (List Char)) : List (List Char) :=
  (lines.map betweenCommas).filter fun text => text ≠ []

/-- The texts on the opening line and on all lines behind it. -/
def texts (lines : List String) : List (List Char) :=
  match lines.dropWhile fun line => !opensResults line with
  | [] => []
  | line :: later => textsOn (behindOpening line :: later.map String.toList)

/-- The texts before the closing bracket are records. -/
def recordsAmong (texts : List (List Char)) : List String :=
  (texts.takeWhile fun text => text ≠ [']']).map String.ofList

/-- The records that lines list. -/
def listedRecords (lines : List String) : List String :=
  recordsAmong (texts lines)

/-- The closing bracket of the results is among the lines. -/
def Closes (lines : List String) : Prop :=
  [']'] ∈ texts lines

instance (lines : List String) : Decidable (Closes lines) :=
  inferInstanceAs (Decidable ([']'] ∈ texts lines))

/-! ## Agreement with the cursor -/

theorem dropFirst_eq_dropPrefix? (c : Char) (s : List Char) :
    dropFirst c s = (s.dropPrefix? [c]).getD s := by
  cases s with
  | nil => rfl
  | cons d s =>
      by_cases h : d = c <;> simp [dropFirst, List.dropPrefix?, h]

theorem dropLast_eq_dropSuffix? (c : Char) (s : List Char) :
    dropLast c s = (s.dropSuffix? [c]).getD s := by
  unfold dropLast
  by_cases h : s.getLast? = some c
  · obtain ⟨front, rfl⟩ := List.getLast?_eq_some_iff.1 h
    have hsuffix : (front ++ [c]).dropSuffix? [c] = some front :=
      List.dropSuffix?_eq_some_iff.2 ⟨[c], rfl, by simp⟩
    simp [hsuffix]
  · have hsuffix : s.dropSuffix? [c] = none := by
      rw [Option.eq_none_iff_forall_ne_some]
      intro front hfront
      obtain ⟨last, rfl, hlast⟩ := List.dropSuffix?_eq_some_iff.1 hfront
      obtain rfl : last = [c] := by simpa using hlast
      exact h (by simp)
    simp [hsuffix, h]

theorem stripCommas_eq_betweenCommas (s : List Char) : stripCommas s = betweenCommas s := by
  rw [stripCommas, dropFirst_eq_dropPrefix?, dropLast_eq_dropSuffix?]
  rfl

/-- A line opens the results for a cursor exactly if it begins with their name. -/
theorem opened?_trimChars (line : String) :
    opened? (Text.trimChars line.toList) =
      if opensResults line then some (behindOpening line) else none := by
  by_cases h : opening <+: Text.trimChars line.toList
  · obtain ⟨rest, hrest⟩ := h
    have hopens : opensResults line = true :=
      List.isPrefixOf_iff_prefix.2 ⟨rest, hrest⟩
    have hdrop : (Text.trimChars line.toList).drop "\"results\":".length = rest := by
      rw [← hrest]
      exact List.drop_left
    rw [opened?, ← hrest, Text.after?_append, if_pos hopens, behindOpening, hdrop, Option.map_some,
      dropFirst_eq_dropPrefix?]
  · have hopens : opensResults line = false :=
      Bool.eq_false_iff.2 fun hpos => h (List.isPrefixOf_iff_prefix.1 hpos)
    rw [opened?, Text.after?_eq_none_iff.2 h, hopens]
    rfl

/-- What there is to give on texts behind which reading ends, with a fault or without. -/
def listing (texts : List (List Char)) (fault : Option LineFault) : Remaining :=
  ⟨recordsAmong texts, if [']'] ∈ texts then none else fault⟩

/-- One more line in front: it is empty, it closes the results, or it holds a record. -/
theorem listing_textsOn_cons {line text : List Char} (h : betweenCommas line = text)
    (lines : List (List Char)) (fault : Option LineFault) :
    listing (textsOn (line :: lines)) fault =
      if text = [] then listing (textsOn lines) fault
      else if text = [']'] then ⟨[], none⟩
      else (listing (textsOn lines) fault).cons (String.ofList text) := by
  have htexts : textsOn (line :: lines) =
      if text = [] then textsOn lines else text :: textsOn lines := by
    by_cases hempty : text = [] <;> simp [textsOn, h, hempty]
  rw [htexts]
  by_cases hempty : text = []
  · simp [hempty]
  · by_cases hclosing : text = [']']
    · simp [hclosing, listing, recordsAmong]
    · simp [hempty, hclosing, Ne.symm hclosing, listing, recordsAmong, Remaining.cons]

/-- A cursor that comes to a text takes it as one more line in front of those behind it. -/
theorem remainingOf_of_listing {state : CursorState} {line : String} {text : List Char}
    {lines : List Line} {others : List (List Char)} {fault : Option LineFault}
    (candidate : candidate? state line = some text)
    (inside : remainingOf .insideResults lines = listing (textsOn others) fault) :
    remainingOf state (.ok line :: lines) = listing (textsOn (text :: others)) fault := by
  rw [listing_textsOn_cons (stripCommas_eq_betweenCommas text).symm, ← inside]
  simp only [remainingOf, candidate]

/-- Blanks around a line do not matter. -/
theorem textsOn_trimChars (line : List Char) (lines : List (List Char)) :
    textsOn (Text.trimChars line :: lines) = textsOn (line :: lines) := by
  simp only [textsOn, List.map_cons, betweenCommas, Text.trimChars_trimChars]

/-- Inside the results every line may hold a record. -/
theorem remainingOf_insideResults (lines : List Line) :
    remainingOf .insideResults lines =
      listing (textsOn ((readable lines).map String.toList)) (firstFault? lines) := by
  induction lines with
  | nil => rfl
  | cons line lines ih =>
      cases line with
      | error fault => rfl
      | ok line =>
          rw [remainingOf_of_listing rfl ih, textsOn_trimChars]
          rfl

/-- Before the results, lines are passed over up to the opening one. -/
theorem remainingOf_beforeResults (lines : List Line) :
    remainingOf .beforeResults lines = listing (texts (readable lines)) (firstFault? lines) := by
  induction lines with
  | nil => rfl
  | cons line lines ih =>
      cases line with
      | error fault => rfl
      | ok line =>
          have hcandidate := opened?_trimChars line
          by_cases hopens : opensResults line = true
          · have hbehind : candidate? .beforeResults line = some (behindOpening line) := by
              rw [candidate?, hcandidate, if_pos hopens]
            rw [remainingOf_of_listing hbehind (remainingOf_insideResults lines)]
            simp [texts, readable, firstFault?, hopens]
          · rw [if_neg hopens] at hcandidate
            have hpassed : remainingOf .beforeResults (.ok line :: lines) =
                remainingOf .beforeResults lines := by
              simp only [remainingOf, candidate?, hcandidate]
            rw [hpassed, ih]
            simp [texts, readable, firstFault?, hopens]

/-- What a fresh cursor gives is what its lines list. -/
theorem remaining_ofLines (lines : List Line) :
    (ofLines lines).remaining = listing (texts (readable lines)) (firstFault? lines) :=
  remainingOf_beforeResults lines

/-- Where lines of text end, or a line follows that cannot be read, it is the text alone that lists
records. -/
theorem remaining_ofLines_append (lines : List String) {others : List Line}
    (unreadable : readable others = []) :
    (ofLines (lines.map .ok ++ others)).remaining =
      ⟨listedRecords lines, if Closes lines then none else firstFault? others⟩ := by
  rw [remaining_ofLines, Http.readable_append, Http.firstFault?_append, unreadable,
    List.append_nil]
  rfl

/-! ## One call after another -/

/-- The cursor after some calls. -/
def after (c : ResultCursor) : Nat → ResultCursor
  | 0 => c
  | n + 1 => c.next.2.after n

/-- What some calls give, one after the other, and where each of them leaves the cursor. -/
def answers (c : ResultCursor) : Nat → List (Except LineFault (Option String) × CursorState)
  | 0 => []
  | n + 1 => (c.next.1, c.next.2.state) :: c.next.2.answers n

/-- A cursor gives the records that remain, one a call, and then nothing but their end remains. -/
theorem answers_of_remaining {c : ResultCursor} {records : List String} {fault : Option LineFault}
    (h : c.remaining = ⟨records, fault⟩) :
    c.answers records.length =
        records.map (fun record => (.ok (some record), .insideResults)) ∧
      (c.after records.length).remaining = ⟨[], fault⟩ := by
  induction records generalizing c with
  | nil => exact ⟨rfl, h⟩
  | cons record records ih =>
      have hhead : c.next.1 = .ok (some record) := by
        rw [next_eq_head, h]
        rfl
      have hnext : c.next = (.ok (some record), c.next.2) := Prod.ext hhead rfl
      have hrest : c.next.2.remaining = ⟨records, fault⟩ := by
        have hcons := remaining_of_next hnext
        rw [h] at hcons
        exact (congrArg Remaining.tail hcons).symm
      obtain ⟨hanswers, hafter⟩ := ih hrest
      refine ⟨?_, hafter⟩
      simp only [List.length_cons, answers, List.map_cons, hhead, state_of_next hnext, hanswers]

/-- The last of some calls is made of the cursor behind the others. -/
theorem answers_succ (c : ResultCursor) (n : Nat) :
    c.answers (n + 1) =
      c.answers n ++ [((c.after n).next.1, (c.after n).next.2.state)] := by
  induction n generalizing c with
  | zero => rfl
  | succ n ih => exact congrArg (_ :: ·) (ih c.next.2)

/-- A cursor that has no record to give starts afresh, on the lines that are left. -/
theorem next_of_none {c : ResultCursor} (h : c.next.1 = .ok none) :
    c.next.2 = ofLines c.next.2.lines := by
  obtain ⟨state, lines⟩ := c
  change (nextOf state lines).1 = .ok none at h
  show (nextOf state lines).2 = ofLines (nextOf state lines).2.lines
  fun_induction nextOf state lines with
  | case1 => rfl
  | case2 => cases h
  | case3 state line rest candidate ih => exact ih h
  | case4 state line rest text candidate record empty ih => exact ih h
  | case5 => rfl
  | case6 => cases h

/-! ## What an answer depends on -/

/-- The answer of a cursor is decided by one of its lines, whatever comes behind it. -/
def IsDecided (c : ResultCursor) : Prop :=
  ∃ read rest, read ≠ [] ∧ c.lines = read ++ rest ∧ ∀ others,
    next ⟨c.state, read ++ others⟩ = (c.next.1, ⟨c.next.2.state, others⟩)

/-- A cursor passes over all its lines, and answers as it would on what comes behind them. -/
def PassesAll (c : ResultCursor) : Prop :=
  ∃ state, ∀ others, next ⟨c.state, c.lines ++ others⟩ = next ⟨state, others⟩

/-- Behind lines that are passed over there is nothing to give. -/
theorem PassesAll.next_eq {c : ResultCursor} (h : c.PassesAll) :
    c.next = (.ok none, ofLines []) := by
  obtain ⟨state, hpassed⟩ := h
  have hall := hpassed []
  rwa [List.append_nil] at hall

/-- A line that is passed over does not change what decides. -/
theorem isDecided_or_passesAll_cons {state state' : CursorState} {line : Line} {lines : List Line}
    (passes : ∀ others, next ⟨state, line :: others⟩ = next ⟨state', others⟩)
    (h : IsDecided ⟨state', lines⟩ ∨ PassesAll ⟨state', lines⟩) :
    IsDecided ⟨state, line :: lines⟩ ∨ PassesAll ⟨state, line :: lines⟩ := by
  rcases h with ⟨read, rest, -, hlines, hdecided⟩ | ⟨passed, hpassed⟩
  · refine .inl ⟨line :: read, rest, by simp, congrArg (line :: ·) hlines, fun others => ?_⟩
    rw [List.cons_append, passes, passes, hdecided]
  · exact .inr ⟨passed, fun others => (passes _).trans (hpassed others)⟩

/-- Every answer is decided by a line, unless all lines are passed over. -/
theorem isDecided_or_passesAll (c : ResultCursor) : c.IsDecided ∨ c.PassesAll := by
  obtain ⟨state, lines⟩ := c
  induction lines generalizing state with
  | nil => exact .inr ⟨state, fun others => rfl⟩
  | cons line lines ih =>
      cases line with
      | error fault => exact .inl ⟨[.error fault], lines, by simp, rfl, fun others => rfl⟩
      | ok line =>
          cases hcandidate : candidate? state line with
          | none =>
              refine isDecided_or_passesAll_cons (fun others => ?_) (ih state)
              simp only [next, nextOf, hcandidate]
          | some text =>
              by_cases hempty : stripCommas text = []
              · refine isDecided_or_passesAll_cons (fun others => ?_) (ih .insideResults)
                simp [next, nextOf, hcandidate, hempty]
              · -- the line closes the results or holds a record, and is the last one that is read
                refine .inl ⟨[.ok line], lines, by simp, rfl, fun others => ?_⟩
                by_cases hclosing : stripCommas text = [']'] <;>
                  simp [next, nextOf, hcandidate, hempty, hclosing]

/-- A cursor gives exactly the records that its stream lists.

The lines of a stream stand between its line feeds, without one carriage return at their ends. Over
lines that are all text, calls give the listed records one after the other, each of them inside the
results, and then none, which leaves the cursor in front of results again. Behind text, a line that
cannot be read is a failure exactly if the results are not closed before it. Every call of any
cursor leaves it inside the results with a record and fresh without one, and its answer is decided
by one of the lines, whatever comes behind it, unless it takes all lines and what comes behind them
to decide. -/
theorem cursor_gives_the_listed_records :
    (∀ body : Http.Body, ∃ (pieces : List Bytes) (last : Bytes),
      (∀ piece ∈ pieces, Http.lineFeed ∉ piece) ∧ Http.lineFeed ∉ last ∧
        body.bytes = pieces.flatMap (fun piece => piece ++ [Http.lineFeed]) ++ last ∧
        body.lines = pieces.map (fun piece => Line.ofBytes (Http.withoutReturn piece)) ++
          match body.failure with
          | some reason => [.error (.broken reason)]
          | none => if last = [] then [] else [Line.ofBytes last]) ∧
    (∀ lines : List String,
      let records := listedRecords lines
      let given : List (Except LineFault (Option String) × CursorState) :=
        records.map fun record => (.ok (some record), .insideResults)
      (ofLines (lines.map .ok)).answers (records.length + 1) =
          given ++ [(.ok none, .beforeResults)] ∧
        ∀ fault rest,
          let c := ofLines (lines.map .ok ++ .error fault :: rest)
          c.answers records.length = given ∧
            (c.after records.length).next.1 = if Closes lines then .ok none else .error fault) ∧
    ∀ c : ResultCursor,
      (∀ record, c.next.1 = .ok (some record) → c.next.2.state = .insideResults) ∧
        (c.next.1 = .ok none → c.next.2 = ofLines c.next.2.lines) ∧
        (c.IsDecided ∨ (c.PassesAll ∧ c.next = (.ok none, ofLines []))) := by
  refine ⟨Http.Body.exists_pieces, fun lines => ?_, fun c => ⟨fun record hrecord => ?_,
    next_of_none, c.isDecided_or_passesAll.imp_right fun passes => ⟨passes, passes.next_eq⟩⟩⟩
  · intro records given
    constructor
    · have hremaining := @remaining_ofLines_append lines [] rfl
      rw [List.append_nil] at hremaining
      obtain ⟨hanswers, hafter⟩ := answers_of_remaining hremaining
      have hnone : ((ofLines (lines.map .ok)).after records.length).next.1 = .ok none := by
        rw [next_eq_head, hafter]
        by_cases hcloses : Closes lines <;> simp [hcloses, Http.firstFault?, Remaining.head]
      rw [answers_succ, hanswers, hnone, next_of_none hnone]
      rfl
    · intro fault rest c
      have hremaining := @remaining_ofLines_append lines (.error fault :: rest) rfl
      obtain ⟨hanswers, hafter⟩ := answers_of_remaining hremaining
      refine ⟨hanswers, ?_⟩
      rw [next_eq_head, hafter]
      by_cases hcloses : Closes lines <;> simp [hcloses, Http.firstFault?, Remaining.head]
  · exact state_of_next (Prod.ext hrecord rfl)

/-- No more than one comma goes from each side, and nothing behind the bracket counts. -/
example : listedRecords ["0", " \"results\": [ 1", "", ",,2,", " ],", "3"] = ["1", ",2"] := by
  decide +kernel

end ResultCursor

end SqlppBench
