import SqlppBench.Proofs.Connector.Remaining
import SqlppBench.Proofs.Http.Lines
import SqlppBench.Proofs.Text.Trimming

/-! # Records on lines

How a service puts records on the lines of a body (`PrintsRecords`), and that a cursor reads them
off again (`remaining_of_prints`): neither the lines around the results, nor blank lines, nor commas
and blanks around a record make a difference.
-/

namespace SqlppBench.ResultCursor

open Text

/-- Blanks within a line. -/
def IsGap (s : List Char) : Prop := AllBlank s ∧ '\n' ∉ s

/-- What may stand on a line around a record: blanks, and one comma between them. -/
inductive Margin : List Char → Prop where
  | blanks {s : List Char} (h : IsGap s) : Margin s
  | comma {before after : List Char} (hbefore : IsGap before) (hafter : IsGap after) :
    Margin (before ++ ',' :: after)

/-- A line that holds a text, with a margin on each side. -/
def Frames (line text : String) : Prop :=
  ∃ before after, Margin before ∧ Margin after ∧ line.toList = before ++ text.toList ++ after

/-- The lines of results from the opening bracket on: those of the records, blank ones between them,
and one with the closing bracket. -/
inductive ResultLines : List String → List String → Prop where
  | closing {line : String} (h : Frames line "]") : ResultLines [] [line]
  | blank {line : String} {records lines : List String} (h : IsGap line.toList)
      (others : ResultLines records lines) : ResultLines records (line :: lines)
  | record {line record : String} {records lines : List String} (h : Frames line record)
      (others : ResultLines records lines) : ResultLines (record :: records) (line :: lines)

/-- A line before the results: it does not begin as the one that opens them. -/
def IsPreamble (line : String) : Prop :=
  '\n' ∉ line.toList ∧ ¬ opening <+: trimChars line.toList

/-- A line that opens the results, if `first` follows the bracket on it. -/
def Opens (line first : String) : Prop :=
  ∃ lead gap, IsGap lead ∧ IsGap gap ∧
    line.toList = lead ++ (opening ++ (gap ++ '[' :: first.toList))

/-- A body that holds records: some lines, the results, and anything at all behind them. The body
may be cut off behind the results. -/
def PrintsRecords (body : Http.Body) (records : List String) : Prop :=
  ∃ preamble line first lines trailing,
    (∀ line ∈ preamble, IsPreamble line) ∧ Opens line first ∧
      ResultLines records (first :: lines) ∧
      body.bytes = [Http.lineFeed].intercalate
        ((preamble ++ line :: lines).map Utf8.encode ++ trailing) ∧
      (trailing ≠ [] ∨ body.failure = none)

/-- A record that can be told from what is around it. -/
structure IsRecord (record : String) : Prop where
  isLine : '\n' ∉ record.toList
  opens : record.toList.head? = some '\x7b'
  closes : record.toList.getLast? = some '\x7d'

theorem isGap_nil : IsGap [] := ⟨allBlank_nil, by simp⟩

theorem isGap_space : IsGap [' '] := by
  constructor
  · intro c hc
    rw [List.mem_singleton.1 hc]
    decide
  · decide

/-- A record may stand on the line that opens the results. -/
theorem printsRecords_singleton (record : String) : PrintsRecords
    ⟨[Http.lineFeed].intercalate (["\"results\": [ " ++ record, "]"].map Utf8.encode), none⟩
    [record] := by
  have hopening : opening = '"' :: "results\":".toList := by decide
  have hopens : Opens ("\"results\": [ " ++ record) (" " ++ record) := by
    refine ⟨[], [' '], isGap_nil, isGap_space, ?_⟩
    rw [hopening, String.toList_append, String.toList_append]
    rfl
  have hrecord : Frames (" " ++ record) record :=
    ⟨[' '], [], .blanks isGap_space, .blanks isGap_nil, by simp⟩
  have hbracket : Frames "]" "]" := ⟨[], [], .blanks isGap_nil, .blanks isGap_nil, by simp⟩
  refine ⟨[], _, _, ["]"], [], by simp, hopens, .record hrecord (.closing hbracket), ?_, .inr rfl⟩
  simp

/-! ## One line -/

/-- A text that neither begins nor ends with a blank or a comma. -/
structure IsSolid (s : List Char) : Prop where
  head : ∃ c, s.head? = some c ∧ isBlank c = false ∧ c ≠ ','
  last : ∃ c, s.getLast? = some c ∧ isBlank c = false ∧ c ≠ ','

theorem isSolid_bracket : IsSolid "]".toList :=
  ⟨⟨']', rfl, by decide, by decide⟩, ⟨']', rfl, by decide, by decide⟩⟩

theorem IsRecord.isSolid {record : String} (h : IsRecord record) : IsSolid record.toList :=
  ⟨⟨'\x7b', h.opens, by decide, by decide⟩, ⟨'\x7d', h.closes, by decide, by decide⟩⟩

theorem IsSolid.tight {s : List Char} (h : IsSolid s) : Tight s := by
  obtain ⟨first, hfirst, hfirstBlank, -⟩ := h.head
  obtain ⟨last, hlast, hlastBlank, -⟩ := h.last
  refine ⟨fun c hc => ?_, fun c hc => ?_⟩
  · rw [hfirst, Option.some.injEq] at hc
    exact hc ▸ hfirstBlank
  · rw [hlast, Option.some.injEq] at hc
    exact hc ▸ hlastBlank

/-- A record has no blanks around it. -/
theorem IsRecord.trim_eq {record : String} (h : IsRecord record) : trim record = record := by
  have htrim := trimChars_of_tight h.isSolid.tight allBlank_nil allBlank_nil
  rw [List.nil_append, List.append_nil] at htrim
  rw [trim, htrim, String.ofList_toList]

/-- What is left of the margin in front of a text when the line is trimmed, and of that without its
comma. -/
theorem Margin.front {before : List Char} (h : Margin before) :
    ∃ blanks kept inner, AllBlank blanks ∧ AllBlank inner ∧ before = blanks ++ kept ∧
      (kept = [] ∧ inner = [] ∨ kept = ',' :: inner) := by
  cases h with
  | blanks h => exact ⟨before, [], [], h.1, allBlank_nil, by simp, .inl ⟨rfl, rfl⟩⟩
  | @comma outer inner houter hinner =>
      exact ⟨outer, ',' :: inner, inner, houter.1, hinner.1, rfl, .inr rfl⟩

/-- What is left of the margin behind a text when the line is trimmed, and of that without its
comma. -/
theorem Margin.back {after : List Char} (h : Margin after) :
    ∃ blanks kept inner, AllBlank blanks ∧ AllBlank inner ∧ after = kept ++ blanks ∧
      (kept = [] ∧ inner = [] ∨ kept = inner ++ [',']) := by
  cases h with
  | blanks h => exact ⟨after, [], [], h.1, allBlank_nil, by simp, .inl ⟨rfl, rfl⟩⟩
  | @comma inner outer hinner houter =>
      exact ⟨outer, inner ++ [','], inner, houter.1, hinner.1, by simp, .inr rfl⟩

/-- The comma in front of a text is dropped. -/
theorem dropFirst_front {kept inner s : List Char} {c : Char}
    (h : kept = [] ∧ inner = [] ∨ kept = ',' :: inner) (hs : s.head? = some c) (hc : c ≠ ',') :
    dropFirst ',' (kept ++ s) = inner ++ s := by
  rcases h with ⟨rfl, rfl⟩ | rfl
  · simp [dropFirst, hs, hc]
  · simp [dropFirst]

/-- The comma behind a text is dropped. -/
theorem dropLast_back {kept inner s : List Char} {c : Char}
    (h : kept = [] ∧ inner = [] ∨ kept = inner ++ [',']) (hs : s.getLast? = some c)
    (hc : c ≠ ',') : dropLast ',' (s ++ kept) = s ++ inner := by
  rcases h with ⟨rfl, rfl⟩ | rfl
  · simp [dropLast, hs, hc]
  · rw [← List.append_assoc]
    simp [dropLast]

/-- A text comes off its line as it is. -/
theorem stripCommas_of_frames {line text : String} (h : Frames line text)
    (solid : IsSolid text.toList) : stripCommas line.toList = text.toList := by
  obtain ⟨before, after, hbefore, hafter, hline⟩ := h
  obtain ⟨lead, front, front', hlead, hfront', rfl, hfront⟩ := hbefore.front
  obtain ⟨trail, back, back', htrail, hback', rfl, hback⟩ := hafter.back
  have htight := solid.tight
  obtain ⟨first, hfirst, hfirstBlank, hfirstComma⟩ := solid.head
  obtain ⟨last, hlast, hlastBlank, hlastComma⟩ := solid.last
  generalize text.toList = chars at *
  have hcomma : isBlank ',' = false := by decide
  -- with its commas the text still has no blank at either end
  have hkept : Tight (front ++ chars ++ back) := by
    refine ⟨fun c hc => ?_, fun c hc => ?_⟩
    · rcases hfront with ⟨rfl, rfl⟩ | rfl
      · simp only [List.nil_append, List.head?_append, hfirst, Option.some_or,
          Option.some.injEq] at hc
        exact hc ▸ hfirstBlank
      · simp only [List.cons_append, List.head?_cons, Option.some.injEq] at hc
        exact hc ▸ hcomma
    · rcases hback with ⟨rfl, rfl⟩ | rfl
      · simp only [List.append_nil, List.getLast?_append, hlast, Option.some_or,
          Option.some.injEq] at hc
        exact hc ▸ hlastBlank
      · simp only [List.getLast?_append, List.getLast?_singleton, Option.some_or,
          Option.some.injEq] at hc
        exact hc ▸ hcomma
  have htrim : trimChars line.toList = front ++ chars ++ back := by
    rw [hline, ← trimChars_of_tight hkept hlead htrail]
    simp only [List.append_assoc]
  have hheads : (chars ++ back).head? = some first := by
    rw [List.head?_append, hfirst, Option.some_or]
  have hlasts : (front' ++ chars).getLast? = some last := by
    rw [List.getLast?_append, hlast, Option.some_or]
  rw [stripCommas, htrim, List.append_assoc, dropFirst_front hfront hheads hfirstComma,
    ← List.append_assoc, dropLast_back hback hlasts hlastComma]
  exact trimChars_of_tight htight hfront' hback'

theorem stripCommas_congr {s t : List Char} (h : trimChars s = trimChars t) :
    stripCommas s = stripCommas t := by
  rw [stripCommas, stripCommas, h]

/-- What arrives of a line is trimmed to the same text. -/
theorem exists_of_arrives {line : String} {arrived : Http.Line} (h : Http.Arrives line arrived) :
    ∃ s, arrived = .ok s ∧ trimChars s.toList = trimChars line.toList := by
  rcases h with rfl | ⟨s, hline, rfl⟩
  · exact ⟨line, rfl, rfl⟩
  · have hreturn : AllBlank ['\x0D'] := by
      intro c hc
      rw [List.mem_singleton.1 hc]
      decide
    refine ⟨String.ofList s, rfl, ?_⟩
    rw [hline, trimChars_append hreturn, String.toList_ofList]

/-! ## Many lines -/

/-- A line counts for the record that comes off it. -/
theorem remainingOf_of_candidate {state : CursorState} {line first : String} {text : List Char}
    (h : candidate? state line = some text) (hstrip : stripCommas text = stripCommas first.toList)
    (rest : List Http.Line) :
    remainingOf state (.ok line :: rest) = remainingOf .insideResults (.ok first :: rest) := by
  have hfirst : candidate? .insideResults first = some (trimChars first.toList) := rfl
  simp only [remainingOf, h, hfirst, hstrip, stripCommas_congr (trimChars_trimChars _)]

/-- Inside the results all records come off their lines, and the closing bracket ends them. -/
theorem remainingOf_resultLines {records lines : List String} (h : ResultLines records lines)
    (hrecords : ∀ record ∈ records, IsRecord record) {arrived : List Http.Line}
    (harrived : List.Forall₂ Http.Arrives lines arrived) (rest : List Http.Line) :
    remainingOf .insideResults (arrived ++ rest) = ⟨records, none⟩ := by
  have hinside (line : String) :
      candidate? .insideResults line = some (trimChars line.toList) := rfl
  induction h generalizing arrived with
  | @closing line hline =>
      obtain ⟨s, arrived, hs, -, rfl⟩ := List.forall₂_cons_left_iff.1 harrived
      obtain ⟨s, rfl, htrim⟩ := exists_of_arrives hs
      have hbracket : stripCommas s.toList = [']'] :=
        (stripCommas_congr htrim).trans (stripCommas_of_frames hline isSolid_bracket)
      simp [remainingOf, hinside, stripCommas_congr (trimChars_trimChars _), hbracket]
  | @blank line records lines hline others ih =>
      obtain ⟨s, arrived, hs, hothers, rfl⟩ := List.forall₂_cons_left_iff.1 harrived
      obtain ⟨s, rfl, htrim⟩ := exists_of_arrives hs
      have hempty : stripCommas s.toList = [] := by
        have hnil : trimChars line.toList = trimChars [] := by
          simpa using trimChars_append hline.1 []
        rw [stripCommas_congr (htrim.trans hnil)]
        rfl
      rw [List.cons_append, remainingOf]
      simp only [hinside, stripCommas_congr (trimChars_trimChars _), hempty, if_true]
      exact ih hrecords hothers
  | @record line record records lines hline others ih =>
      obtain ⟨s, arrived, hs, hothers, rfl⟩ := List.forall₂_cons_left_iff.1 harrived
      obtain ⟨s, rfl, htrim⟩ := exists_of_arrives hs
      have hrecord := hrecords record (by simp)
      have hstrip : stripCommas s.toList = record.toList :=
        (stripCommas_congr htrim).trans (stripCommas_of_frames hline hrecord.isSolid)
      have hne : record.toList ≠ [] := by
        intro hnil
        simpa [hnil] using hrecord.opens
      -- a record begins with a brace, so it does not end the results
      have hbracket : record.toList ≠ [']'] := by
        intro heq
        simpa [heq] using hrecord.opens
      rw [List.cons_append, remainingOf]
      simp only [hinside, stripCommas_congr (trimChars_trimChars _), hstrip, hne, hbracket,
        if_false, String.ofList_toList]
      rw [ih (fun other hmem => hrecords other (List.mem_cons_of_mem record hmem)) hothers]
      rfl

/-- Lines before the results are passed over. -/
theorem remainingOf_preamble {preamble : List String} (h : ∀ line ∈ preamble, IsPreamble line)
    {arrived : List Http.Line} (harrived : List.Forall₂ Http.Arrives preamble arrived)
    (rest : List Http.Line) :
    remainingOf .beforeResults (arrived ++ rest) = remainingOf .beforeResults rest := by
  induction harrived with
  | nil => rfl
  | @cons line s lines arrived hs _ ih =>
      obtain ⟨s, rfl, htrim⟩ := exists_of_arrives hs
      have hnone : candidate? .beforeResults s = none := by
        have hpreamble := (h line (by simp)).2
        rw [← htrim, ← after?_eq_none_iff] at hpreamble
        simp [candidate?, opened?, hpreamble]
      rw [List.cons_append, remainingOf]
      simp only [hnone]
      exact ih fun other hmem => h other (List.mem_cons_of_mem line hmem)

/-- The line that opens the results counts for what follows the bracket on it. -/
theorem remainingOf_opens {line first : String} (h : Opens line first) {arrived : Http.Line}
    (harrived : Http.Arrives line arrived) (rest : List Http.Line) :
    remainingOf .beforeResults (arrived :: rest) =
      remainingOf .insideResults (.ok first :: rest) := by
  obtain ⟨lead, gap, hlead, hgap, hline⟩ := h
  obtain ⟨s, rfl, htrim⟩ := exists_of_arrives harrived
  have htrimmed : trimChars s.toList =
      opening ++ (gap ++ '[' :: dropBlanksEnd first.toList) := by
    have hopening : opening = '"' :: "results\":".toList := by decide
    have hquote : dropBlanks (opening ++ (gap ++ '[' :: first.toList)) =
        opening ++ (gap ++ '[' :: first.toList) := by
      rw [hopening]
      exact dropBlanks_cons (by decide) _
    rw [htrim, hline, trimChars, dropBlanks_append hlead.1, hquote, ← List.append_assoc,
      dropBlanksEnd_append_cons (by decide), List.append_assoc]
  have hcandidate : candidate? .beforeResults s = some (dropBlanksEnd first.toList) := by
    have hbracket : dropBlanks ('[' :: dropBlanksEnd first.toList) =
        '[' :: dropBlanksEnd first.toList := dropBlanks_cons (by decide) _
    simp only [candidate?, opened?, htrimmed, after?_append, Option.map_some,
      dropBlanks_append hgap.1, hbracket]
    rfl
  exact remainingOf_of_candidate hcandidate
    (stripCommas_congr (trimChars_dropBlanksEnd first.toList)) rest

/-- The lines of the results are lines. -/
theorem newline_not_mem_of_resultLines {records lines : List String}
    (h : ResultLines records lines) (hrecords : ∀ record ∈ records, IsRecord record) :
    ∀ line ∈ lines, '\n' ∉ line.toList := by
  have hmargin {s : List Char} (h : Margin s) : '\n' ∉ s := by
    cases h with
    | blanks h => exact h.2
    | comma hbefore hafter =>
        simp only [List.mem_append, List.mem_cons, not_or]
        exact ⟨hbefore.2, by decide, hafter.2⟩
  have hframes {line text : String} (h : Frames line text) (htext : '\n' ∉ text.toList) :
      '\n' ∉ line.toList := by
    obtain ⟨before, after, hbefore, hafter, hline⟩ := h
    rw [hline, List.mem_append, List.mem_append]
    rintro ((hmem | hmem) | hmem)
    · exact hmargin hbefore hmem
    · exact htext hmem
    · exact hmargin hafter hmem
  induction h with
  | closing h => simpa using hframes h (by decide)
  | blank h others ih =>
      intro line hline
      rcases List.mem_cons.1 hline with rfl | hline
      · exact h.2
      · exact ih hrecords line hline
  | @record _ record _ _ h others ih =>
      intro line hline
      rcases List.mem_cons.1 hline with rfl | hline
      · exact hframes h (hrecords record (by simp)).isLine
      · exact ih (fun other hmem => hrecords other (List.mem_cons_of_mem record hmem)) line hline

/-- The last line of the results is not empty. -/
theorem getLast?_of_resultLines {records lines : List String} (h : ResultLines records lines) :
    ∃ line, lines.getLast? = some line ∧ line ≠ "" := by
  induction h with
  | @closing line h =>
      obtain ⟨before, after, -, -, hline⟩ := h
      refine ⟨line, rfl, ?_⟩
      rintro rfl
      simp at hline
  | blank h others ih =>
      obtain ⟨last, hlast, hne⟩ := ih
      exact ⟨last, by rw [List.getLast?_cons, hlast]; rfl, hne⟩
  | record h others ih =>
      obtain ⟨last, hlast, hne⟩ := ih
      exact ⟨last, by rw [List.getLast?_cons, hlast]; rfl, hne⟩

theorem Opens.newline_not_mem {line first : String} (h : Opens line first)
    (hfirst : '\n' ∉ first.toList) : '\n' ∉ line.toList := by
  obtain ⟨lead, gap, hlead, hgap, hline⟩ := h
  have hopening : '\n' ∉ opening := by decide
  rw [hline]
  simp only [List.mem_append, List.mem_cons, not_or]
  exact ⟨hlead.2, hopening, hgap.2, by decide, hfirst⟩

/-- What arrives of two groups of lines arrives of the one and of the other. -/
theorem exists_of_forall₂_append {α β : Type} {R : α → β → Prop} {s t : List α} {u : List β}
    (h : List.Forall₂ R (s ++ t) u) :
    ∃ v w, List.Forall₂ R s v ∧ List.Forall₂ R t w ∧ u = v ++ w := by
  induction s generalizing u with
  | nil => exact ⟨[], u, .nil, h, rfl⟩
  | cons a s ih =>
      obtain ⟨b, u, hab, hrest, rfl⟩ := List.forall₂_cons_left_iff.1 h
      obtain ⟨v, w, hs, ht, rfl⟩ := ih hrest
      exact ⟨b :: v, w, .cons hab hs, ht, rfl⟩

/-- A cursor reads off a body the records that were put on it, and no fault. -/
theorem remaining_of_prints {body : Http.Body} {records : List String}
    (h : PrintsRecords body records) (hrecords : ∀ record ∈ records, IsRecord record) :
    (ofLines body.lines).remaining = ⟨records, none⟩ := by
  obtain ⟨preamble, line, first, lines, trailing, hpreamble, hopens, hresults, hbytes, hend⟩ := h
  obtain ⟨bytes, failure⟩ := body
  have hnewline := newline_not_mem_of_resultLines hresults hrecords
  have hlines : ∀ l ∈ preamble ++ line :: lines, '\n' ∉ l.toList := by
    intro l hl
    rcases List.mem_append.1 hl with hl | hl
    · exact (hpreamble l hl).1
    rcases List.mem_cons.1 hl with rfl | hl
    · exact hopens.newline_not_mem (hnewline first (by simp))
    · exact hnewline l (List.mem_cons_of_mem first hl)
  -- the line with the closing bracket is not empty, so it arrives even if it is the last
  have hlast : trailing ≠ [] ∨
      failure = none ∧ (preamble ++ line :: lines).getLast? ≠ some "" := by
    refine hend.imp_right fun hfailure => ⟨hfailure, ?_⟩
    rw [List.getLast?_append]
    cases lines with
    | nil =>
        intro hempty
        obtain rfl : line = "" := by simpa using hempty
        obtain ⟨lead, gap, -, -, hline⟩ := hopens
        have hlength := congrArg List.length hline
        simp at hlength
    | cons next lines =>
        obtain ⟨last, hlast, hne⟩ := getLast?_of_resultLines hresults
        rw [List.getLast?_cons_cons] at hlast ⊢
        rw [hlast]
        simpa using hne
  -- what arrives is the preamble, the line that opens the results, and theirs
  obtain ⟨arrived, rest, hbody, harrived⟩ := Http.forall₂_arrives_lines hlines hlast
  obtain rfl : bytes = _ := hbytes
  obtain ⟨before, behind, hbefore, hbehind, rfl⟩ := exists_of_forall₂_append harrived
  obtain ⟨opened, others, hopened, hothers, rfl⟩ := List.forall₂_cons_left_iff.1 hbehind
  have hinside := remainingOf_resultLines hresults hrecords
    (List.Forall₂.cons (Or.inl rfl) hothers) rest
  rw [ofLines, remaining, hbody, List.append_assoc, remainingOf_preamble hpreamble hbefore,
    List.cons_append, remainingOf_opens hopens hopened]
  exact hinside

end SqlppBench.ResultCursor
