import SqlppBench.Proofs.Connector.Messages
import SqlppBench.Proofs.Connector.Visibility
import SqlppBench.Proofs.Text.Pieces

/-! # The message of a refusal

The body of a refusal tells its message in a text, and the message survives what happens to the
text. However a JSON text is laid out, the message is that of the value. If the text was cut, it no
longer stands for a value, and its lines are searched for the first mark; when the message stands on
a line of its own, nothing but blanks and commas behind it, the search finds the same message
(`findSome?_textLines`). A text that still stands for a value after the cut stands for the value it
stood for before, so the two searches agree (`ofText?_of_cut`). A call that is refused with such a
text fails with its message (`service_message_survives`).
-/

namespace SqlppBench

open Text

/-- The literal of a string begins and ends with a quote. -/
theorem Json.IsString.tight {t : List Char} {s : String} (h : Json.IsString t s) : Tight t := by
  obtain ⟨body, rfl, -⟩ := h
  constructor
  · rintro c ⟨⟩
    decide
  · intro c hc
    rw [← List.cons_append, List.getLast?_concat] at hc
    obtain rfl := Option.some.inj hc
    decide

theorem Json.IsString.getLast? {t : List Char} {s : String} (h : Json.IsString t s) :
    t.getLast? = some '"' := by
  obtain ⟨body, rfl, -⟩ := h
  rw [← List.cons_append, List.getLast?_concat]

/-- The literal of a string stands for the string. -/
theorem Json.IsString.parse_eq {t : List Char} {s : String} (h : Json.IsString t s) :
    Json.parse (String.ofList t) = .ok (.string s) :=
  Json.parse_eq_ok_iff.2 ⟨[], t, [], by simp, Json.isSpaces_nil, Json.isSpaces_nil,
    (Json.IsPlain.string h).isText _⟩

namespace ServiceMessage

variable {line : List Char} {m : String}

/-! ## Lines -/

/-- A line on which the first mark is followed by the literal of a message, and then by commas at
most, blanks apart. -/
inductive IsMessageLine : List Char → String → Prop
  | intro {front ws literal ws' commas ws'' : List Char} {m : String} : ¬ mark <:+: front →
      AllBlank ws → Json.IsString literal m → AllBlank ws' → (∀ c ∈ commas, c = ',') →
      AllBlank ws'' →
      IsMessageLine (front ++ (mark ++ (ws ++ (literal ++ (ws' ++ (commas ++ ws'')))))) m

/-- A text with such a line in it, and no mark on any line before. -/
def HasMessageLine (text : List Char) (m : String) : Prop :=
  ∃ earlier line later, text = earlier ++ (line ++ later) ∧ '\n' ∉ line ∧
    (earlier = [] ∨ ∃ lines, earlier = lines ++ ['\n']) ∧
    (later = [] ∨ ∃ lines, later = '\n' :: lines) ∧
    ¬ mark <:+: earlier ∧ IsMessageLine line m

/-- A line that was ended by a carriage return and a line feed, without the carriage return. -/
def withoutReturn (line : List Char) : List Char :=
  if line.getLast? == some '\x0D' then line.dropLast else line

theorem textLines_eq (s : List Char) :
    textLines s = (piecesBy (· == '\n') s).map withoutReturn := rfl

theorem borderless_mark : Borderless mark := by
  have hparts : ∀ part ∈ mark.tails, part <+: mark → part = [] ∨ part = mark := by decide
  intro part hsuffix hbegins
  exact hparts part ((List.mem_tails _ _).2 hsuffix) hbegins

/-- What is read as a literal of what follows a mark. -/
def literalOf (rest : List Char) : List Char :=
  dropBlanksEnd (dropEndWhile (· == ',') (trimChars rest))

/-- A line is split at its first mark. -/
theorem ofLine?_append {front : List Char} (h : ¬ mark <:+: front) (rest : List Char) :
    ofLine? (front ++ (mark ++ rest)) =
      (Json.readAll Json.anyText (String.ofList (literalOf rest))).toOption := by
  rw [ofLine?, splitAtFirst?_append borderless_mark h]
  rfl

theorem ofLine?_of_not_infix (h : ¬ mark <:+: line) : ofLine? line = none := by
  rw [ofLine?, splitAtFirst?_of_not_infix h]

/-- Blanks around a literal with commas behind it are trimmed. -/
theorem exists_trimChars {ws literal ws' commas ws'' : List Char} (hws : AllBlank ws)
    (hliteral : Json.IsString literal m) (hws' : AllBlank ws') (hcommas : ∀ c ∈ commas, c = ',')
    (hws'' : AllBlank ws'') :
    ∃ blanks, AllBlank blanks ∧
      trimChars (ws ++ (literal ++ (ws' ++ (commas ++ ws'')))) = literal ++ blanks ++ commas := by
  rcases List.eq_nil_or_concat commas with rfl | ⟨others, c, rfl⟩
  · -- without commas all blanks are at the end
    have hblanks : AllBlank (ws' ++ ws'') := by
      intro c hc
      exact (List.mem_append.1 hc).elim (hws' c) (hws'' c)
    refine ⟨[], allBlank_nil, ?_⟩
    have htrim := trimChars_of_tight hliteral.tight hws hblanks
    simpa using htrim
  · obtain rfl : c = ',' := hcommas c (by simp)
    rw [List.concat_eq_append] at hcommas ⊢
    have htight : Tight (literal ++ ws' ++ (others ++ [','])) := by
      constructor
      · intro c hc
        refine hliteral.tight.1 c ?_
        obtain ⟨body, rfl, -⟩ := hliteral
        exact hc
      · intro c hc
        rw [← List.append_assoc, List.getLast?_concat] at hc
        obtain rfl := Option.some.inj hc
        decide
    refine ⟨ws', hws', ?_⟩
    have htrim := trimChars_of_tight htight hws hws''
    simpa using htrim

/-- Blanks and commas around a literal are left out. -/
theorem literalOf_eq {ws literal ws' commas ws'' : List Char} (hws : AllBlank ws)
    (hliteral : Json.IsString literal m) (hws' : AllBlank ws') (hcommas : ∀ c ∈ commas, c = ',')
    (hws'' : AllBlank ws'') :
    literalOf (ws ++ (literal ++ (ws' ++ (commas ++ ws'')))) = literal := by
  obtain ⟨blanks, hblanks, htrim⟩ := exists_trimChars hws hliteral hws' hcommas hws''
  have hends : ∀ c, (literal ++ blanks).getLast? = some c → (c == ',') = false := by
    intro c hc
    rw [beq_eq_false_iff_ne]
    rintro rfl
    rw [List.getLast?_append, hliteral.getLast?] at hc
    cases hlast : blanks.getLast? with
    | none => simp [hlast] at hc
    | some d =>
        obtain rfl : d = ',' := by simpa [hlast] using hc
        exact absurd (hblanks ',' (List.mem_of_getLast? hlast)) (by decide)
  calc literalOf (ws ++ (literal ++ (ws' ++ (commas ++ ws''))))
      = dropBlanksEnd (dropEndWhile (· == ',') (literal ++ blanks ++ commas)) := by
        rw [literalOf, htrim]
    _ = dropBlanksEnd (dropEndWhile (· == ',') (literal ++ blanks)) := by
        rw [dropEndWhile_append fun c hc => by simp [hcommas c hc]]
    _ = dropBlanksEnd (literal ++ blanks) := by rw [dropEndWhile_of_getLast hends]
    _ = dropBlanksEnd literal := dropEndWhile_append hblanks literal
    _ = literal := dropBlanksEnd_of_getLast hliteral.tight.2

/-- The message on such a line is found, whether or not a carriage return ends the line. -/
theorem ofLine?_withoutReturn (h : IsMessageLine line m) :
    ofLine? (withoutReturn line) = some m := by
  cases h with
  | @intro front ws literal ws' commas ws'' _ hfront hws hliteral hws' hcommas hws'' =>
  have hrest : literalOf (ws ++ (literal ++ (ws' ++ (commas ++ ws'')))) = literal :=
    literalOf_eq hws hliteral hws' hcommas hws''
  have hread : Json.readAll Json.anyText (String.ofList literal) = .ok m :=
    (Json.readsShape_anyText _).readAll_iff_parse.2 hliteral.parse_eq
  have hne : ws ++ (literal ++ (ws' ++ (commas ++ ws''))) ≠ [] := by
    obtain ⟨body, rfl, -⟩ := hliteral
    simp
  generalize ws ++ (literal ++ (ws' ++ (commas ++ ws''))) = rest at hrest hne
  unfold withoutReturn
  split
  · rename_i hreturn
    -- the carriage return is a blank behind the mark, so it would be trimmed anyway
    obtain ⟨others, c, rfl⟩ := (List.eq_nil_or_concat rest).resolve_left hne
    rw [List.concat_eq_append] at hrest hreturn ⊢
    obtain rfl : c = '\x0D' := by
      rw [← List.append_assoc, ← List.append_assoc, List.getLast?_concat] at hreturn
      simpa using hreturn
    have htrim : literalOf (others ++ ['\x0D']) = literalOf others := by
      rw [literalOf, trimChars_append (by simp [AllBlank]; decide), literalOf]
    rw [← List.append_assoc, ← List.append_assoc, List.dropLast_concat, List.append_assoc,
      ofLine?_append hfront, ← htrim, hrest, hread]
    rfl
  · rw [ofLine?_append hfront, hrest, hread]
    rfl

/-- A line without the mark has no message. -/
theorem ofLine?_withoutReturn_of_not_infix (h : ¬ mark <:+: line) :
    ofLine? (withoutReturn line) = none := by
  apply ofLine?_of_not_infix
  intro hwithin
  apply h
  unfold withoutReturn at hwithin
  split at hwithin
  · exact hwithin.trans (List.dropLast_prefix line).isInfix
  · exact hwithin

/-- The lines of a text tell the message, whatever is behind the line that has it. -/
theorem findSome?_textLines {text : List Char} (h : HasMessageLine text m) :
    (textLines text).findSome? ofLine? = some m := by
  obtain ⟨earlier, line, later, rfl, hline, hearlier, hlater, hnone, hmessage⟩ := h
  have hsame : ∀ c ∈ line, (c == '\n') = false := by
    intro c hc
    rw [beq_eq_false_iff_ne]
    rintro rfl
    exact hline hc
  -- the line is a piece of its own, and no piece before it has the mark
  obtain ⟨before, others, hpieces, hbefore⟩ := exists_piecesBy_of_between hsame
    (hearlier.imp_right fun ⟨lines, h⟩ => ⟨lines, '\n', h, rfl⟩)
    (hlater.imp_right fun ⟨lines, h⟩ => ⟨'\n', lines, h, rfl⟩)
  have hskipped : (before.map withoutReturn).findSome? ofLine? = none := by
    rw [List.findSome?_eq_none_iff]
    intro piece hpiece
    obtain ⟨original, horiginal, rfl⟩ := List.mem_map.1 hpiece
    exact ofLine?_withoutReturn_of_not_infix fun hwithin =>
      hnone (hwithin.trans (hbefore original horiginal))
  rw [textLines_eq, hpieces, List.map_append, List.map_cons, List.findSome?_append, hskipped,
    List.findSome?_cons, ofLine?_withoutReturn hmessage]
  rfl

/-! ## Texts -/

/-- The ways in which a text carries a message. -/
inductive Carries : String → String → Prop
  /-- It stands for a value with no other member of that name. -/
  | only {text : String} {v : Json.Value} {m : String} : Json.parse text = .ok v →
      v.OnlyMessage m → Carries text m
  /-- It stands for a value in which the message is the first one. -/
  | first {text : String} {v : Json.Value} {m : String} : Json.parse text = .ok v →
      v.FirstMessage m → Carries text m
  /-- It is the beginning of such a text, cut behind the line that has the message. -/
  | cut {text rest : String} {v : Json.Value} {m : String} : Json.parse (text ++ rest) = .ok v →
      v.OnlyMessage m → HasMessageLine text.toList m → Carries text m

theorem ofText?_of_parse {text : String} {v : Json.Value} (h : Json.parse text = .ok v)
    (hfirst : v.FirstMessage m) : ofText? text = some m := by
  have hfind := (Json.Value.find?_eq_some_iff (Json.isOrdered_of_parse h)).2 hfirst
  simp [ofText?, h, Except.toOption, hfind]

/-- A text that was cut has its message on a line, unless it still stands for the value. -/
theorem ofText?_of_cut {text rest : String} {v : Json.Value} (h : Json.parse (text ++ rest) = .ok v)
    (hfirst : v.FirstMessage m) (hline : HasMessageLine text.toList m) :
    ofText? text = some m := by
  have hlines := findSome?_textLines hline
  unfold ofText?
  split
  · rename_i m' hfound
    obtain ⟨v', hparse, hfind⟩ := Option.bind_eq_some_iff.1 hfound
    have hread : Json.parse text = .ok v' := by
      cases hresult : Json.parse text with
      | error e => simp [hresult, Except.toOption] at hparse
      | ok w =>
          rw [hresult] at hparse
          exact congrArg Except.ok (Option.some.inj hparse)
    have hplain : ∀ n, v' ≠ .number n := by
      rintro n rfl
      cases hfind
    obtain rfl := Json.eq_of_parse_append hread hplain h
    have hfirst' := (Json.Value.find?_eq_some_iff (Json.isOrdered_of_parse h)).1 hfind
    rw [hfirst.unique hfirst']
  · exact hlines

theorem Carries.ofText?_eq {text : String} (h : Carries text m) : ofText? text = some m := by
  cases h with
  | only hparse honly => exact ofText?_of_parse hparse honly.first
  | first hparse hfirst => exact ofText?_of_parse hparse hfirst
  | cut hparse honly hline => exact ofText?_of_cut hparse honly.first hline

/-- What begins with a byte order mark stands for nothing. -/
theorem head?_ne_of_parse {text : String} {v : Json.Value} (h : Json.parse text = .ok v) :
    text.toList.head? ≠ some '\uFEFF' := by
  intro hhead
  obtain ⟨s, hs⟩ : ∃ s, text.toList = '\uFEFF' :: s := by
    cases htext : text.toList with
    | nil => simp [htext] at hhead
    | cons c s =>
        rw [htext] at hhead
        exact ⟨s, by rw [Option.some.inj hhead]⟩
  obtain ⟨c, hread, -⟩ := Json.readAll_eq_ok_iff.1 h
  rw [Json.Cursor.ofString, hs, Json.value.eq_def] at hread
  dsimp only at hread
  rw [Json.skipSpaces_cons (by decide)] at hread
  cases hread

/-- A body in UTF-8 that carries a message has the text that carries it. -/
theorem Carries.text_eq {text : String} (h : Carries text m) :
    Http.Body.text ⟨Utf8.encode text, none⟩ = text := by
  apply Utf8.decodeBody_encode
  cases h with
  | only hparse _ => exact head?_ne_of_parse hparse
  | first hparse _ => exact head?_ne_of_parse hparse
  | cut hparse _ hline =>
      have hhead := head?_ne_of_parse hparse
      -- what was left of the text is not empty, since there is a mark in it
      obtain ⟨earlier, line, later, htext, -, -, -, -, hmessage⟩ := hline
      have hmark : mark ≠ [] := by decide
      have hne : line ≠ [] := by
        cases hmessage
        simp [hmark]
      rw [String.toList_append, List.head?_append_of_ne_nil _ (by simp [htext, hne])] at hhead
      exact hhead

end ServiceMessage

namespace Connector

open ServiceMessage

variable {c : Connector} {a : Action} {r : Http.Request} {w : World}

/-- The request that a call posts on a connector without open results. -/
inductive Posts (c : Connector) : Action → Http.Request → Prop
  | effect (statement : String) : Posts c (.effect statement) (c.requestOf statement)
  | results (statement : String) : Posts c (.results statement) (c.requestOf statement)
  | primaryKey {name : Catalog.RelationName} : name.check = .ok () →
      Posts c (.primaryKey name) (c.requestOf name.primaryKeyStatement)
  | fields {name : Catalog.RelationName} : name.check = .ok () →
      Posts c (.fields name) (c.requestOf name.fieldsStatement)

/-- Whatever is called, an answer that is a failure is the failure of the call. -/
theorem run_of_refusal {fault : Error} (h : c.results = none) (hposts : c.Posts a r)
    (hfault : bodyOf (w.answer r) = .error fault) :
    (c.perform a).run w =
      ((.error fault, { c.afterAnswer (w.answer r) with error := fault.cause }), w.posted r) := by
  have hrecords : recordsOf (w.answer r) = .error fault := by rw [recordsOf, hfault]
  cases hposts with
  | effect statement =>
      have heffect : effectOf (w.answer (c.requestOf statement)) = .error fault := by
        rw [effectOf, hfault]
      rw [perform, run_replying, run_executeForEffect_of_idle h, heffect]
      rfl
  | results statement =>
      rw [perform, run_replying, run_executeForResults_of_idle h, hfault]
      rfl
  | primaryKey named =>
      rw [perform, run_replying, primaryKey, run_discover_of_idle h named, hrecords]
      rfl
  | fields named =>
      rw [perform, run_replying, fields, run_discover_of_idle h named, hrecords]
      rfl

/-- The message of the service survives its formatting, and being cut. -/
structure MessagesSurvive (extract : String → Option String) : Prop where
  /-- A text that carries a message gives it. -/
  carried : ∀ text m, Carries text m → extract text = some m
  /-- Of several messages in a value the first one is given. -/
  first : ∀ text v path m, Json.parse text = .ok v → v.MessageAt path m →
    ∃ m', v.FirstMessage m' ∧ extract text = some m'
  /-- Texts that stand for one value give the same message. -/
  same : ∀ text text' v path m, Json.parse text = .ok v → Json.parse text' = .ok v →
    v.MessageAt path m → extract text = extract text'
  /-- A refusal whose body is such a text makes the call fail with the message, and leaves nothing
  open. -/
  refused : ∀ text m (c : Connector) a r w status body, Carries text m → c.results = none →
    c.Posts a r → w.answer r = .response status body → status ≠ 200 → body.text = text →
      let run := (c.perform a).run w
      run.1.1 = .error (.protocol m) ∧ run.1.2.error = m ∧ run.1.2.results = none ∧
        run.2 = w.posted r
  /-- Written in UTF-8, such a text is the text of a body. -/
  arrives : ∀ text m, Carries text m → Http.Body.text ⟨Utf8.encode text, none⟩ = text

theorem service_message_survives : MessagesSurvive ServiceMessage.ofText? where
  carried _ _ h := h.ofText?_eq
  first text v path m hparse hpath := by
    obtain ⟨m', hfirst⟩ := hpath.exists_first (Json.isOrdered_of_parse hparse)
    exact ⟨m', hfirst, ofText?_of_parse hparse hfirst⟩
  same text text' v path m hparse hparse' hpath := by
    obtain ⟨m', hfirst⟩ := hpath.exists_first (Json.isOrdered_of_parse hparse)
    rw [ofText?_of_parse hparse hfirst, ofText?_of_parse hparse' hfirst]
  refused text m c a r w status body hcarries hidle hposts hanswer hstatus htext := by
    have hmessage : ofAnswer status body = m := by
      rw [ofAnswer, htext, hcarries.ofText?_eq, Option.getD_some]
    have hfault : bodyOf (w.answer r) = .error (.protocol m) := by
      rw [hanswer, bodyOf, if_neg hstatus, hmessage]
    rw [run_of_refusal hidle hposts hfault]
    exact ⟨rfl, rfl, by simpa using hidle, rfl⟩
  arrives _ _ h := h.text_eq

/-- Quotes and commas within the message are not those around it. -/
example : ofText? "\x7b\n\"errors\": [\x7b\n\"msg\": \"no \\\"a\\\",\" ,,\n\"co" =
    some "no \"a\"," := by
  decide +kernel

end Connector

end SqlppBench
