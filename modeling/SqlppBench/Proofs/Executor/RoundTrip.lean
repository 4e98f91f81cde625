import SqlppBench.Proofs.Executor.Readiness
import SqlppBench.Proofs.Record

/-! # What was stored is read

A scan gives the rows that the service prints, and a read the first of them, with exactly the fields
that are asked for and exactly their bytes. Four layers meet here: the text of a record, the lines
of a body, the objects on them and the digits in these.
-/

namespace SqlppBench.Executor

variable {e : Executor} {w : World} {rows : List (String × FieldValues)} {names : List String}

/-- Fields of the schema are given as they are asked for. -/
theorem requested_of_drawn {requested : Option (List String)}
    (drawn : ∀ name ∈ requested.getD e.schema.fields, name ∈ e.schema.fields) :
    e.requested requested = .ok (requested.getD e.schema.fields) := by
  cases requested with
  | none => rfl
  | some names =>
      have hnone : (names.find? fun field => !e.schema.hasField field) = none := by
        rw [List.find?_eq_none]
        intro name hname
        simpa [TableSchema.hasField] using drawn name hname
      simp [Executor.requested, hnone]

/-- The texts of rows are decoded one by one. -/
theorem decodeAll_of_prints {t : Sqlpp.Target} {fields texts : List String}
    (hprints : List.Forall₂ (t.Prints fields) rows texts)
    (hnames : ∀ row ∈ rows, ∀ name ∈ names,
      name ∈ fields ∧ (row.2.get? name).isSome = true) :
    ∃ records, decodeAll names texts = .ok records ∧
      List.Forall₂ (fun row record => row.2.IsSelection names record) rows records := by
  induction hprints with
  | nil => exact ⟨[], rfl, .nil⟩
  | @cons row text rows texts hprint _ ih =>
      obtain ⟨record, hrecord, hselection⟩ := Record.decode_of_prints hprint (hnames row (by simp))
      obtain ⟨records, hrecords, hselections⟩ :=
        ih fun other hmem => hnames other (List.mem_cons_of_mem row hmem)
      refine ⟨record :: records, ?_, .cons hselection hselections⟩
      rw [decodeAll.eq_def]
      simp only [hrecord, hrecords]
      rfl

/-- The records of a body that the service printed. -/
theorem recordsOf_of_prints {t : Sqlpp.Target} {fields texts : List String}
    (hprints : List.Forall₂ (t.Prints fields) rows texts) {body : Http.Body}
    (hbody : ResultCursor.PrintsRecords body texts) :
    Connector.recordsOf (.response 200 body) = .ok texts := by
  have hrecords : ∀ text ∈ texts, ResultCursor.IsRecord text := by
    clear hbody
    induction hprints with
    | nil => simp
    | @cons row text rows texts hprint _ ih =>
        intro other hother
        rcases List.mem_cons.1 hother with rfl | hother
        · obtain ⟨ms, rfl, -⟩ := Record.exists_members_of_prints hprint
          exact Json.isRecord_compact ms
        · exact ih other hother
  have hremaining := ResultCursor.remaining_of_prints hbody hrecords
  simp only [Connector.recordsOf, Connector.bodyOf, if_true, Connector.recordsOfBody, hremaining]
  rfl

/-- A statement whose answer holds printed rows gives all of them. -/
theorem fetch_of_prints (idle : e.connector.results = none) {t : Sqlpp.Target}
    {fields texts : List String} (hprints : List.Forall₂ (t.Prints fields) rows texts)
    (hnames : ∀ row ∈ rows, ∀ name ∈ names,
      name ∈ fields ∧ (row.2.get? name).isSome = true)
    {body : Http.Body} (hbody : ResultCursor.PrintsRecords body texts) (operation : Operation)
    {statement : String}
    (hanswer : w.answer (e.connector.requestOf statement) = .response 200 body) :
    ∃ records, ((e.fetch operation statement names).run w).1.1 = .ok records ∧
      List.Forall₂ (fun row record => row.2.IsSelection names record) rows records := by
  obtain ⟨records, hrecords, hselections⟩ := decodeAll_of_prints hprints hnames
  refine ⟨records, ?_, hselections⟩
  rw [run_fetch idle, hanswer]
  simp only [recordsOf_of_prints hprints hbody]
  exact hrecords

/-- What was stored is read, whatever the keys and the bytes are. The service can print every row
for which a record was written. When it answers a scan with the rows that it prints, the scan gives
the first `count` of them in their order, each with exactly the fields that were asked for and
exactly their bytes; a read gives the first row so, and fails if there is none. -/
theorem stored_rows_are_read [Url.Idna] {config : ClientConfig} (reached : Reached config e w)
    (complete : ∀ row ∈ rows, ∀ field ∈ e.schema.fields, (row.2.get? field).isSome = true)
    {requested : Option (List String)}
    (drawn : ∀ name ∈ requested.getD e.schema.fields, name ∈ e.schema.fields)
    {texts : List String}
    (prints : List.Forall₂ (e.target.Prints e.schema.fields) rows texts)
    {body : Http.Body} (framed : ResultCursor.PrintsRecords body texts) :
    let names := requested.getD e.schema.fields
    let Selects (row : String × FieldValues) (record : FieldValues) :=
      row.2.IsSelection names record
    (∀ row, ∃ text, e.target.Prints e.schema.fields row text) ∧
    (∀ start count,
      w.answer (e.connector.requestOf (e.target.scan start count names)) = .response 200 body →
        ∃ records, ((e.scan start count requested).run w).1.1 = .ok records ∧
          List.Forall₂ Selects (rows.take count) records) ∧
      ∀ key,
        w.answer (e.connector.requestOf (e.target.read key names)) = .response 200 body →
          match rows with
          | [] => ((e.read key requested).run w).1.1 = .error (.notFound key)
          | row :: _ =>
            ∃ record, ((e.read key requested).run w).1.1 = .ok record ∧ Selects row record := by
  intro names Selects
  have known := requested_of_drawn drawn
  have hnames : ∀ row ∈ rows, ∀ name ∈ names,
      name ∈ e.schema.fields ∧ (row.2.get? name).isSome = true :=
    fun row hrow name hname => ⟨drawn name hname, complete row hrow name (drawn name hname)⟩
  refine ⟨e.target.exists_prints e.schema.fields, fun start count hanswer => ?_,
    fun key hanswer => ?_⟩
  -- all records are read, and the scan keeps the first of them
  · obtain ⟨records, hrecords, hselects⟩ :=
      fetch_of_prints reached.idle prints hnames framed .scan hanswer
    refine ⟨records.take count, ?_, List.forall₂_take count hselects⟩
    rw [run_scan known]
    exact congrArg (Except.map fun records => records.take count) hrecords
  · obtain ⟨records, hrecords, hselects⟩ :=
      fetch_of_prints reached.idle prints hnames framed .read hanswer
    have hfirst := congrArg (firstRecord key) hrecords
    rw [run_read known]
    cases hselects with
    | nil => exact hfirst
    | @cons row record rows records hselect hothers => exact ⟨record, hfirst, hselect⟩

/-- A row is read by a client that has just connected. -/
theorem stored_row_is_read : ∃ e w, Reached { url := "http://[::1]" } e w ∧
    ∃ records, ((e.scan "a" 1 none).run w).1.1 = .ok records ∧
      List.Forall₂ (fun row record => row.2.IsSelection ["f"] record)
        [("a", FieldValues.empty.insert "f" [171])] records := by
  let text := "\x7b\"id\":\"a\",\"f\":\"aB\"\x7d"
  let body : Http.Body :=
    ⟨[Http.lineFeed].intercalate (["\"results\": [ " ++ text, "]"].map Utf8.encode), none⟩
  obtain ⟨e, w, connected, hschema, hanswer⟩ := @connect_of_catalogAnswers _
    { url := "http://[::1]" } rfl (by decide +kernel) rfl [.response 200 body]
  have reached : Reached { url := "http://[::1]" } e w :=
    ⟨_, e, w, [], [], connected, Dialogue.run_session_nil _ _ _⟩
  have complete : ∀ row ∈ [("a", FieldValues.empty.insert "f" [171])],
      ∀ field ∈ e.schema.fields, (row.2.get? field).isSome = true := by
    simp [hschema, FieldValues.get?_insert]
  have drawn : ∀ name ∈ (none : Option (List String)).getD e.schema.fields,
      name ∈ e.schema.fields := fun _ hname => hname
  have prints : List.Forall₂ (e.target.Prints e.schema.fields)
      [("a", FieldValues.empty.insert "f" [171])] [text] := by
    have hread : Sqlpp.Constructor.object? (e.target.recordLiteral "a" e.schema.fields
        (FieldValues.empty.insert "f" [171])).toList =
          some ([("id", .text "a"), ("f", .bytes [171])], []) := by
      rw [target, (fresh_of_connect connected).configured, hschema]
      decide +kernel
    have spelled : Hex.Spells "aB".toList [171] := Hex.decode_eq_ok_iff.1 (by decide +kernel)
    exact .cons ⟨_, _, hread, .cons ⟨_, .text "a", rfl⟩
      (.cons ⟨_, .bytes spelled, rfl⟩ .nil), rfl⟩ .nil
  have framed : ResultCursor.PrintsRecords body [text] :=
    ResultCursor.printsRecords_singleton text
  have hread := (stored_rows_are_read reached complete drawn prints framed).2.1 "a" 1 (hanswer _)
  refine ⟨e, w, reached, ?_⟩
  simpa [hschema] using hread

end SqlppBench.Executor
