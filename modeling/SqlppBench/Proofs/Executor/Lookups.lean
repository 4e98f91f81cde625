import SqlppBench.Proofs.Connector.Catalog
import SqlppBench.Proofs.Executor.CutOff
import SqlppBench.Proofs.Executor.Feeding
import SqlppBench.Proofs.Executor.RoundTrip
import SqlppBench.Proofs.Schema

/-! # What lookups make of the records

A lookup sends one statement, reads all the records of its answer and decodes all of them, whether
they are asked for or not. Its result is a function of these records (`scanned`, `found`): the
decode error of the first record that has one, and otherwise what was asked for. A body that breaks
off is never decoded at all. A field that the schema does not have ends a lookup before it begins.
-/

namespace SqlppBench

/-- A body breaks off: an unreadable line comes before the closing bracket of the results. -/
def Http.Body.BreaksOff (body : Http.Body) (fault : Http.LineFault) : Prop :=
  Http.firstFault? body.lines = some fault ∧ ¬ ResultCursor.Closes (Http.readable body.lines)

namespace Connector

/-- A body that breaks off cannot be read, for the reason why it breaks off. -/
theorem recordsOfBody_of_breaksOff {body : Http.Body} {fault : Http.LineFault}
    (h : body.BreaksOff fault) : recordsOfBody body = .error (unreadable fault.message) := by
  obtain ⟨hfault, hcloses⟩ := h
  have hremaining : (ResultCursor.ofLines body.lines).remaining =
      ⟨ResultCursor.listedRecords (Http.readable body.lines),
        if ResultCursor.Closes (Http.readable body.lines) then none
        else Http.firstFault? body.lines⟩ :=
    ResultCursor.remaining_ofLines body.lines
  rw [if_neg hcloses, hfault] at hremaining
  rw [recordsOfBody, hremaining]
  rfl

/-- A body lists some records, or it breaks off. -/
theorem lists_or_breaksOff (body : Http.Body) :
    (∃ records, body.Lists records) ∨ ∃ fault, body.BreaksOff fault := by
  by_cases hcloses : ResultCursor.Closes (Http.readable body.lines)
  · exact .inl ⟨_, .inr hcloses, rfl⟩
  · cases hfault : Http.firstFault? body.lines with
    | none => exact .inl ⟨_, .inl hfault, rfl⟩
    | some fault => exact .inr ⟨fault, hfault, hcloses⟩

/-- An idle connector that runs a statement and drains its results has posted one request, and the
answer is read to its end. -/
theorem session_results_drain {c : Connector} (h : c.results = none) (statement : String)
    {w : World} {body : Http.Body}
    (answered : w.answer (c.requestOf statement) = .response 200 body) :
    ((Dialogue.session perform c [.results statement, .drain]).run w).1.2 =
      (note (recordsOfBody body) (c.afterAnswer (.response 200 body))).2 := by
  have hopened := run_executeForResults_of_idle h statement w
  rw [answered] at hopened
  have hdrained := drainAll_of_open (c := { c.afterAnswer (.response 200 body) with
    results := some (.ofLines body.lines), error := "" }) rfl
  simp only [Dialogue.run_session_cons, Dialogue.run_session_nil, perform, run_replying, hopened,
    bodyOf, if_true, note_ok, Dialogue.run_done, hdrained]
  refine congrArg Prod.snd (note_congr _ ?_)
  simp [close, ← h]

end Connector

namespace Executor

variable {e : Executor} {w : World} {names records : List String}

/-! ## The result as a function of the records -/

/-- Why the first record that cannot be decoded cannot be, if there is one. -/
def undecodable? (names records : List String) : Option RecordFault :=
  records.findSome? fun record =>
    match Record.decode record names with
    | .error fault => some fault
    | .ok _ => none

/-- The records that can be decoded, in their order. -/
def decodable (names records : List String) : List FieldValues :=
  records.filterMap fun record => (Record.decode record names).toOption

/-- What a scan makes of the records. -/
def scanned (names : List String) (count : Nat) (records : List String) :
    Except Error (List FieldValues) :=
  match undecodable? names records with
  | some fault => .error fault.toError
  | none => .ok ((decodable names records).take count)

/-- What a read makes of the records. -/
def found (names : List String) (key : String) (records : List String) :
    Except Error FieldValues :=
  match undecodable? names records with
  | some fault => .error fault.toError
  | none =>
    match decodable names records with
    | [] => .error (.notFound key)
    | values :: _ => .ok values

section Decoding

variable {record : String}

theorem undecodable?_cons_of_error {fault : RecordFault}
    (h : Record.decode record names = .error fault) (records : List String) :
    undecodable? names (record :: records) = some fault := by
  simp only [undecodable?, List.findSome?_cons, h]

theorem undecodable?_cons_of_ok {values : FieldValues}
    (h : Record.decode record names = .ok values) (records : List String) :
    undecodable? names (record :: records) = undecodable? names records := by
  simp only [undecodable?, List.findSome?_cons, h]

theorem decodable_cons_of_ok {values : FieldValues}
    (h : Record.decode record names = .ok values) (records : List String) :
    decodable names (record :: records) = values :: decodable names records := by
  simp only [decodable, List.filterMap_cons, h, Except.toOption]

end Decoding

/-- Decoding all records gives each of them, or the fault of the first that cannot be decoded. -/
theorem decodeAll_eq (names records : List String) :
    decodeAll names records =
      match undecodable? names records with
      | some fault => .error fault.toError
      | none => .ok (decodable names records) := by
  induction records with
  | nil => rfl
  | cons record records ih =>
      rw [decodeAll.eq_def]
      cases hrecord : Record.decode record names with
      | error fault => simp only [undecodable?_cons_of_error hrecord, hrecord]
      | ok values =>
          rw [undecodable?_cons_of_ok hrecord, decodable_cons_of_ok hrecord]
          simp only [hrecord, ih]
          cases undecodable? names records <;> rfl

theorem scanned_eq (names : List String) (count : Nat) (records : List String) :
    scanned names count records =
      (decodeAll names records).map fun values => values.take count := by
  rw [scanned, decodeAll_eq]
  cases undecodable? names records <;> rfl

theorem found_eq (names : List String) (key : String) (records : List String) :
    found names key records = firstRecord key (decodeAll names records) := by
  rw [found, decodeAll_eq]
  cases undecodable? names records with
  | some fault => rfl
  | none => cases hvalues : decodable names records <;> rfl

/-- Without a fault there are as many decoded records as there are records. -/
theorem length_decodable_of_undecodable?_eq_none (h : undecodable? names records = none) :
    (decodable names records).length = records.length := by
  induction records with
  | nil => rfl
  | cons record records ih =>
      cases hrecord : Record.decode record names with
      | error fault =>
          rw [undecodable?_cons_of_error hrecord] at h
          cases h
      | ok values =>
          rw [undecodable?_cons_of_ok hrecord] at h
          rw [decodable_cons_of_ok hrecord, List.length_cons, ih h, List.length_cons]

/-- Nothing is found exactly if there is no record. -/
theorem found_eq_notFound_iff (names : List String) (key : String) (records : List String) :
    found names key records = .error (.notFound key) ↔ records = [] := by
  rw [found]
  cases hfault : undecodable? names records with
  | some fault =>
      have hrecords : records ≠ [] := by
        rintro rfl
        cases hfault
      simp [RecordFault.toError, hrecords]
  | none =>
      have hlength := length_decodable_of_undecodable?_eq_none hfault
      cases hvalues : decodable names records with
      | nil =>
          rw [hvalues, List.length_nil] at hlength
          simpa using hlength.symm
      | cons values others =>
          have hrecords : records ≠ [] := by
            rintro rfl
            rw [hvalues] at hlength
            cases hlength
          simp [hrecords]

/-! ## The schema of a session -/

/-- No call changes the schema. -/
theorem schema_turn (settled : e.Settled) (w : World) (a : Action) :
    (e.turn w a).after.schema = e.schema := by
  by_cases other : ∀ key values, a ≠ .insert key values
  · exact (sparesFeed_of_plays settled other ((e.perform a).plays_said w)).continues.schema
  · simp only [ne_eq, not_forall, not_not] at other
    obtain ⟨key, values, rfl⟩ := other
    cases hfeed : e.feed with
    | none =>
        obtain ⟨sent, inserts, updates, left, -⟩ :=
          leaves_perform settled hfeed (.insert key values) w
        exact left.schema
    | some writer =>
        change ((replying .written (e.insert key values)).run w).1.2.schema = e.schema
        rw [run_replying, insert_of_feed hfeed, feedInsert, run_logging, Dialogue.run_bind]
        rfl

/-- In every session the primary key is none of the fields of the schema. -/
theorem Alive.primaryKey_not_mem [Url.Idna] {config : ClientConfig} (alive : Alive config e) :
    e.schema.primaryKey ∉ e.schema.fields := by
  obtain ⟨w₀, e₀, w₁, events, connected, rfl⟩ := alive
  have fresh := fresh_of_connect connected
  have held := (course_induction (fun e _ => e.Settled ∧ e.schema = e₀.schema) (fun _ => True)
    (fun _ _ _ h => h)
    (fun e w a h => ⟨trivial, (keepsReady_turn h.1 w a).2, (schema_turn h.1 w a).trans h.2⟩)
    (⟨fresh.settled, rfl⟩ : e₀.Settled ∧ e₀.schema = e₀.schema) (w := w₁) events).2.2
  obtain ⟨key, fields, hschema⟩ := fresh.schema
  rw [held, hschema]
  exact TableSchema.primaryKey_not_mem_fields_ofCatalog key fields

/-! ## Lookups -/

/-- The first of the requested names that is not a field of the schema is reported. -/
theorem requested_of_unknown {before : List String} {unknown : String} (after : List String)
    (known : ∀ name ∈ before, name ∈ e.schema.fields) (missing : unknown ∉ e.schema.fields) :
    e.requested (some (before ++ unknown :: after)) =
      .error (.decode ("Unknown field '" ++ unknown ++ "' in " ++ e.config.relation)) := by
  have hfind : ((before ++ unknown :: after).find? fun field => !e.schema.hasField field) =
      some unknown := by
    have hbefore : (before.find? fun field => !e.schema.hasField field) = none := by
      rw [List.find?_eq_none]
      intro name hname
      simpa [TableSchema.hasField] using known name hname
    rw [List.find?_append, hbefore, Option.none_or]
    exact List.find?_cons_of_pos (by simpa [TableSchema.hasField] using missing)
  simp [requested, hfind]

/-- How a lookup goes whose fields the schema has. -/
structure LooksUp {α : Type} (e : Executor) (w : World) (operation : Operation)
    (statement : String) (ofRecords : List String → Except Error α)
    (run : (Except Error α × Executor) × World) : Prop where
  /-- One statement is sent, and logged before, where that is asked for. -/
  sends : run.2 = (w.loggedIf e.config.printStatements operation statement).posted
    (e.connector.requestOf statement)
  /-- Nothing but the connector changes; in particular no write comes or goes. -/
  keeps : run.1.2 = { e with connector := run.1.2.connector }
  /-- Nothing stays open, whatever was read. -/
  idle : run.1.2.connector.results = none
  /-- The records are read up to their end: the connector is left as by draining them. -/
  drains : ∀ body, w.answer (e.connector.requestOf statement) = .response 200 body →
    run.1.2.connector = ((Dialogue.session Connector.perform e.connector
      [.results statement, .drain]).run w).1.2
  /-- There are records up to the end, or the body breaks off. -/
  ends : ∀ body, w.answer (e.connector.requestOf statement) = .response 200 body →
    (∃ records, body.Lists records) ∨ ∃ fault, body.BreaksOff fault
  /-- The result is a function of the records. -/
  decodes : ∀ body records, w.answer (e.connector.requestOf statement) = .response 200 body →
    body.Lists records → run.1.1 = ofRecords records
  /-- A body that breaks off is a failure of the transport, whatever the records before say. -/
  breaksOff : ∀ body fault, w.answer (e.connector.requestOf statement) = .response 200 body →
    body.BreaksOff fault → run.1.1 = .error (Connector.unreadable fault.message)
  /-- Without a body to read, the failure is the one that the answer tells of. -/
  refused : ∀ fault, Connector.bodyOf (w.answer (e.connector.requestOf statement)) = .error fault →
    run.1.1 = .error fault

/-- A lookup is a statement whose records are fetched and then decoded. -/
theorem looksUp_of_fetch {α : Type} (idle : e.connector.results = none) {operation : Operation}
    {statement : String} (use : Except Error (List FieldValues) → Except Error α)
    {ofRecords : List String → Except Error α} {run : (Except Error α × Executor) × World}
    (passes : ∀ fault, use (.error fault) = .error fault)
    (agrees : ∀ records, use (decodeAll names records) = ofRecords records)
    (hrun : run =
      let fetched := (e.fetch operation statement names).run w
      ((use fetched.1.1, fetched.1.2), fetched.2)) :
    LooksUp e w operation statement ofRecords run := by
  rw [run_fetch idle] at hrun
  subst hrun
  dsimp only
  refine ⟨rfl, rfl, by simp [answered, idle], ?_, fun body _ => Connector.lists_or_breaksOff body,
    ?_, ?_, ?_⟩
  · intro body hanswer
    rw [Connector.session_results_drain idle statement hanswer, hanswer]
    rfl
  · intro body records hanswer hlists
    have hrecords := Connector.recordsOf_eq_ok_iff.2 ⟨body, rfl, hlists⟩
    rw [hanswer, hrecords]
    exact agrees records
  · intro body fault hanswer hbreaks
    have hrecords : Connector.recordsOf (.response 200 body) =
        .error (Connector.unreadable fault.message) := Connector.recordsOfBody_of_breaksOff hbreaks
    rw [hanswer, hrecords]
    exact passes _
  · intro fault hbody
    have hrecords : Connector.recordsOf (w.answer (e.connector.requestOf statement)) =
        .error fault := by rw [Connector.recordsOf, hbody]
    rw [hrecords]
    exact passes fault

theorem looksUp_scan (idle : e.connector.results = none) {fields : Option (List String)}
    (known : e.requested fields = .ok names) (start : String) (count : Nat) (w : World) :
    LooksUp e w .scan (e.target.scan start count names) (scanned names count)
      ((e.scan start count fields).run w) :=
  looksUp_of_fetch idle (Except.map fun values => values.take count) (fun _ => rfl)
    (fun records => (scanned_eq names count records).symm) (run_scan known start count w)

theorem looksUp_read (idle : e.connector.results = none) {fields : Option (List String)}
    (known : e.requested fields = .ok names) (key : String) (w : World) :
    LooksUp e w .read (e.target.read key names) (found names key) ((e.read key fields).run w) :=
  looksUp_of_fetch idle (firstRecord key) (fun _ => rfl)
    (fun records => (found_eq names key records).symm) (run_read known key w)

/-- Reads and scans are functions of the records, and they fail late. At every point of a session, a
requested name that is not a field of the schema, as the primary key never is, ends a lookup before
it does anything, and the first such name is reported. Otherwise one statement is sent, and whatever
its answer holds is read to the end before the result is made: the decode error of the first record
that has one, wherever it stands, or else the records that were asked for. -/
theorem lookups_are_functions_of_the_records [Url.Idna] {config : ClientConfig}
    (alive : Alive config e) (w : World) (fields : Option (List String)) :
    (∀ (before after : List String) (unknown : String), fields = some (before ++ unknown :: after) →
      (∀ name ∈ before, name ∈ e.schema.fields) → unknown ∉ e.schema.fields →
        let fault := Error.decode ("Unknown field '" ++ unknown ++ "' in " ++ e.config.relation)
        (∀ key, (e.read key fields).run w = ((.error fault, e), w)) ∧
          ∀ start count, (e.scan start count fields).run w = ((.error fault, e), w)) ∧
      e.schema.primaryKey ∉ e.schema.fields ∧
      ((∀ name ∈ fields.getD e.schema.fields, name ∈ e.schema.fields) →
        let names := fields.getD e.schema.fields
        (∀ key, LooksUp e w .read (e.target.read key names) (found names key)
            ((e.read key fields).run w) ∧
          ∀ records, found names key records = .error (.notFound key) ↔ records = []) ∧
        ∀ start count, LooksUp e w .scan (e.target.scan start count names) (scanned names count)
          ((e.scan start count fields).run w)) := by
  have idle := alive.settled.idle
  refine ⟨?_, alive.primaryKey_not_mem, fun drawn => ?_⟩
  · rintro before after unknown rfl known missing
    have hrequested := requested_of_unknown after known missing
    exact ⟨fun key => run_read_of_unknown hrequested key w,
      fun start count => run_scan_of_unknown hrequested start count w⟩
  · have known := requested_of_drawn drawn
    exact ⟨fun key => ⟨looksUp_read idle known key w, found_eq_notFound_iff _ key⟩,
      fun start count => looksUp_scan idle known start count w⟩

/-- A second record that is no object fails a scan for one record and a read. -/
theorem second_record_fails_a_lookup :
    let body : Http.Body := ⟨Utf8.encode "\"results\": [ \x7b\"f\":\"AB\"\x7d\n, 7\n]\n", none⟩
    let fault := Error.decode "Record is not a JSON object: 7"
    ∃ e w, Alive { url := "http://[::1]" } e ∧ (∀ r, w.answer r = .response 200 body) ∧
      body.Lists ["\x7b\"f\":\"AB\"\x7d", "7"] ∧
      ((e.scan "a" 1 none).run w).1.1 = .error fault ∧
      ((e.read "a" none).run w).1.1 = .error fault ∧
      (e.read "a" (some ["f", "id"])).run w =
        ((.error (.decode "Unknown field 'id' in usertable"), e), w) := by
  intro body fault
  obtain ⟨e, w, connected, hschema, hanswer⟩ := @connect_of_catalogAnswers _
    { url := "http://[::1]" } rfl (by decide +kernel) rfl [.response 200 body]
  have alive : Alive { url := "http://[::1]" } e := ⟨_, e, w, [], connected, rfl⟩
  have hlists : body.Lists ["\x7b\"f\":\"AB\"\x7d", "7"] :=
    ⟨.inl (by decide +kernel), by decide +kernel⟩
  have hmessage : (undecodable? ["f"] ["\x7b\"f\":\"AB\"\x7d", "7"]).map RecordFault.message =
      some "Record is not a JSON object: 7" := by
    decide +kernel
  obtain ⟨first, hfirst, hsays⟩ := Option.map_eq_some_iff.1 hmessage
  have herror : first.toError = fault := congrArg Error.decode hsays
  have hconfig := (fresh_of_connect connected).configured
  obtain ⟨-, -, lookups⟩ := lookups_are_functions_of_the_records alive w none
  obtain ⟨reads, scans⟩ := lookups fun _ hname => hname
  obtain ⟨unknown, -, -⟩ := lookups_are_functions_of_the_records alive w (some ["f", "id"])
  have refused := (unknown ["f"] [] "id" rfl (by simp [hschema]) (by simp [hschema])).1 "a"
  rw [hconfig] at refused
  rw [hschema] at reads scans
  refine ⟨e, w, alive, hanswer, hlists, ?_, ?_, refused⟩
  · rw [(scans "a" 1).decodes body _ (hanswer _) hlists, ← herror, scanned, Option.getD_none,
      hfirst]
  · rw [(reads "a").1.decodes body _ (hanswer _) hlists, ← herror, found, Option.getD_none, hfirst]

end Executor

end SqlppBench
