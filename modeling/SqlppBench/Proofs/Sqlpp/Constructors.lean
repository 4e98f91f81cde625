import SqlppBench.Proofs.Http.Lines
import SqlppBench.Proofs.Json.ReadBack
import SqlppBench.Proofs.Schema
import SqlppBench.Proofs.Sqlpp.Keys
import SqlppBench.Proofs.Text.Pieces
import SqlppBench.Proofs.Text.Trimming

/-! # Reading object constructors

A reader of SQL++ takes the list of an insertion apart into objects, whose members are texts or byte
strings (`insertion?`). What was written for some objects is read as these objects (`takes_object`,
`objects?_append`), because every string knows its own end. So an insertion tells its records, and
a line of a feed tells its record: the key once and first, and the fields that have a value.
-/

namespace SqlppBench

namespace Sqlpp

/-- What a member of an object constructor holds. -/
inductive MemberValue where
  | text (s : String)
  | bytes (b : Bytes)
deriving DecidableEq, Repr

/-- The members of an object constructor, in their order. -/
abbrev ObjectMembers := List (String × MemberValue)

namespace Constructor

/-! ## Writing -/

/-- What is written for a value: a string, or the constructor of a byte string. -/
def valueText : MemberValue → String
  | .text s => jsonString s
  | .bytes b => hexConstructor b

/-- What is written for a member. -/
def memberText (m : String × MemberValue) : String :=
  jsonString m.1 ++ ":" ++ valueText m.2

/-- What is written for an object. -/
def objectText (members : ObjectMembers) : String :=
  "\x7b" ++ ",".intercalate (members.map memberText) ++ "\x7d"

/-! ## Reading -/

/-- Reads a string between double quotes off the front. -/
def text? : List Char → Option (String × List Char)
  | '"' :: s =>
    match Json.string ⟨s, .start⟩ with
    | .ok (text, c) => some (text, c.rest)
    | .error _ => none
  | _ => none

/-- Reads a string, or the constructor of a byte string. -/
def value? (s : List Char) : Option (MemberValue × List Char) :=
  match Text.after? "hex(".toList s with
  | none => (text? s).map fun (text, rest) => (.text text, rest)
  | some s =>
    match text? s with
    | some (digits, ')' :: rest) =>
      match Hex.decode digits with
      | .ok bytes => some (.bytes bytes, rest)
      | .error _ => none
    | _ => none

/-- Reads a name, a colon and a value. -/
def member? (s : List Char) : Option ((String × MemberValue) × List Char) :=
  match text? s with
  | some (name, ':' :: s) => (value? s).map fun (value, rest) => ((name, value), rest)
  | _ => none

/-- Reads items with commas between them, up to a closing character. -/
def items? {α : Type} (item? : List Char → Option (α × List Char)) (closing : Char) :
    Nat → List Char → Option (List α × List Char)
  | 0, _ => none
  | steps + 1, s =>
    match item? s with
    | some (a, c :: rest) =>
      if c = closing then some ([a], rest)
      else if c = ',' then
        (items? item? closing steps rest).map fun (others, rest) => (a :: others, rest)
      else none
    | _ => none

/-- Reads members between braces. -/
def object? : List Char → Option (ObjectMembers × List Char)
  | '\x7b' :: s => items? member? '\x7d' s.length s
  | _ => none

/-- Reads objects between brackets. -/
def objects? : List Char → Option (List ObjectMembers × List Char)
  | '[' :: s => items? object? ']' s.length s
  | _ => none

/-- Reads an insertion: what is in front of its list, and the objects of the list. -/
def insertion? (statement : String) : Option (String × List ObjectMembers) :=
  match Text.splitAtFirst? ['('] statement.toList with
  | none => none
  | some (head, s) =>
    match objects? s with
    | some (objects, [')', ';']) => some (String.ofList head, objects)
    | _ => none

/-! ## What was written is read -/

/-- A reader takes exactly this text off the front of any text that begins with it. -/
def Takes {α : Type} (reader : List Char → Option (α × List Char)) (s : String) (a : α) : Prop :=
  ∀ rest, reader (s.toList ++ rest) = some (a, rest)

theorem takes_text (s : String) : Takes text? (jsonString s) s := by
  intro rest
  obtain ⟨p, hstring⟩ := Json.gives_string s .start rest
  have hchars : (jsonString s).toList ++ rest =
      '"' :: (s.toList.flatMap Json.escapeChar ++ ['"'] ++ rest) := by
    simp [jsonString, Json.stringText, Json.stringChars]
  rw [hchars, text?, hstring]

/-- Digits between quotes are the string of these digits. -/
theorem takes_digits (b : Bytes) :
    Takes text? ("\"" ++ Hex.encode .upper b ++ "\"") (Hex.encode .upper b) := by
  have hdigits := Json.stringText_of_spells (Hex.spells_encodeChars .upper b)
  have htakes := takes_text (Hex.encode .upper b)
  rwa [jsonString, Hex.encode, hdigits] at htakes

/-- A value is read as what it was written for. -/
theorem takes_value (v : MemberValue) : Takes value? (valueText v) v := by
  intro rest
  cases v with
  | text s =>
      -- a string begins with a quote, and the constructor of a byte string does not
      have hquote : Text.after? "hex(".toList ((jsonString s).toList ++ rest) = none := by
        simp [jsonString, Json.stringText, Json.stringChars, Text.after?]
      rw [valueText, value?, hquote]
      simp only [takes_text s rest, Option.map_some]
  | bytes b =>
      have hchars : (valueText (.bytes b)).toList ++ rest =
          "hex(".toList ++ (("\"" ++ Hex.encode .upper b ++ "\"").toList ++ ')' :: rest) := by
        simp [valueText, hexConstructor]
      rw [hchars, value?, Text.after?_append]
      simp only [takes_digits b (')' :: rest), Hex.decode_encode]

/-- A member is read as what it was written for. -/
theorem takes_member (m : String × MemberValue) : Takes member? (memberText m) m := by
  intro rest
  have hchars : (memberText m).toList ++ rest =
      (jsonString m.1).toList ++ ':' :: ((valueText m.2).toList ++ rest) := by
    simp [memberText]
  rw [hchars, member?, takes_text m.1]
  simp only [takes_value m.2 rest, Option.map_some]

section Items

variable {α : Type} {item? : List Char → Option (α × List Char)} {print : α → String}
  {closing : Char}

/-- Items are read one after the other, up to the closing character. -/
theorem items?_append (hclosing : closing ≠ ',') {a : α} {others : List α}
    (hitem : ∀ b ∈ a :: others, Takes item? (print b) b) (rest : List Char) {steps : Nat}
    (hsteps : others.length < steps) :
    items? item? closing steps
        ((",".intercalate ((a :: others).map print)).toList ++ closing :: rest) =
      some (a :: others, rest) := by
  induction others generalizing a steps with
  | nil =>
      obtain ⟨steps, rfl⟩ := Nat.exists_eq_add_one.2 hsteps
      simp [items?, hitem a (by simp) _]
  | cons next others ih =>
      obtain ⟨steps, rfl⟩ := Nat.exists_eq_add_one.2 (Nat.zero_lt_of_lt hsteps)
      have hothers := ih (fun b hb => hitem b (List.mem_cons_of_mem a hb))
        (Nat.lt_of_succ_lt_succ hsteps)
      have hchars : (",".intercalate ((a :: next :: others).map print)).toList ++
            closing :: rest =
          (print a).toList ++ ',' ::
            ((",".intercalate ((next :: others).map print)).toList ++ closing :: rest) := by
        rw [List.map_cons, List.map_cons, String.intercalate_cons_cons]
        simp
      rw [hchars, items?, hitem a (by simp)]
      simp only [Ne.symm hclosing, if_false, if_true, hothers, Option.map_some]

/-- The text of some items is long enough to allow a step for each of them. -/
theorem length_lt_commas (a : α) (others : List α) (rest : List Char) :
    others.length <
      ((",".intercalate ((a :: others).map print)).toList ++ closing :: rest).length := by
  have hle := Json.length_le_flatMap_commas (fun b => (print b).toList) others
  have hcomma : ",".toList = [','] := rfl
  rw [List.map_cons, Json.toList_intercalate_cons, List.flatMap_map, hcomma]
  simp only [List.singleton_append, List.length_append, List.length_cons]
  omega

end Items

/-- An object that has members is read as these members. -/
theorem takes_object {members : ObjectMembers} (h : members ≠ []) :
    Takes object? (objectText members) members := by
  intro rest
  obtain ⟨m, others, rfl⟩ := List.exists_cons_of_ne_nil h
  have hchars : (objectText (m :: others)).toList ++ rest = '\x7b' ::
      ((",".intercalate ((m :: others).map memberText)).toList ++ '\x7d' :: rest) := by
    simp [objectText]
  rw [hchars, object?, items?_append (by decide) (fun m _ => takes_member m)]
  exact length_lt_commas m others rest

/-- A list of objects that have members is read as these objects. -/
theorem objects?_append {objects : List ObjectMembers} (hne : objects ≠ [])
    (h : ∀ members ∈ objects, members ≠ []) (rest : List Char) :
    objects? ('[' :: ((",".intercalate (objects.map objectText)).toList ++ ']' :: rest)) =
      some (objects, rest) := by
  obtain ⟨first, others, rfl⟩ := List.exists_cons_of_ne_nil hne
  rw [objects?, items?_append (by decide) (fun members hmem => takes_object (h members hmem))]
  exact length_lt_commas first others rest

/-- An insertion is read as its head and its objects. -/
theorem insertion?_of_objects {head : String} (hhead : '(' ∉ head.toList)
    {objects : List ObjectMembers} (hne : objects ≠ []) (h : ∀ members ∈ objects, members ≠ []) :
    insertion? (head ++ "([" ++ ",".intercalate (objects.map objectText) ++ "]);") =
      some (head, objects) := by
  have hchars : (head ++ "([" ++ ",".intercalate (objects.map objectText) ++ "]);").toList =
      head.toList ++ '(' :: '[' :: ((",".intercalate (objects.map objectText)).toList ++
        ']' :: [')', ';']) := by
    simp
  rw [insertion?, hchars, Text.splitAtFirst?_append_cons hhead]
  simp only [objects?_append hne h, String.ofList_toList]

end Constructor

/-! ## Lines -/

/-- A text without controls, which fits on one line. -/
def HasNoControl (s : String) : Prop :=
  ∀ c ∈ s.toList, ¬ c < ' '

theorem HasNoControl.append {s t : String} (hs : HasNoControl s) (ht : HasNoControl t) :
    HasNoControl (s ++ t) := by
  intro c hc
  rw [String.toList_append, List.mem_append] at hc
  exact hc.elim (hs c) (ht c)

/-- A control is not in a text without controls. -/
theorem HasNoControl.not_mem {s : String} (h : HasNoControl s) {c : Char} (hc : c < ' ') :
    c ∉ s.toList :=
  fun hmem => h c hmem hc

theorem hasNoControl_commas {items : List String} (h : ∀ item ∈ items, HasNoControl item) :
    HasNoControl (",".intercalate items) := by
  induction items with
  | nil => simp [HasNoControl]
  | cons item items ih =>
      cases items with
      | nil => simpa using h item (by simp)
      | cons next items =>
          rw [String.intercalate_cons_cons]
          refine HasNoControl.append (HasNoControl.append (h item (by simp)) ?_) ?_
          · simp [HasNoControl]
          · exact ih fun other hmem => h other (List.mem_cons_of_mem item hmem)

theorem hasNoControl_jsonString (s : String) : HasNoControl (jsonString s) := by
  intro c hc
  rw [jsonString, Json.stringText, String.toList_ofList] at hc
  exact Json.not_lt_of_mem_stringChars hc

namespace Constructor

theorem hasNoControl_valueText (v : MemberValue) : HasNoControl (valueText v) := by
  cases v with
  | text s => exact hasNoControl_jsonString s
  | bytes b =>
      have hdigits := hasNoControl_jsonString (Hex.encode .upper b)
      rw [jsonString, Hex.encode, Json.stringText_of_spells (Hex.spells_encodeChars .upper b)]
        at hdigits
      have hsame : valueText (.bytes b) =
          "hex(" ++ ("\"" ++ String.ofList (Hex.encodeChars .upper b) ++ "\"") ++ ")" := by
        rw [← String.toList_inj]
        simp [valueText, hexConstructor, Hex.encode]
      rw [hsame]
      refine HasNoControl.append (HasNoControl.append ?_ hdigits) ?_
      · simp [HasNoControl]
      · simp [HasNoControl]

/-- An object is written on one line, whatever its texts hold. -/
theorem hasNoControl_objectText (members : ObjectMembers) :
    HasNoControl (objectText members) := by
  have hmembers : ∀ item ∈ members.map memberText, HasNoControl item := by
    intro item hitem
    obtain ⟨m, -, rfl⟩ := List.mem_map.1 hitem
    refine HasNoControl.append (HasNoControl.append (hasNoControl_jsonString m.1) ?_)
      (hasNoControl_valueText m.2)
    simp [HasNoControl]
  refine HasNoControl.append (HasNoControl.append ?_ (hasNoControl_commas hmembers)) ?_
  · simp [HasNoControl]
  · simp [HasNoControl]

end Constructor

/-- The bytes of some lines, each with a line feed behind it. -/
def lineStream (lines : List String) : Bytes :=
  lines.flatMap fun line => Utf8.encode (line ++ "\n")

theorem lineStream_append (lines others : List String) :
    lineStream (lines ++ others) = lineStream lines ++ lineStream others :=
  List.flatMap_append ..

/-- A stream of lines without controls is read as these lines. -/
theorem lines_lineStream {lines : List String} (h : ∀ line ∈ lines, HasNoControl line) :
    Http.Body.lines ⟨lineStream lines, none⟩ = lines.map .ok := by
  induction lines with
  | nil => rfl
  | cons line lines ih =>
      have hline := h line (by simp)
      have hbytes : lineStream (line :: lines) =
          Utf8.encode line ++ Http.lineFeed :: lineStream lines := by
        rw [lineStream, List.flatMap_cons, Utf8.encode, String.toList_append,
          Utf8.encodeChars_append, List.append_assoc]
        rfl
      -- a carriage return at the end would be taken for a part of the line feed
      have hreturn : Http.withoutReturn (Utf8.encode line) = Utf8.encode line := by
        rw [Http.withoutReturn, if_neg]
        intro hlast
        have hmem := List.mem_of_getLast? (eq_of_beq hlast)
        exact hline.not_mem (by decide) (Utf8.mem_of_mem_encodeChars hmem (by decide))
      rw [hbytes, Http.lines_append_lineFeed (Http.isLine_encode (hline.not_mem (by decide))),
        hreturn, ih fun other hmem => h other (List.mem_cons_of_mem line hmem)]
      simp [Http.Line.ofBytes]

/-! ## Records -/

/-- The object that holds a record of a relation: the key, once and first, and then exactly those
fields of the schema that have a value, in the order of the schema and with these values. -/
structure IsRecordOf (schema : TableSchema) (record : String × FieldValues)
    (object : ObjectMembers) : Prop where
  key : object.head? = some (schema.primaryKey, .text record.1)
  once : (object.map Prod.fst).Nodup
  names : object.tail.map Prod.fst =
    schema.fields.filter fun field => (record.2.get? field).isSome
  values : ∀ m ∈ object.tail, (record.2.get? m.1).map MemberValue.bytes = some m.2

namespace Target

open Constructor

variable {t : Target} {fields : List String}

/-- The members of the constructor of a record. -/
def recordMembers (t : Target) (fields : List String) (record : String × FieldValues) :
    ObjectMembers :=
  (t.primaryKey, .text record.1) ::
    fields.filterMap fun field => (record.2.get? field).map fun bytes => (field, .bytes bytes)

/-- The constructor of a record is that of an object with its members. -/
theorem recordLiteral_eq_objectText (t : Target) (fields : List String)
    (record : String × FieldValues) :
    t.recordLiteral record.1 fields record.2 = objectText (t.recordMembers fields record) := by
  have hmembers : (fields.filterMap fun field =>
        (record.2.get? field).map fun bytes => (field, MemberValue.bytes bytes)).map memberText =
      fields.filterMap fun field => (record.2.get? field).map (member field) := by
    rw [List.map_filterMap]
    simp only [Option.map_map]
    rfl
  rw [recordLiteral, objectText, recordMembers, List.map_cons, hmembers]
  rfl

/-- The fields that have a value, by their names. -/
theorem map_fst_fieldMembers (fields : List String) (values : FieldValues) :
    (fields.filterMap fun field =>
        (values.get? field).map fun bytes => (field, MemberValue.bytes bytes)).map Prod.fst =
      fields.filter fun field => (values.get? field).isSome := by
  induction fields with
  | nil => rfl
  | cons field fields ih =>
      cases hvalue : values.get? field with
      | none => simpa [hvalue] using ih
      | some bytes => simpa [hvalue] using ih

/-- The members of the constructor of a record hold the record. -/
theorem isRecordOf_recordMembers {schema : TableSchema} (hkey : t.primaryKey = schema.primaryKey)
    (hfields : schema.fields.Nodup) (hother : schema.primaryKey ∉ schema.fields)
    (record : String × FieldValues) :
    IsRecordOf schema record (t.recordMembers schema.fields record) where
  key := by rw [recordMembers, hkey, List.head?_cons]
  once := by
    rw [recordMembers, List.map_cons, map_fst_fieldMembers, hkey, List.nodup_cons]
    exact ⟨fun hmem => hother (List.mem_of_mem_filter hmem), hfields.filter _⟩
  names := map_fst_fieldMembers schema.fields record.2
  values := by
    intro m hm
    rw [recordMembers, List.tail_cons, List.mem_filterMap] at hm
    obtain ⟨field, -, hm⟩ := hm
    obtain ⟨bytes, hbytes, rfl⟩ := Option.map_eq_some_iff.1 hm
    simp [hbytes]

end Target

/-! ## The order of a map -/

/-- Among members with different names, the value under a name is that of its member. -/
theorem get?_eq_some_iff {α : Type} {members : List (String × α)}
    (h : (members.map Prod.fst).Nodup) {name : String} {a : α} :
    Members.get? name members = some a ↔ (name, a) ∈ members := by
  induction members with
  | nil => simp [Members.get?]
  | cons m members ih =>
      obtain ⟨other, b⟩ := m
      obtain ⟨hother, hmembers⟩ := List.nodup_cons.1 h
      by_cases hname : name = other
      · subst hname
        have habsent : (name, a) ∉ members :=
          fun hmem => hother (List.mem_map.2 ⟨(name, a), hmem, rfl⟩)
        simp [Members.get?, habsent, eq_comm]
      · simp [Members.get?, hname, ih hmembers]

/-- The same fields with the same values, gone through in another order. -/
def IsReordering (values values' : FieldValues) : Prop :=
  (values.members.map Prod.fst).Nodup ∧ values.members.Perm values'.members

/-- What is under a name does not depend on the order. -/
theorem get?_of_isReordering {values values' : FieldValues} (h : IsReordering values values') :
    values.get? = values'.get? := by
  obtain ⟨hnodup, hperm⟩ := h
  have hnodup' : (values'.members.map Prod.fst).Nodup := (hperm.map Prod.fst).nodup_iff.1 hnodup
  funext name
  refine Option.ext fun bytes => ?_
  rw [FieldValues.get?, FieldValues.get?, get?_eq_some_iff hnodup, get?_eq_some_iff hnodup']
  exact hperm.mem_iff

/-! ## Reading back -/

namespace Target

open Constructor

/-- What is in front of the list of an insertion. -/
def insertionFront (t : Target) (keyword : String) : String :=
  t.use ++ keyword ++ " INTO " ++ t.relation ++ " "

/-- The list of an insertion begins with its first parenthesis. -/
theorem parenthesis_not_mem_insertionFront {t : Target} (hscope : isValidName t.scope = true)
    (hrelation : isValidName t.relation = true) {keyword : String}
    (hkeyword : keyword ∈ ["INSERT", "UPSERT"]) : '(' ∉ (t.insertionFront keyword).toList := by
  have hname {name : String} (h : isValidName name = true) : '(' ∉ name.toList := fun hmem =>
    absurd (isAlphanum_of_isValidName h '(' hmem) (by decide)
  have hword : '(' ∉ keyword.toList := by
    simp only [List.mem_cons, List.not_mem_nil, or_false] at hkeyword
    rcases hkeyword with rfl | rfl <;> decide
  simp [insertionFront, use, hname hscope, hname hrelation, hword]

/-- Records are read back from the statement that inserts them, and each of them from its line of a
feed: as many objects as records, in their order, each with the key once and first and with exactly
the fields of the schema that have a value, whatever the keys, the names and the bytes are. Neither
the order of the fields in a map nor any line break shows in the texts. -/
theorem records_are_read_back {scope relation : String} (hscope : isValidName scope = true)
    (hrelation : isValidName relation = true) {keyword : String}
    (hkeyword : keyword ∈ ["INSERT", "UPSERT"]) (primaryKey : String) (catalog : List FieldInfo)
    {records : List (String × FieldValues)} (hne : records ≠ []) :
    let schema := TableSchema.ofCatalog primaryKey catalog
    let t : Target := ⟨scope, relation, schema.primaryKey⟩
    let literals (records : List (String × FieldValues)) : List String :=
      records.map fun record => t.recordLiteral record.1 schema.fields record.2
    (∃ objects, List.Forall₂ (IsRecordOf schema) records objects ∧
        insertion? (t.insert keyword (literals records)) =
          some (t.insertionFront keyword, objects) ∧
        Http.Body.lines ⟨lineStream (literals records), none⟩ = (literals records).map .ok ∧
        (literals records).map (fun line => object? line.toList) =
          objects.map fun object => some (object, [])) ∧
      (∀ literal ∈ literals records, '\n' ∉ literal.toList ∧ '\x0D' ∉ literal.toList) ∧
      ∀ records', List.Forall₂ (fun record record' => record.1 = record'.1 ∧
          IsReordering record.2 record'.2) records records' →
        t.insert keyword (literals records') = t.insert keyword (literals records) := by
  intro schema t literals
  have hliterals : literals records =
      (records.map (t.recordMembers schema.fields)).map objectText := by
    rw [List.map_map]
    exact List.map_congr_left fun record _ => t.recordLiteral_eq_objectText schema.fields record
  have hmembers : ∀ members ∈ records.map (t.recordMembers schema.fields), members ≠ [] := by
    intro members hmem
    obtain ⟨record, -, rfl⟩ := List.mem_map.1 hmem
    simp [recordMembers]
  have hcontrols : ∀ literal ∈ literals records, HasNoControl literal := by
    intro literal hmem
    rw [hliterals] at hmem
    obtain ⟨members, -, rfl⟩ := List.mem_map.1 hmem
    exact hasNoControl_objectText members
  refine ⟨⟨records.map (t.recordMembers schema.fields), ?_, ?_, lines_lineStream hcontrols, ?_⟩,
    ?_, ?_⟩
  · rw [List.forall₂_map_right_iff, List.forall₂_same]
    exact fun record _ => isRecordOf_recordMembers rfl
      (TableSchema.nodup_fields_ofCatalog primaryKey catalog)
      (TableSchema.primaryKey_not_mem_fields_ofCatalog primaryKey catalog) record
  · have hfront := parenthesis_not_mem_insertionFront (t := t) hscope hrelation hkeyword
    rw [hliterals, ← insertion?_of_objects hfront (by simpa using hne) hmembers]
    simp [insert, insertionFront, String.append_assoc]
  · rw [hliterals, List.map_map]
    refine List.map_congr_left fun members hmem => ?_
    simpa using takes_object (hmembers members hmem) []
  · exact fun literal hmem => ⟨(hcontrols literal hmem).not_mem (by decide),
      (hcontrols literal hmem).not_mem (by decide)⟩
  · intro records' hsame
    have hequal : literals records' = literals records := by
      clear hne hliterals hmembers hcontrols
      induction hsame with
      | nil => rfl
      | cons hrecord _ ih =>
          obtain ⟨hkey, hvalues⟩ := hrecord
          simp only [literals, List.map_cons] at ih ⊢
          rw [ih]
          simp only [recordLiteral, hkey, get?_of_isReordering hvalues]
    rw [hequal]

/-- A key that looks like the end of its object is read back, and a value under the name of the key
is left out. -/
theorem hostile_record_is_read_back :
    let values := (FieldValues.empty.insert "f" [34, 44]).insert "id" [1]
    ∃ objects, List.Forall₂ (IsRecordOf (.ofCatalog "id" [⟨"f", ""⟩]))
        [("\"\x7d,\x7b", values), ("a", .empty)] objects ∧
      insertion? (Target.insert ⟨"ycsb", "usertable", "id"⟩ "UPSERT"
        ([("\"\x7d,\x7b", values), ("a", .empty)].map fun record =>
          Target.recordLiteral ⟨"ycsb", "usertable", "id"⟩ record.1
            (TableSchema.ofCatalog "id" [⟨"f", ""⟩]).fields record.2)) =
        some (Target.insertionFront ⟨"ycsb", "usertable", "id"⟩ "UPSERT", objects) := by
  intro values
  obtain ⟨⟨objects, hrecords, hread, -⟩, -⟩ :=
    @records_are_read_back "ycsb" "usertable" (by decide) (by decide) "UPSERT" (by decide) "id"
      [⟨"f", ""⟩] [("\"\x7d,\x7b", values), ("a", .empty)] (by simp)
  exact ⟨objects, hrecords, hread⟩

end Target

end Sqlpp

end SqlppBench
