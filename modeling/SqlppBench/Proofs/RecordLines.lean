import SqlppBench.Proofs.Json.Grammar
import SqlppBench.Proofs.Members
import SqlppBench.Proofs.Record
import SqlppBench.Proofs.Schema

/-! # Which lines are records

A line is a record for some fields if it is the text of an object, blanks around it apart, and the
last member of each field's name is a string of hexadecimal digits. Decoding accepts these lines and
no others, and it gives the bytes that the digits spell (`decode_accepts_the_hex_records`). On any
other line it fails, and if the line is an object, the failure tells of the first field that has no
digits.
-/

namespace SqlppBench

namespace Json

/-- The text of an object that lists these members. -/
def IsObject (t : List Char) (ms : List (String × Value)) : Prop :=
  ∃ s, t = '\x7b' :: s ∧ Listed '\x7d' (IsMember (IsText 126)) true s ms

/-- A listing ends with its closing bracket. -/
theorem Listed.getLast? {α : Type} {closing : Char} {kind : List Char → α → Prop} {first : Bool}
    {s : List Char} {as : List α} (h : Listed closing kind first s as) :
    s.getLast? = some closing := by
  have behind (front : List Char) {s : List Char} (hs : s.getLast? = some closing) :
      (front ++ s).getLast? = some closing := by
    rw [List.getLast?_append, hs]
    rfl
  induction h with
  | close _ => exact behind _ rfl
  | first _ _ _ ih => exact behind _ (behind _ ih)
  | next _ _ _ _ ih =>
      rw [← List.singleton_append]
      exact behind _ (behind _ (behind _ (behind _ ih)))

theorem IsObject.head? {t : List Char} {ms : List (String × Value)} (h : IsObject t ms) :
    t.head? = some '\x7b' := by
  obtain ⟨s, rfl, -⟩ := h
  rfl

theorem IsObject.getLast? {t : List Char} {ms : List (String × Value)} (h : IsObject t ms) :
    t.getLast? = some '\x7d' := by
  obtain ⟨s, rfl, hlisted⟩ := h
  rw [← List.singleton_append, List.getLast?_append, hlisted.getLast?]
  rfl

theorem IsObject.isText {t : List Char} {ms : List (String × Value)} (h : IsObject t ms) :
    IsText depthLimit t (.object (Members.ofList ms)) := by
  obtain ⟨s, rfl, hlisted⟩ := h
  exact .inr (.object hlisted)

/-- A text that stands for an object is that of an object. -/
theorem exists_isObject_of_isText {t : List Char} {members : List (String × Value)}
    (h : IsText depthLimit t (.object members)) :
    ∃ ms, IsObject t ms ∧ members = Members.ofList ms := by
  rcases h with hplain | hnested
  · cases hplain
  · generalize hv : Value.object members = v at hnested
    cases hnested with
    | array _ => cases hv
    | object hlisted =>
        cases hv
        exact ⟨_, ⟨_, rfl, hlisted⟩, rfl⟩

/-- A text that no blanks surround is read as an object exactly if it lists its members. -/
theorem parse_eq_ok_object_iff {s : String} {members : List (String × Value)}
    (hfirst : s.toList.head? = some '\x7b') (hlast : s.toList.getLast? = some '\x7d') :
    parse s = .ok (.object members) ↔
      ∃ ms, IsObject s.toList ms ∧ members = Members.ofList ms := by
  rw [parse_eq_ok_iff]
  constructor
  · rintro ⟨ws, t, ws', hs, hws, hws', ht⟩
    obtain ⟨ms, hobject, rfl⟩ := exists_isObject_of_isText ht
    obtain rfl : ws = [] := by
      rcases ws with _ | ⟨c, ws⟩
      · rfl
      · rw [hs] at hfirst
        obtain rfl : c = '\x7b' := Option.some.inj hfirst
        exact absurd (hws '\x7b' (by simp)) (by decide)
    obtain rfl : ws' = [] := by
      rcases List.eq_nil_or_concat ws' with rfl | ⟨ws', c, rfl⟩
      · rfl
      · rw [List.concat_eq_append] at hs hws' ⊢
        rw [hs, List.nil_append, ← List.append_assoc, List.getLast?_concat] at hlast
        obtain rfl : c = '\x7d' := Option.some.inj hlast
        have hspace := hws' _ (List.mem_append_right ws' (List.mem_singleton_self _))
        exact absurd hspace (by decide)
    rw [hs]
    exact ⟨ms, by simpa using hobject, rfl⟩
  · rintro ⟨ms, hobject, rfl⟩
    exact ⟨[], s.toList, [], by simp, isSpaces_nil, isSpaces_nil, hobject.isText⟩

end Json

/-! ## The statement -/

namespace Record

variable {ms ms' : List (String × Json.Value)} {fields : List String}

/-- The digits that a record has in a field: those of the last member of its name. -/
def DigitsOf (ms : List (String × Json.Value)) (field : String) (digits : List Char) : Prop :=
  Members.last? field ms = some (.string (String.ofList digits)) ∧ Hex.IsDigits digits

/-- What is said about a field that has no digits. -/
inductive Complaint (ms : List (String × Json.Value)) (field : String) : String → Prop
  | missing : Members.last? field ms = none →
      Complaint ms field ("Field '" ++ field ++ "' is missing from record")
  | notAString {v : Json.Value} : Members.last? field ms = some v → (∀ s, v ≠ .string s) →
      Complaint ms field ("Field '" ++ field ++ "' is not a hex string: " ++ v.compact)
  | notHex {s : String} {fault : Hex.Fault} : Members.last? field ms = some (.string s) →
      ¬ Hex.IsDigits s.toList → Hex.decode s = .error fault →
      Complaint ms field ("Field '" ++ field ++ "' has invalid hex: " ++ fault.message)

/-- What is said about a line that is no object. -/
inductive LineComplaint (line : String) : String → Prop
  | notAnObject : LineComplaint line ("Record is not a JSON object: " ++ line)
  | malformed (e : Json.Error) :
      LineComplaint line ("Malformed record " ++ line ++ ": " ++ e.message)

/-- A decoder of lines accepts the records, whatever their layout, and no other line. -/
structure DecodesRecords (decoder : String → List String → Except Error FieldValues) : Prop where
  /-- A line is accepted exactly if it is an object that has digits in each field asked for. -/
  accepts : ∀ line fields, (∃ values, decoder line fields = .ok values) ↔
    ∃ ms, Json.IsObject (Text.trim line).toList ms ∧
      ∀ field ∈ fields, ∃ digits, DigitsOf ms field digits
  /-- The fields asked for are there with the bytes that their digits spell, and no others. -/
  spelled : ∀ line fields ms values, Json.IsObject (Text.trim line).toList ms →
    decoder line fields = .ok values →
      values.members.map Prod.fst = sortNames fields ∧
        ∀ field ∈ fields, ∃ digits bytes, DigitsOf ms field digits ∧ Hex.Spells digits bytes ∧
          values.get? field = some bytes
  /-- Nothing counts but which fields are asked for, and their digits, whatever their case. -/
  same : ∀ line fields ms line' fields' ms' values, Json.IsObject (Text.trim line).toList ms →
    Json.IsObject (Text.trim line').toList ms' → (∀ name, name ∈ fields' ↔ name ∈ fields) →
    (∀ field ∈ fields, ∀ digits, DigitsOf ms field digits →
      ∃ digits', DigitsOf ms' field digits' ∧
        digits'.map Char.toUpper = digits.map Char.toUpper) →
    decoder line fields = .ok values → decoder line' fields' = .ok values
  /-- What is no object is not decoded. -/
  noObject : ∀ line fields, (¬ ∃ ms, Json.IsObject (Text.trim line).toList ms) →
    ∃ text, decoder line fields = .error (.decode text) ∧ LineComplaint (Text.trim line) text
  /-- Of an object, the first field that is asked for and has no digits is told. -/
  firstField : ∀ line fields ms, Json.IsObject (Text.trim line).toList ms →
    (¬ ∀ field ∈ fields, ∃ digits, DigitsOf ms field digits) →
    ∃ earlier field later text, fields = earlier ++ field :: later ∧
      (∀ other ∈ earlier, ∃ digits, DigitsOf ms other digits) ∧ Complaint ms field text ∧
      decoder line fields = .error (.decode text)

/-! ## One field -/

/-- The bytes of a field are those that its digits spell. -/
theorem fieldBytes_eq_ok_iff {field : String} {bytes : Bytes} :
    fieldBytes (Members.ofList ms) field = .ok bytes ↔
      ∃ digits, DigitsOf ms field digits ∧ Hex.Spells digits bytes := by
  unfold fieldBytes
  rw [Members.get?_ofList]
  constructor
  · intro h
    split at h
    · cases h
    · rename_i s hlast
      cases hdecode : Hex.decode s with
      | error fault => simp [hdecode, Except.mapError] at h
      | ok decoded =>
          rw [hdecode] at h
          obtain rfl := Except.ok.inj h
          have hspells := Hex.decode_eq_ok_iff.1 hdecode
          rw [← String.ofList_toList (s := s)] at hlast
          exact ⟨s.toList, ⟨hlast, Hex.exists_spells_iff.1 ⟨_, hspells⟩⟩, hspells⟩
    · cases h
  · rintro ⟨digits, ⟨hlast, -⟩, hspells⟩
    simp only [hlast, Hex.decode_of_spells hspells]
    rfl

theorem exists_fieldBytes_iff {field : String} :
    (∃ bytes, fieldBytes (Members.ofList ms) field = .ok bytes) ↔
      ∃ digits, DigitsOf ms field digits := by
  constructor
  · rintro ⟨bytes, h⟩
    obtain ⟨digits, hdigits, -⟩ := fieldBytes_eq_ok_iff.1 h
    exact ⟨digits, hdigits⟩
  · rintro ⟨digits, hdigits⟩
    obtain ⟨bytes, hspells⟩ := Hex.exists_spells_iff.2 hdigits.2
    exact ⟨bytes, fieldBytes_eq_ok_iff.2 ⟨digits, hdigits, hspells⟩⟩

/-- A field that has no digits is complained about. -/
theorem complaint_of_fieldBytes {field : String} {fault : RecordFault}
    (h : fieldBytes (Members.ofList ms) field = .error fault) :
    Complaint ms field fault.message := by
  unfold fieldBytes at h
  rw [Members.get?_ofList] at h
  split at h
  · rename_i hlast
    cases h
    exact .missing hlast
  · rename_i s hlast
    cases hdecode : Hex.decode s with
    | ok decoded => simp [hdecode, Except.mapError] at h
    | error hexFault =>
        rw [hdecode] at h
        cases h
        refine .notHex hlast (fun hdigits => ?_) hdecode
        obtain ⟨bytes, hspells⟩ := Hex.exists_spells_iff.2 hdigits
        rw [Hex.decode_eq_ok_iff.2 hspells] at hdecode
        cases hdecode
  · rename_i v hnotString hlast
    cases h
    exact .notAString hlast fun s hs => hnotString s (by rw [← hs])

/-! ## All fields -/

variable {object : List (String × Json.Value)} {values decoded : FieldValues}

/-- The fields that are asked for are gathered, and those gathered before stay. -/
theorem get?_of_fieldsOf (h : fieldsOf object values fields = .ok decoded) :
    (∀ field ∈ fields, ∃ bytes, fieldBytes object field = .ok bytes ∧
      decoded.get? field = some bytes) ∧
      ∀ name ∉ fields, decoded.get? name = values.get? name := by
  induction fields generalizing values with
  | nil =>
      cases h
      exact ⟨by simp, fun _ _ => rfl⟩
  | cons first fields ih =>
      rw [fieldsOf] at h
      split at h
      · cases h
      rename_i bytes hbytes
      obtain ⟨hfields, hothers⟩ := ih h
      constructor
      · intro field hfield
        by_cases hlater : field ∈ fields
        · exact hfields field hlater
        · -- a field that is not asked for again keeps its bytes
          obtain rfl : field = first := (List.mem_cons.1 hfield).resolve_right hlater
          refine ⟨bytes, hbytes, ?_⟩
          rw [hothers field hlater, FieldValues.get?_insert, if_pos rfl]
      · intro name hname
        obtain ⟨hne, hlater⟩ := not_or.1 (mt List.mem_cons.2 hname)
        rw [hothers name hlater, FieldValues.get?_insert, if_neg hne]

theorem ascending_of_fieldsOf (h : fieldsOf object values fields = .ok decoded)
    (hvalues : Members.Ascending values.members) : Members.Ascending decoded.members := by
  induction fields generalizing values with
  | nil =>
      cases h
      exact hvalues
  | cons first fields ih =>
      rw [fieldsOf] at h
      split at h
      · cases h
      · rename_i bytes _
        exact ih h (Members.ascending_insert first bytes hvalues)

/-- Fields are refused because of the first that has no bytes. -/
theorem fieldsOf_eq_error {fault : RecordFault} (h : fieldsOf object values fields = .error fault) :
    ∃ earlier field later, fields = earlier ++ field :: later ∧
      (∀ other ∈ earlier, ∃ bytes, fieldBytes object other = .ok bytes) ∧
      fieldBytes object field = .error fault := by
  induction fields generalizing values with
  | nil => cases h
  | cons first fields ih =>
      rw [fieldsOf] at h
      split at h
      · rename_i hfault
        cases h
        exact ⟨[], first, fields, rfl, by simp, hfault⟩
      · rename_i bytes hbytes
        obtain ⟨earlier, field, later, rfl, hearlier, hfault⟩ := ih h
        refine ⟨first :: earlier, field, later, rfl, ?_, hfault⟩
        intro other hother
        rcases List.mem_cons.1 hother with rfl | hother
        · exact ⟨bytes, hbytes⟩
        · exact hearlier other hother

/-- The keys of what is gathered are the names that were asked for. -/
theorem names_of_fieldsOf (h : fieldsOf object .empty fields = .ok decoded) :
    decoded.members.map Prod.fst = sortNames fields := by
  have hascending : Members.Ascending decoded.members :=
    ascending_of_fieldsOf h List.Pairwise.nil
  obtain ⟨hfields, hothers⟩ := get?_of_fieldsOf h
  refine List.Pairwise.eq_of_mem_iff (r := (· < ·)) (List.pairwise_map.2 hascending)
    (pairwise_sortNames fields) fun name => ?_
  rw [Members.mem_names_iff, mem_sortNames]
  constructor
  · rintro ⟨bytes, hbytes⟩
    by_contra hname
    have hnone := hothers name hname
    rw [FieldValues.get?_empty] at hnone
    exact absurd hbytes (by rw [← FieldValues.get?, hnone]; simp)
  · intro hname
    obtain ⟨bytes, -, hbytes⟩ := hfields name hname
    exact ⟨bytes, hbytes⟩

/-- What is gathered of two objects is the same if the fields that are asked for have the same
bytes. -/
theorem eq_of_fieldsOf {object' : List (String × Json.Value)} {fields' : List String}
    {decoded' : FieldValues} (h : fieldsOf object .empty fields = .ok decoded)
    (h' : fieldsOf object' .empty fields' = .ok decoded')
    (hnames : ∀ name, name ∈ fields' ↔ name ∈ fields)
    (hbytes : ∀ field ∈ fields, fieldBytes object' field = fieldBytes object field) :
    decoded' = decoded := by
  obtain ⟨hfields, hothers⟩ := get?_of_fieldsOf h
  obtain ⟨hfields', hothers'⟩ := get?_of_fieldsOf h'
  have hget (name : String) : decoded'.get? name = decoded.get? name := by
    by_cases hname : name ∈ fields
    · obtain ⟨bytes, hread, hvalue⟩ := hfields name hname
      obtain ⟨bytes', hread', hvalue'⟩ := hfields' name ((hnames name).2 hname)
      rw [hbytes name hname, hread] at hread'
      rw [hvalue, hvalue', Except.ok.inj hread']
    · rw [hothers name hname, hothers' name fun hmem => hname ((hnames name).1 hmem)]
  have hmembers := Members.eq_of_get? (ascending_of_fieldsOf h' List.Pairwise.nil)
    (ascending_of_fieldsOf h List.Pairwise.nil) hget
  cases decoded
  cases decoded'
  exact congrArg FieldValues.mk hmembers

/-! ## Lines -/

variable {line : String}

/-- The object on a line is that whose text it is. -/
theorem object_eq_ok_iff {members : List (String × Json.Value)} :
    Record.object line = .ok members ↔
      ∃ ms, Json.IsObject line.toList ms ∧ members = Members.ofList ms := by
  unfold Record.object
  split
  · rename_i hbraces
    simp only [Bool.and_eq_true, beq_iff_eq] at hbraces
    rw [← Json.parse_eq_ok_object_iff hbraces.1 hbraces.2]
    constructor
    · intro h
      split at h
      · rename_i hparse
        cases h
        exact hparse
      all_goals cases h
    · intro h
      rw [h]
  · rename_i hbraces
    refine iff_of_false (by simp) ?_
    rintro ⟨ms, hobject, -⟩
    exact hbraces (by simp [hobject.head?, hobject.getLast?])

theorem lineComplaint_of_object {fault : RecordFault} (h : Record.object line = .error fault) :
    LineComplaint line fault.message := by
  unfold Record.object at h
  split at h
  · split at h
    · cases h
    · cases h
      exact .notAnObject
    · cases h
      exact .malformed _
  · cases h
    exact .notAnObject

/-- A line that is an object is decoded as its fields. -/
theorem decode_of_isObject (h : Json.IsObject (Text.trim line).toList ms) (fields : List String) :
    decode line fields = fieldsOf (Members.ofList ms) .empty fields := by
  rw [decode, object_eq_ok_iff.2 ⟨ms, h, rfl⟩]

/-- A line that is decoded is an object. -/
theorem exists_isObject_of_decode (h : decode line fields = .ok decoded) :
    ∃ ms, Json.IsObject (Text.trim line).toList ms := by
  rw [decode] at h
  split at h
  · cases h
  · rename_i members hobject
    obtain ⟨ms, hms, -⟩ := object_eq_ok_iff.1 hobject
    exact ⟨ms, hms⟩

/-- An object is decoded exactly if there are digits in each field. -/
theorem exists_decode_iff (h : Json.IsObject (Text.trim line).toList ms) :
    (∃ values, decode line fields = .ok values) ↔
      ∀ field ∈ fields, ∃ digits, DigitsOf ms field digits := by
  rw [decode_of_isObject h]
  constructor
  · rintro ⟨values, hvalues⟩ field hfield
    obtain ⟨bytes, hbytes, -⟩ := (get?_of_fieldsOf hvalues).1 field hfield
    exact exists_fieldBytes_iff.1 ⟨bytes, hbytes⟩
  · intro hdigits
    cases hresult : fieldsOf (Members.ofList ms) .empty fields with
    | ok values => exact ⟨values, rfl⟩
    | error fault =>
        obtain ⟨earlier, field, later, rfl, -, hfault⟩ := fieldsOf_eq_error hresult
        obtain ⟨bytes, hbytes⟩ := exists_fieldBytes_iff.2 (hdigits field (by simp))
        rw [hfault] at hbytes
        cases hbytes

/-- Digits that differ in nothing but case are the same bytes. -/
theorem fieldBytes_eq_of_sameDigits {field : String} {digits digits' : List Char}
    (h : DigitsOf ms field digits) (h' : DigitsOf ms' field digits')
    (hsame : digits'.map Char.toUpper = digits.map Char.toUpper) :
    fieldBytes (Members.ofList ms') field = fieldBytes (Members.ofList ms) field := by
  obtain ⟨bytes, hspells⟩ := Hex.exists_spells_iff.2 h.2
  have hspells' : Hex.Spells digits' bytes := hsame.trans hspells
  rw [fieldBytes_eq_ok_iff.2 ⟨digits, h, hspells⟩, fieldBytes_eq_ok_iff.2 ⟨digits', h', hspells'⟩]

/-- Two lines with the same digits in the fields that are asked for are decoded alike. -/
theorem decode_eq_of_sameDigits {line' : String} {fields' : List String}
    (hobject : Json.IsObject (Text.trim line).toList ms)
    (hobject' : Json.IsObject (Text.trim line').toList ms')
    (hnames : ∀ name, name ∈ fields' ↔ name ∈ fields)
    (hsame : ∀ field ∈ fields, ∀ digits, DigitsOf ms field digits →
      ∃ digits', DigitsOf ms' field digits' ∧
        digits'.map Char.toUpper = digits.map Char.toUpper)
    (h : decode line fields = .ok values) : decode line' fields' = .ok values := by
  have hdigits := (exists_decode_iff hobject).1 ⟨values, h⟩
  -- the other line is accepted, since its digits are digits too
  have hdigits' : ∀ field ∈ fields', ∃ digits, DigitsOf ms' field digits := by
    intro field hfield
    have hfield := (hnames field).1 hfield
    obtain ⟨digits, hof⟩ := hdigits field hfield
    obtain ⟨digits', hof', -⟩ := hsame field hfield digits hof
    exact ⟨digits', hof'⟩
  obtain ⟨values', h'⟩ := (exists_decode_iff hobject').2 hdigits'
  suffices heq : values' = values by rw [h', heq]
  rw [decode_of_isObject hobject] at h
  rw [decode_of_isObject hobject'] at h'
  refine eq_of_fieldsOf h h' hnames fun field hfield => ?_
  obtain ⟨digits, hof⟩ := hdigits field hfield
  obtain ⟨digits', hof', hupper⟩ := hsame field hfield digits hof
  exact fieldBytes_eq_of_sameDigits hof hof' hupper

/-- An object is refused because of the first field that is asked for and has no digits. -/
theorem exists_of_decode_eq_error {fault : RecordFault}
    (hobject : Json.IsObject (Text.trim line).toList ms) (h : decode line fields = .error fault) :
    ∃ earlier field later, fields = earlier ++ field :: later ∧
      (∀ other ∈ earlier, ∃ digits, DigitsOf ms other digits) ∧
      Complaint ms field fault.message := by
  rw [decode_of_isObject hobject] at h
  obtain ⟨earlier, field, later, rfl, hearlier, hfault⟩ := fieldsOf_eq_error h
  refine ⟨earlier, field, later, rfl, ?_, complaint_of_fieldBytes hfault⟩
  exact fun other hother => exists_fieldBytes_iff.1 (hearlier other hother)

/-- A line that is no object is refused as such. -/
theorem exists_of_not_isObject (h : ¬ ∃ ms, Json.IsObject (Text.trim line).toList ms)
    (fields : List String) :
    ∃ fault, decode line fields = .error fault ∧ LineComplaint (Text.trim line) fault.message := by
  cases hobject : Record.object (Text.trim line) with
  | ok members =>
      obtain ⟨ms, hms, -⟩ := object_eq_ok_iff.1 hobject
      exact absurd ⟨ms, hms⟩ h
  | error fault =>
      refine ⟨fault, ?_, lineComplaint_of_object hobject⟩
      rw [decode, hobject]

theorem mapError_toError_eq_ok_iff {result : Except RecordFault FieldValues}
    {values : FieldValues} :
    result.mapError RecordFault.toError = .ok values ↔ result = .ok values := by
  cases result <;> simp [Except.mapError]

/-- Decoding accepts the lines that are records for the fields asked for. -/
theorem decode_accepts_the_hex_records :
    DecodesRecords fun line fields => (decode line fields).mapError RecordFault.toError where
  accepts line fields := by
    simp only [mapError_toError_eq_ok_iff]
    constructor
    · rintro ⟨values, hvalues⟩
      obtain ⟨ms, hobject⟩ := exists_isObject_of_decode hvalues
      exact ⟨ms, hobject, (exists_decode_iff hobject).1 ⟨values, hvalues⟩⟩
    · rintro ⟨ms, hobject, hdigits⟩
      exact (exists_decode_iff hobject).2 hdigits
  spelled line fields ms values hobject hvalues := by
    rw [mapError_toError_eq_ok_iff, decode_of_isObject hobject] at hvalues
    refine ⟨names_of_fieldsOf hvalues, fun field hfield => ?_⟩
    obtain ⟨bytes, hbytes, hvalue⟩ := (get?_of_fieldsOf hvalues).1 field hfield
    obtain ⟨digits, hdigits, hspells⟩ := fieldBytes_eq_ok_iff.1 hbytes
    exact ⟨digits, bytes, hdigits, hspells, hvalue⟩
  same line fields ms line' fields' ms' values hobject hobject' hnames hsame hvalues := by
    rw [mapError_toError_eq_ok_iff] at hvalues ⊢
    exact decode_eq_of_sameDigits hobject hobject' hnames hsame hvalues
  noObject line fields hnone := by
    obtain ⟨fault, hfault, hcomplaint⟩ := exists_of_not_isObject hnone fields
    exact ⟨fault.message, by rw [hfault]; rfl, hcomplaint⟩
  firstField line fields ms hobject hnot := by
    cases hresult : decode line fields with
    | ok values => exact absurd ((exists_decode_iff hobject).1 ⟨values, hresult⟩) hnot
    | error fault =>
        obtain ⟨earlier, field, later, hfields, hearlier, hcomplaint⟩ :=
          exists_of_decode_eq_error hobject hresult
        exact ⟨earlier, field, later, fault.message, hfields, hearlier, hcomplaint, rfl⟩

/-- The later member counts, however its digits are written. -/
example : (decode " \x7b\"f\": 1, \"f\": \"4\\u0061\"\x7d\n" ["f", "f"]).toOption =
    some ⟨[("f", [0x4A])]⟩ := by
  decide +kernel

end Record

end SqlppBench
