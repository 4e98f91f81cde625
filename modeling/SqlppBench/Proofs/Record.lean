import SqlppBench.Proofs.Connector.Framing
import SqlppBench.Proofs.Members
import SqlppBench.Proofs.Sqlpp.Constructors

/-! # Records that are stored and read

The service reads the constructor of a record as an object, and prints this object with the digits
of a byte string for its bytes (`Prints`). Such a text is a record on one line, and decoding it
gives the fields that are asked for with their bytes (`decode_of_prints`).
-/

namespace SqlppBench

namespace Sqlpp

/-- What the service prints for a value: a text between quotes, and for bytes the digits that spell
them, in either case. -/
inductive IsPrintedAs : MemberValue → String → Prop
  | text (s : String) : IsPrintedAs (.text s) (jsonString s)
  | bytes {b : Bytes} {digits : List Char} : Hex.Spells digits b →
      IsPrintedAs (.bytes b) ("\"" ++ String.ofList digits ++ "\"")

/-- What the service prints for a member: its name and its value. -/
def IsPrintedMember (m : String × MemberValue) (item : String) : Prop :=
  ∃ value, IsPrintedAs m.2 value ∧ item = jsonString m.1 ++ ":" ++ value

/-- The service prints a row that was inserted: the object that it reads off the constructor of the
record, member by member and in the same order. -/
def Target.Prints (t : Target) (fields : List String) (row : String × FieldValues)
    (text : String) : Prop :=
  ∃ object items,
    Constructor.object? (t.recordLiteral row.1 fields row.2).toList = some (object, []) ∧
      List.Forall₂ IsPrintedMember object items ∧
      text = "\x7b" ++ ",".intercalate items ++ "\x7d"

namespace Target

variable {t : Target} {fields : List String} {row : String × FieldValues} {text : String}

/-- The constructor of a record is read as its members. -/
theorem object?_recordLiteral (t : Target) (fields : List String) (row : String × FieldValues) :
    Constructor.object? (t.recordLiteral row.1 fields row.2).toList =
      some (t.recordMembers fields row, []) := by
  have hmembers : t.recordMembers fields row ≠ [] := List.cons_ne_nil _ _
  have htakes := Constructor.takes_object hmembers []
  rwa [List.append_nil, ← recordLiteral_eq_objectText] at htakes

/-- The last member under the name of a field holds its bytes, even if the key has that name. -/
theorem last?_recordMembers {field : String} (hfield : field ∈ fields) {bytes : Bytes}
    (hbytes : row.2.get? field = some bytes) :
    Members.last? field (t.recordMembers fields row) = some (.bytes bytes) := by
  have hmem : (field, MemberValue.bytes bytes) ∈ fields.filterMap fun field =>
      (row.2.get? field).map fun bytes => (field, MemberValue.bytes bytes) :=
    List.mem_filterMap.2 ⟨field, hfield, by rw [hbytes]; rfl⟩
  obtain ⟨v, hlast, hv⟩ := Members.exists_last?_of_mem hmem
  obtain ⟨other, -, hother⟩ := List.mem_filterMap.1 hv
  obtain ⟨bytes', hbytes', heq⟩ := Option.map_eq_some_iff.1 hother
  obtain ⟨rfl, rfl⟩ := Prod.mk.inj heq
  obtain rfl : bytes = bytes' := Option.some.inj (hbytes.symm.trans hbytes')
  rw [recordMembers, ← List.singleton_append, Members.last?_append, hlast]
  rfl

/-- What is printed for a row are the members of its record. -/
theorem prints_iff : t.Prints fields row text ↔
    ∃ items, List.Forall₂ IsPrintedMember (t.recordMembers fields row) items ∧
      text = "\x7b" ++ ",".intercalate items ++ "\x7d" := by
  constructor
  · rintro ⟨object, items, hobject, hitems, htext⟩
    rw [object?_recordLiteral, Option.some.injEq] at hobject
    obtain ⟨rfl, -⟩ := Prod.mk.inj hobject
    exact ⟨items, hitems, htext⟩
  · rintro ⟨items, hitems, htext⟩
    exact ⟨_, items, object?_recordLiteral t fields row, hitems, htext⟩

/-- Every row can be printed. -/
theorem exists_prints (t : Target) (fields : List String) (row : String × FieldValues) :
    ∃ text, t.Prints fields row text := by
  have hvalue (v : MemberValue) : ∃ value, IsPrintedAs v value := by
    cases v with
    | text s => exact ⟨_, .text s⟩
    | bytes b => exact ⟨_, .bytes (Hex.spells_encodeChars .upper b)⟩
  have hmembers (object : ObjectMembers) : ∃ items, List.Forall₂ IsPrintedMember object items := by
    induction object with
    | nil => exact ⟨[], .nil⟩
    | cons m object ih =>
        obtain ⟨value, hm⟩ := hvalue m.2
        obtain ⟨items, hitems⟩ := ih
        exact ⟨_ :: items, .cons ⟨value, hm, rfl⟩ hitems⟩
  obtain ⟨items, hitems⟩ := hmembers (t.recordMembers fields row)
  exact ⟨_, prints_iff.2 ⟨items, hitems, rfl⟩⟩

end Target

end Sqlpp

namespace Json

/-- An object of strings is a record on one line. -/
theorem isRecord_compact (ms : List (String × String)) :
    ResultCursor.IsRecord (Value.object (stringMembers ms)).compact := by
  constructor
  · rw [toList_compact]
    cases ms with
    | nil => decide
    | cons m ms =>
        simp only [objectChars, List.mem_cons, List.mem_append, List.mem_flatMap, not_or]
        refine ⟨by decide, newline_not_mem_memberChars m, ?_, by decide, by simp⟩
        rintro ⟨m, -, hmem | hmem⟩
        · exact absurd hmem (by decide)
        · exact newline_not_mem_memberChars m hmem
  · rw [toList_compact]
    cases ms <;> rfl
  · rw [toList_compact]
    cases ms with
    | nil => rfl
    | cons m ms =>
        rw [objectChars, ← List.append_assoc, ← List.cons_append, List.getLast?_append]
        rfl

end Json

/-! ## Decoding -/

/-- A selection of fields: these with their values, and no others. -/
def FieldValues.IsSelection (values : FieldValues) (names : List String) (selected : FieldValues) :
    Prop :=
  ∀ name, selected.get? name = if name ∈ names then values.get? name else none

namespace Record

/-- Fields whose bytes can be read are decoded, in whatever order and however often they are asked
for. -/
theorem fieldsOf_of_fieldBytes {object : List (String × Json.Value)} {names : List String}
    {source : FieldValues}
    (h : ∀ name ∈ names, ∃ bytes, source.get? name = some bytes ∧
      fieldBytes object name = .ok bytes) (values : FieldValues) :
    ∃ decoded, fieldsOf object values names = .ok decoded ∧
      ∀ name, decoded.get? name =
        if name ∈ names then source.get? name else values.get? name := by
  induction names generalizing values with
  | nil => exact ⟨values, rfl, by simp⟩
  | cons first names ih =>
      obtain ⟨bytes, hsource, hbytes⟩ := h first (by simp)
      obtain ⟨decoded, hdecoded, hget⟩ := ih
        (fun name hmem => h name (List.mem_cons_of_mem first hmem)) (values.insert first bytes)
      refine ⟨decoded, by rw [fieldsOf, hbytes]; exact hdecoded, fun name => ?_⟩
      rw [hget, FieldValues.get?_insert]
      by_cases hname : name = first
      · subst hname
        simp [hsource]
      · simp [hname]

variable {t : Sqlpp.Target} {fields names : List String} {row : String × FieldValues}
  {text : String}

/-- A member of an object stands for one that was stored: under the same name, and for bytes it is
the string of the digits that spell them. -/
def StandsFor (m : String × Sqlpp.MemberValue) (printed : String × Json.Value) : Prop :=
  printed.1 = m.1 ∧ ∀ bytes, m.2 = .bytes bytes →
    ∃ digits, Hex.Spells digits bytes ∧ printed.2 = .string (String.ofList digits)

/-- What is printed for a member is a string under its name. -/
theorem exists_of_isPrintedMember {m : String × Sqlpp.MemberValue} {item : String}
    (h : Sqlpp.IsPrintedMember m item) :
    ∃ s, item = Json.stringText m.1 ++ ":" ++ Json.stringText s ∧
      StandsFor m (m.1, .string s) := by
  obtain ⟨value, hvalue, rfl⟩ := h
  obtain ⟨name, v⟩ := m
  cases hvalue with
  | text s => exact ⟨s, rfl, rfl, nofun⟩
  | @bytes b digits hdigits =>
      refine ⟨String.ofList digits, ?_, rfl, ?_⟩
      · rw [Json.stringText_of_spells hdigits]
        rfl
      · rintro bytes ⟨⟩
        exact ⟨digits, hdigits, rfl⟩

/-- What is printed for some members are strings under their names. -/
theorem exists_of_isPrintedMembers {object : Sqlpp.ObjectMembers} {items : List String}
    (h : List.Forall₂ Sqlpp.IsPrintedMember object items) :
    ∃ ms : List (String × String),
      items = ms.map (fun m => Json.stringText m.1 ++ ":" ++ Json.stringText m.2) ∧
        List.Forall₂ StandsFor object (Json.stringMembers ms) := by
  induction h with
  | nil => exact ⟨[], rfl, .nil⟩
  | @cons m _ _ _ hm _ ih =>
      obtain ⟨s, rfl, hs⟩ := exists_of_isPrintedMember hm
      obtain ⟨ms, rfl, hms⟩ := ih
      exact ⟨(m.1, s) :: ms, rfl, .cons hs hms⟩

/-- What the service prints for a row is an object of strings. -/
theorem exists_members_of_prints (h : t.Prints fields row text) :
    ∃ ms, text = (Json.Value.object (Json.stringMembers ms)).compact ∧
      ∀ field ∈ fields, ∀ bytes, row.2.get? field = some bytes →
        ∃ digits, Hex.Spells digits bytes ∧
          Members.get? field (Members.ofList (Json.stringMembers ms)) =
            some (.string (String.ofList digits)) := by
  obtain ⟨items, hitems, rfl⟩ := Sqlpp.Target.prints_iff.1 h
  obtain ⟨ms, rfl, hms⟩ := exists_of_isPrintedMembers hitems
  refine ⟨ms, ?_, fun field hfield bytes hbytes => ?_⟩
  · rw [Json.Value.compact, Json.compactMembers_stringMembers]
    rfl
  · obtain ⟨v, hlast, -, hv⟩ := Members.last?_of_forall₂ (fun _ _ h => h.1) hms
      (Sqlpp.Target.last?_recordMembers hfield hbytes)
    obtain ⟨digits, hdigits, rfl⟩ := hv bytes rfl
    exact ⟨digits, hdigits, by rw [Members.get?_ofList, hlast]⟩

/-- Decoding what the service prints for a row gives the fields that are asked for. -/
theorem decode_of_prints (h : t.Prints fields row text)
    (hnames : ∀ name ∈ names, name ∈ fields ∧ (row.2.get? name).isSome = true) :
    ∃ decoded, decode text names = .ok decoded ∧ row.2.IsSelection names decoded := by
  obtain ⟨ms, rfl, hmembers⟩ := exists_members_of_prints h
  have hrecord := Json.isRecord_compact ms
  have hobject : object (Text.trim (Json.Value.object (Json.stringMembers ms)).compact) =
      .ok (Members.ofList (Json.stringMembers ms)) := by
    rw [hrecord.trim_eq, object, hrecord.opens, hrecord.closes, Json.parse_compact]
    rfl
  -- each field that is asked for is a member, and its digits are read as its bytes
  have hbytes : ∀ name ∈ names, ∃ bytes, row.2.get? name = some bytes ∧
      fieldBytes (Members.ofList (Json.stringMembers ms)) name = .ok bytes := by
    intro name hname
    obtain ⟨hfield, hsome⟩ := hnames name hname
    obtain ⟨bytes, hbytes⟩ := Option.isSome_iff_exists.1 hsome
    obtain ⟨digits, hdigits, hget⟩ := hmembers name hfield bytes hbytes
    refine ⟨bytes, hbytes, ?_⟩
    simp only [fieldBytes, hget, Hex.decode_of_spells hdigits]
    rfl
  obtain ⟨decoded, hdecoded, hget⟩ := fieldsOf_of_fieldBytes hbytes .empty
  refine ⟨decoded, ?_, hget⟩
  rw [decode, hobject]
  exact hdecoded

end Record

end SqlppBench
