import SqlppBench.Proofs.Connector.Descriptions
import SqlppBench.Proofs.Connector.Exchange
import SqlppBench.Proofs.Connector.Listing
import SqlppBench.Proofs.Json.Shapes

/-! # What the catalog tells

An answer of the catalog is a list of items, whatever records it is spread over: each record is a
list, and the items are those of all of them in their order (`Tells`). The key of a relation is
known exactly if the only item is a path of one name (`keyOf_eq_ok_iff`), and its fields exactly if
there are any (`fieldsOf_eq_ok_iff`). Of the answers that tell no key, those without a path say that
there is none; all others are said to tell a composite key, and among these is one that has no
component at all (`primaryKey_of_tells`).
-/

namespace SqlppBench

open ResultCursor (Closes listedRecords listing remaining_ofLines)
open Http (firstFault? readable)

/-! ## The records of an answer -/

/-- A body lists some records: they stand on its lines, and no line that is read is unreadable. The
lines behind the closing bracket are not read. -/
def Http.Body.Lists (body : Http.Body) (records : List String) : Prop :=
  (firstFault? body.lines = none ∨ Closes (readable body.lines)) ∧
    listedRecords (readable body.lines) = records

namespace Connector

/-- A body is read to its end exactly if it lists records, and these are what is read. -/
theorem recordsOfBody_eq_ok_iff {body : Http.Body} {records : List String} :
    recordsOfBody body = .ok records ↔ body.Lists records := by
  have hremaining : (ResultCursor.ofLines body.lines).remaining =
      ⟨listedRecords (readable body.lines),
        if Closes (readable body.lines) then none else firstFault? body.lines⟩ :=
    remaining_ofLines body.lines
  rw [recordsOfBody, hremaining, Http.Body.Lists]
  by_cases hcloses : Closes (readable body.lines)
  · simp [hcloses, Remaining.all]
  · cases hfault : firstFault? body.lines <;> simp [hcloses, Remaining.all]

/-- An answer is read to its end exactly if it is a success whose body lists records. -/
theorem recordsOf_eq_ok_iff {a : Http.Answer} {records : List String} :
    recordsOf a = .ok records ↔ ∃ body, a = .response 200 body ∧ body.Lists records := by
  cases a with
  | dropped reason => simp [recordsOf, bodyOf]
  | response status body =>
      by_cases hstatus : status = 200
      · simp [recordsOf, bodyOf, hstatus, recordsOfBody_eq_ok_iff]
      · simp [recordsOf, bodyOf, hstatus]

end Connector

namespace Catalog

/-! ## The items of an answer -/

/-- An answer tells some items: it is a success, each of the records in it is read as a list, and
these lists hold the items one after the other. -/
def Tells {α : Type} (reads : String → List α → Prop) (a : Http.Answer) (items : List α) : Prop :=
  ∃ body records lists, a = .response 200 body ∧ body.Lists records ∧
    List.Forall₂ reads records lists ∧ lists.flatten = items

/-- A record that is a list of paths. -/
def IsPathList (record : String) (paths : List KeyPath) : Prop :=
  Json.parse record = .ok (.array (paths.map fun path => .array (path.map .string)))

/-- A record that is a list of field descriptions. -/
def IsFieldList (record : String) (fields : List FieldInfo) : Prop :=
  Json.IsWholeList FieldInfo.IsDescription record fields

/-- Records are read if each of them is a list, and give the items of all these lists. -/
theorem itemsOf_eq_ok_iff {α : Type} {reader : Json.Cursor → Json.Result α} {what : String}
    {records : List String} {items : List α} :
    itemsOf reader what records = .ok items ↔
      ∃ lists, List.Forall₂ (fun record list => Json.readAll (Json.list reader) record = .ok list)
        records lists ∧ lists.flatten = items := by
  induction records generalizing items with
  | nil => simp [itemsOf, eq_comm]
  | cons record records ih =>
      simp only [List.forall₂_cons_left_iff]
      rw [itemsOf]
      cases hread : Json.readAll (Json.list reader) record with
      | error fault => simp
      | ok list =>
          rw [Json.map_eq_ok_iff]
          constructor
          · rintro ⟨rest, hrest, rfl⟩
            obtain ⟨lists, hlists, rfl⟩ := ih.1 hrest
            exact ⟨list :: lists, ⟨list, lists, rfl, hlists, rfl⟩, List.flatten_cons⟩
          · rintro ⟨_, ⟨list', lists, hlist, hlists, rfl⟩, rfl⟩
            obtain rfl := Except.ok.inj hlist
            exact ⟨lists.flatten, ih.2 ⟨lists, hlists, rfl⟩, List.flatten_cons.symm⟩

/-- A record is read as lists of strings exactly if it is a list of paths. -/
theorem readAll_eq_ok_iff_isPathList {record : String} {paths : List KeyPath} :
    Json.readAll (Json.list (Json.list Json.anyText)) record = .ok paths ↔
      IsPathList record paths :=
  (Json.readsShape_anyText 125).list.list.readAll_iff_parse

/-- The items of an answer are read from its records. -/
theorem tells_iff {α : Type} {reader : Json.Cursor → Json.Result α} {what : String}
    {reads : String → List α → Prop}
    (hreads : ∀ record list, Json.readAll (Json.list reader) record = .ok list ↔ reads record list)
    {a : Http.Answer} {items : List α} :
    (∃ records, Connector.recordsOf a = .ok records ∧ itemsOf reader what records = .ok items) ↔
      Tells reads a items := by
  simp only [Connector.recordsOf_eq_ok_iff, itemsOf_eq_ok_iff, hreads, Tells]
  constructor
  · rintro ⟨records, ⟨body, rfl, hbody⟩, lists, hlists, rfl⟩
    exact ⟨body, records, lists, rfl, hbody, hlists, rfl⟩
  · rintro ⟨body, records, lists, rfl, hbody, hlists, rfl⟩
    exact ⟨records, ⟨body, rfl, hbody⟩, lists, hlists, rfl⟩

/-! ## Keys and fields -/

/-- What an answer tells of the primary key. -/
def keyOf (name : RelationName) (a : Http.Answer) : Except Error String :=
  (Connector.recordsOf a).bind (keyOfRecords name)

/-- What an answer tells of the fields. -/
def fieldsOf (name : RelationName) (a : Http.Answer) : Except Error (List FieldInfo) :=
  (Connector.recordsOf a).bind (fieldsOfRecords name)

theorem keyOfRecords_eq_ok_iff {name : RelationName} {records : List String} {key : String} :
    keyOfRecords name records = .ok key ↔
      itemsOf (Json.list Json.anyText) "primary key" records = .ok [[key]] := by
  rw [keyOfRecords]
  cases itemsOf (Json.list Json.anyText) "primary key" records with
  | error fault => simp
  | ok paths =>
      rw [Except.ok.injEq]
      dsimp only
      unfold keyOfPaths
      split <;> simp_all

theorem fieldsOfRecords_eq_ok_iff {name : RelationName} {records : List String}
    {fields : List FieldInfo} :
    fieldsOfRecords name records = .ok fields ↔
      itemsOf (Json.record FieldInfo.reader) "field list" records = .ok fields ∧ fields ≠ [] := by
  rw [fieldsOfRecords]
  split <;> rename_i hitems
  · simp [hitems]
  · simp only [hitems, reduceCtorEq, Except.ok.injEq, false_iff, not_and, not_not]
    exact Eq.symm
  · rename_i hsome
    rw [hitems, Except.ok.injEq]
    refine ⟨?_, And.left⟩
    rintro rfl
    exact ⟨rfl, hsome⟩

/-- The key is known exactly if one path of one name is told. -/
theorem keyOf_eq_ok_iff {name : RelationName} {a : Http.Answer} {key : String} :
    keyOf name a = .ok key ↔ Tells IsPathList a [[key]] := by
  rw [keyOf, Json.bind_eq_ok_iff]
  simp only [keyOfRecords_eq_ok_iff]
  exact tells_iff fun _ _ => readAll_eq_ok_iff_isPathList

/-- The fields are known exactly if there are any among what is told, which are then all of them. -/
theorem fieldsOf_eq_ok_iff {name : RelationName} {a : Http.Answer} {fields : List FieldInfo} :
    fieldsOf name a = .ok fields ↔ Tells IsFieldList a fields ∧ fields ≠ [] := by
  rw [fieldsOf, Json.bind_eq_ok_iff]
  simp only [fieldsOfRecords_eq_ok_iff, ← and_assoc, exists_and_right]
  exact and_congr_left fun _ => tells_iff fun _ _ => FieldInfo.listOfJson_eq_ok_iff

/-! ## Composite keys -/

/-- Some paths make a composite key: there are several of them, or one of them has several
components. -/
def IsComposite (paths : List KeyPath) : Prop :=
  1 < paths.length ∨ ∃ path ∈ paths, 1 < path.length

/-- The paths that an answer tells decide what is said about the key. -/
theorem keyOf_of_tells {name : RelationName} {a : Http.Answer} {paths : List KeyPath}
    (told : Tells IsPathList a paths) : keyOf name a = keyOfPaths name paths := by
  obtain ⟨records, hrecords, hitems⟩ : ∃ records, Connector.recordsOf a = .ok records ∧
      itemsOf (Json.list Json.anyText) "primary key" records = .ok paths :=
    (tells_iff fun _ _ => readAll_eq_ok_iff_isPathList).2 told
  rw [keyOf, hrecords]
  change keyOfRecords name records = _
  rw [keyOfRecords, hitems]

/-- What a composite key is reported with. -/
def compositeKey (name : RelationName) (paths : List KeyPath) : Error :=
  .compositePrimaryKey (name.text ++ " has primary key " ++ pathsText paths)

/-- What is reported if there is no key. -/
def noKey (name : RelationName) : Error :=
  .metadata ("No primary key can be found for " ++ name.text)

/-- What is said about some paths: a single path is a key if it has one component, no paths are no
key, and everything else is said to be composite. -/
theorem keyOfPaths_cases (name : RelationName) (paths : List KeyPath) :
    (paths = [] ∧ keyOfPaths name paths = .error (noKey name)) ∨
      (∃ key, paths = [[key]] ∧ keyOfPaths name paths = .ok key) ∨
        ((IsComposite paths ∨ paths = [[]]) ∧
          keyOfPaths name paths = .error (compositeKey name paths)) := by
  match paths with
  | [] => exact .inl ⟨rfl, rfl⟩
  | [[key]] => exact .inr (.inl ⟨key, rfl, rfl⟩)
  | [[]] => exact .inr (.inr ⟨.inr rfl, rfl⟩)
  | [first :: second :: rest] =>
      have several : 1 < (first :: second :: rest).length := by simp
      exact .inr (.inr ⟨.inl (.inr ⟨_, List.mem_singleton_self _, several⟩), rfl⟩)
  | first :: second :: rest =>
      have several : 1 < (first :: second :: rest).length := by simp
      exact .inr (.inr ⟨.inl (.inl several), by simp [keyOfPaths, compositeKey]⟩)

section Told

variable {c : Connector} {name : RelationName} {w : World} {paths : List KeyPath}

/-- An idle connector that is told some paths says what these paths are as a key. -/
theorem run_primaryKey_of_tells (idle : c.isOpen = false) (hscope : name.scope ≠ "")
    (hrelation : name.relation ≠ "")
    (told : Tells IsPathList (w.answer (c.requestOf name.primaryKeyStatement)) paths) :
    ((c.primaryKey name).run w).1.1 = keyOfPaths name paths := by
  have closed : c.results = none := by simpa [Connector.isOpen] using idle
  have named : name.check = .ok () := by simp [RelationName.check, hscope, hrelation]
  rw [Connector.primaryKey, Connector.run_discover_of_idle closed named, Connector.note_fst]
  exact keyOf_of_tells told

/-- An idle connector that is told some paths, in however many records, reports a composite key
exactly if there are several paths, if a path has several components, or if the only path has none;
it finds no key exactly if there is no path, and it gives a key exactly if the only path is of that
one component. -/
theorem primaryKey_of_tells (idle : c.isOpen = false) (hscope : name.scope ≠ "")
    (hrelation : name.relation ≠ "")
    (told : Tells IsPathList (w.answer (c.requestOf name.primaryKeyStatement)) paths) :
    (((c.primaryKey name).run w).1.1 = .error (compositeKey name paths) ↔
        IsComposite paths ∨ paths = [[]]) ∧
      (((c.primaryKey name).run w).1.1 = .error (noKey name) ↔ paths = []) ∧
      ∀ key, ((c.primaryKey name).run w).1.1 = .ok key ↔ paths = [[key]] := by
  rw [run_primaryKey_of_tells idle hscope hrelation told]
  have nothing : ¬ IsComposite [] := by simp [IsComposite]
  have single (key : String) : ¬ IsComposite [[key]] := by simp [IsComposite]
  rcases keyOfPaths_cases name paths with ⟨rfl, h⟩ | ⟨key, rfl, h⟩ | ⟨composite, h⟩
  · simp [h, nothing, noKey, compositeKey]
  · simp [h, single, eq_comm]
  · have some : paths ≠ [] := by rintro rfl; simp [nothing] at composite
    have other (key : String) : paths ≠ [[key]] := by rintro rfl; simp [single] at composite
    simp [h, composite, some, other, noKey, compositeKey]

end Told

/-- Records that are read as lists of paths tell these paths. -/
theorem tells_of_toOption {a : Http.Answer} {paths : List KeyPath} (records : List String)
    (hrecords : (Connector.recordsOf a).toOption = some records)
    (hitems : (itemsOf (Json.list Json.anyText) "primary key" records).toOption = some paths) :
    Tells IsPathList a paths :=
  (tells_iff fun _ _ => readAll_eq_ok_iff_isPathList).1
    ⟨records, Json.eq_ok_of_toOption hrecords, Json.eq_ok_of_toOption hitems⟩

/-- An answer whose results stand on these lines. -/
def answerOf (lines : String) : Http.Answer :=
  .response 200 ⟨Utf8.encode ("\"results\": [ " ++ lines ++ "\n]\n"), none⟩

/-- A path in each of two records makes a composite key. -/
theorem paths_of_two_records_are_composite :
    ∃ c, Connector.ofUrl "http://[::1]" = .ok c ∧
      ((c.primaryKey ⟨"ycsb", "orders"⟩).run
          (.scripted [answerOf "[[\"id\"]]\n, [[\"line\"]]"])).1.1 =
        .error (compositeKey ⟨"ycsb", "orders"⟩ [["id"], ["line"]]) := by
  obtain ⟨c, hurl, idle⟩ : ∃ c, Connector.ofUrl "http://[::1]" = .ok c ∧ c.isOpen = false :=
    ⟨_, rfl, rfl⟩
  have told : Tells IsPathList (answerOf "[[\"id\"]]\n, [[\"line\"]]") [["id"], ["line"]] :=
    tells_of_toOption ["[[\"id\"]]", "[[\"line\"]]"] (by decide +kernel) (by decide +kernel)
  have several : IsComposite [["id"], ["line"]] := .inl (by decide)
  have classified := @primaryKey_of_tells c ⟨"ycsb", "orders"⟩ (.scripted [answerOf _]) _ idle
    (by decide) (by decide) told
  exact ⟨c, hurl, classified.1.2 (.inl several)⟩

/-- A path without a component is reported as a composite key, though the answer names nothing. -/
theorem empty_path_is_reported_as_composite :
    ∃ c, Connector.ofUrl "http://[::1]" = .ok c ∧
      Tells IsPathList (answerOf "[[]]") [[]] ∧ ¬ IsComposite [[]] ∧
      ((c.primaryKey ⟨"ycsb", "usertable"⟩).run (.scripted [answerOf "[[]]"])).1.1 =
        .error (.compositePrimaryKey "ycsb.usertable has primary key [[]]") := by
  obtain ⟨c, hurl, idle⟩ : ∃ c, Connector.ofUrl "http://[::1]" = .ok c ∧ c.isOpen = false :=
    ⟨_, rfl, rfl⟩
  have told : Tells IsPathList (answerOf "[[]]") [[]] :=
    tells_of_toOption ["[[]]"] (by decide +kernel) (by decide +kernel)
  have hreport := @run_primaryKey_of_tells c ⟨"ycsb", "usertable"⟩ (.scripted [answerOf "[[]]"])
    [[]] idle (by decide) (by decide) told
  have htext : keyOfPaths ⟨"ycsb", "usertable"⟩ [[]] =
      .error (.compositePrimaryKey "ycsb.usertable has primary key [[]]") :=
    congrArg (fun text => Except.error (Error.compositePrimaryKey text))
      (by decide +kernel : RelationName.text ⟨"ycsb", "usertable"⟩ ++ " has primary key " ++
        pathsText [[]] = "ycsb.usertable has primary key [[]]")
  exact ⟨c, hurl, told, by simp [IsComposite], hreport.trans htext⟩

end Catalog

end SqlppBench
