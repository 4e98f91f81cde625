import SqlppBench.Proofs.Connector.Catalog
import SqlppBench.Proofs.Connector.Discipline
import SqlppBench.Proofs.Executor.Session

/-! # Connecting

Before a session begins the catalog is asked for the key and then for the fields, and the feed is
opened. Each step is taken only if the one before has succeeded, so there are four ways for it to
end (`Discovers`), one of which gives an executor; nothing else is ever said
(`plays_connect_iff`).
-/

namespace SqlppBench.Executor

open Dialogue
open Catalog (IsFieldList IsPathList Tells fieldsOf fieldsOf_eq_ok_iff keyOf keyOf_eq_ok_iff)

/-! ## Asking the catalog -/

/-- An idle connector asks the catalog with one request. The answer alone decides what comes of it,
and the connector is idle again. -/
theorem asks_of_plays_discover {α : Type} {c c' : Connector} (closed : c.isOpen = false)
    {name : Catalog.RelationName} (named : name.check = .ok ()) {statement : String}
    {ofRecords : List String → Except Error α} {t : List Said} {result : Except Error α}
    (h : (c.discover name statement ofRecords).Plays t (result, c')) :
    ∃ a, t = [⟨.request (c.requestOf statement), a⟩] ∧ c'.isOpen = false ∧
      result = (Connector.recordsOf a).bind ofRecords := by
  have idle := Connector.results_eq_none_iff.2 closed
  rw [Connector.discover_of_idle idle named] at h
  obtain ⟨a, rest, rfl, hrest⟩ := plays_perform_iff.1 h
  obtain ⟨rfl, hgiven⟩ := plays_done_iff.1 hrest
  obtain ⟨hresult, hconnector⟩ := Prod.ext_iff.1 hgiven
  obtain rfl : c' = _ := hconnector
  have idle' := (Connector.results_note ((Connector.recordsOf a).bind ofRecords) _).trans
    ((Connector.results_afterAnswer c a).trans idle)
  exact ⟨a, rfl, Connector.results_eq_none_iff.1 idle', hresult.trans (Connector.note_fst _ _)⟩

/-- A connector that has been told something has had an answer, and nothing is wrong with it. -/
theorem note_afterAnswer_of_tells {α β : Type} {c : Connector} {a : Http.Answer}
    {reads : String → List α → Prop} {items : List α} (h : Tells reads a items) (b : β) :
    Connector.note (.ok b) (c.afterAnswer a) =
      (.ok b, { c with answered := true, error := "" }) := by
  obtain ⟨body, records, lists, rfl, -⟩ := h
  rfl

/-- What is not told of the key is a failure. -/
theorem keyOf_eq_error_iff {name : Catalog.RelationName} {a : Http.Answer} :
    (∃ fault, keyOf name a = .error fault) ↔ ∀ key, ¬ Tells IsPathList a [[key]] := by
  have hok := @keyOf_eq_ok_iff name a
  simp only [← hok]
  cases keyOf name a <;> simp

/-- What is not told of the fields is a failure. -/
theorem fieldsOf_eq_error_iff {name : Catalog.RelationName} {a : Http.Answer} :
    (∃ fault, fieldsOf name a = .error fault) ↔
      ∀ fields, Tells IsFieldList a fields → fields = [] := by
  have hok (fields : List FieldInfo) : (Tells IsFieldList a fields → fields = []) ↔
      fieldsOf name a ≠ .ok fields := by
    rw [ne_eq, fieldsOf_eq_ok_iff, not_and, not_not]
  simp only [hok]
  cases fieldsOf name a <;> simp

/-! ## The ways to connect -/

/-- The request for the key. -/
def keyRequest (config : ClientConfig) (endpoint : Endpoint) : Http.Request :=
  ⟨endpoint, (relationName config).primaryKeyStatement⟩

/-- The request for the fields. -/
def fieldsRequest (config : ClientConfig) (endpoint : Endpoint) : Http.Request :=
  ⟨endpoint, (relationName config).fieldsStatement⟩

/-- An executor at the beginning of its session: nothing waits, no results are open, and no failure
is noted. -/
def discovered (config : ClientConfig) (endpoint : Endpoint) (key : String)
    (fields : List FieldInfo) (feed : Option FeedWriter) : Executor where
  config
  connector := { endpoint, results := none, error := "", answered := true }
  schema := .ofCatalog key fields
  inserts := []
  updates := []
  feed

/-- What is said to open the configured feed, and what comes of it. -/
inductive OpensFeed : Option FeedConfig → List Said → Except Error (Option FeedWriter) → Prop
  | unconfigured : OpensFeed none [] (.ok none)
  | accepted (f : FeedConfig) (id : ConnectionId) :
      OpensFeed (some f) [⟨.connect f.host f.port, .ok id⟩] (.ok (some ⟨f, some id⟩))
  | refused (f : FeedConfig) (reason : String) :
      OpensFeed (some f) [⟨.connect f.host f.port, .error reason⟩]
        (.error (FeedWriter.connectFailure f reason))

/-- What may be said to connect, and what comes of it. -/
inductive Discovers (config : ClientConfig) (endpoint : Endpoint) :
    List Said → Except Error Executor → Prop
  | noKey {a : Http.Answer} {fault : Error} :
      (∀ key, ¬ Tells IsPathList a [[key]]) → keyOf (relationName config) a = .error fault →
      Discovers config endpoint [⟨.request (keyRequest config endpoint), a⟩] (.error fault)
  | noFields {a a' : Http.Answer} {key : String} {fault : Error} :
      Tells IsPathList a [[key]] → (∀ fields, Tells IsFieldList a' fields → fields = []) →
      fieldsOf (relationName config) a' = .error fault →
      Discovers config endpoint [⟨.request (keyRequest config endpoint), a⟩,
        ⟨.request (fieldsRequest config endpoint), a'⟩] (.error fault)
  | noFeed {a a' : Http.Answer} {key : String} {fields : List FieldInfo} {opening : List Said}
      {fault : Error} :
      Tells IsPathList a [[key]] → Tells IsFieldList a' fields → fields ≠ [] →
      OpensFeed config.feed opening (.error fault) →
      Discovers config endpoint (⟨.request (keyRequest config endpoint), a⟩ ::
        ⟨.request (fieldsRequest config endpoint), a'⟩ :: opening) (.error fault)
  | ready {a a' : Http.Answer} {key : String} {fields : List FieldInfo} {opening : List Said}
      {feed : Option FeedWriter} :
      Tells IsPathList a [[key]] → Tells IsFieldList a' fields → fields ≠ [] →
      OpensFeed config.feed opening (.ok feed) →
      Discovers config endpoint (⟨.request (keyRequest config endpoint), a⟩ ::
        ⟨.request (fieldsRequest config endpoint), a'⟩ :: opening)
        (.ok (discovered config endpoint key fields feed))

/-! ## Connecting as a whole -/

variable {config : ClientConfig} {endpoint : Endpoint} {key : String} {fields : List FieldInfo}
  {t : List Said}

/-- Opening the feed changes nothing but the feed. -/
theorem plays_openFeed_iff {result : Except Error Executor} :
    (openFeed (discovered config endpoint key fields none)).Plays t result ↔
      ∃ feed, OpensFeed config.feed t feed ∧
        result = feed.map (discovered config endpoint key fields) := by
  have hconfig : (discovered config endpoint key fields none).config = config := rfl
  rw [openFeed, hconfig]
  constructor
  · intro h
    cases hfeed : config.feed with
    | none =>
        rw [hfeed] at h
        obtain ⟨rfl, rfl⟩ := plays_done_iff.1 h
        exact ⟨.ok none, .unconfigured, rfl⟩
    | some f =>
        rw [hfeed] at h
        obtain ⟨reply, rest, rfl, hrest⟩ := plays_perform_iff.1 h
        cases reply with
        | error reason =>
            obtain ⟨rfl, rfl⟩ := plays_done_iff.1 hrest
            exact ⟨_, .refused f reason, rfl⟩
        | ok id =>
            obtain ⟨rfl, rfl⟩ := plays_done_iff.1 hrest
            exact ⟨_, .accepted f id, rfl⟩
  · rintro ⟨feed, hopens, rfl⟩
    cases hfeed : config.feed with
    | none =>
        rw [hfeed] at hopens
        cases hopens
        exact .done _
    | some f =>
        rw [hfeed] at hopens
        cases hopens with
        | accepted id => exact .perform _ (.done _)
        | refused reason => exact .perform _ (.done _)

/-- A question that an idle connector asks the catalog, and what is done with the result of it. -/
theorem plays_discover_bind_iff {α β : Type} {c : Connector} (idle : c.results = none)
    {name : Catalog.RelationName} (named : name.check = .ok ()) {statement : String}
    {ofRecords : List String → Except Error α} {next : Except Error α × Connector → Dialogue β}
    {b : β} :
    ((c.discover name statement ofRecords).bind next).Plays t b ↔
      ∃ a rest, t = ⟨.request (c.requestOf statement), a⟩ :: rest ∧
        (next (Connector.note ((Connector.recordsOf a).bind ofRecords) (c.afterAnswer a))).Plays
          rest b := by
  rw [Connector.discover_of_idle idle named, perform_bind, plays_perform_iff]
  exact Iff.rfl

theorem plays_primaryKey_bind_iff {c : Connector} (idle : c.results = none)
    {name : Catalog.RelationName} (named : name.check = .ok ())
    {next : Except Error String × Connector → Dialogue (Except Error Executor)}
    {result : Except Error Executor} :
    ((c.primaryKey name).bind next).Plays t result ↔
      ∃ a rest, t = ⟨.request (c.requestOf name.primaryKeyStatement), a⟩ :: rest ∧
        (next (Connector.note (keyOf name a) (c.afterAnswer a))).Plays rest result :=
  plays_discover_bind_iff idle named

theorem plays_fields_bind_iff {c : Connector} (idle : c.results = none)
    {name : Catalog.RelationName} (named : name.check = .ok ())
    {next : Except Error (List FieldInfo) × Connector → Dialogue (Except Error Executor)}
    {result : Except Error Executor} :
    ((c.fields name).bind next).Plays t result ↔
      ∃ a rest, t = ⟨.request (c.requestOf name.fieldsStatement), a⟩ :: rest ∧
        (next (Connector.note (fieldsOf name a) (c.afterAnswer a))).Plays rest result :=
  plays_discover_bind_iff idle named

/-- What is left to do once the key is known. -/
def describe (config : ClientConfig) (endpoint : Endpoint) (key : String) :
    Dialogue (Except Error Executor) :=
  (({ endpoint, answered := true } : Connector).fields (relationName config)).bind
    fun (fields, c) =>
      match fields with
      | .error fault => .done (.error fault)
      | .ok fields => openFeed { config, connector := c, schema := .ofCatalog key fields }

/-- Connecting asks for the key, and goes on if it is told. -/
theorem plays_connect_iff_of_key [Url.Idna] (valid : Endpoint.parse config.url = .ok endpoint)
    (named : (relationName config).check = .ok ()) {result : Except Error Executor} :
    (connect config).Plays t result ↔
      ∃ a rest, t = ⟨.request (keyRequest config endpoint), a⟩ :: rest ∧
        ((∃ fault, keyOf (relationName config) a = .error fault ∧ rest = [] ∧
            result = .error fault) ∨
          ∃ key, keyOf (relationName config) a = .ok key ∧
            (describe config endpoint key).Plays rest result) := by
  have hconnect : connect config = discover config (.ofEndpoint endpoint) := by
    unfold connect
    rw [Connector.ofUrl, valid]
    rfl
  have idle : (Connector.ofEndpoint endpoint).results = none := rfl
  rw [hconnect]
  unfold discover
  refine (plays_primaryKey_bind_iff idle named).trans ?_
  refine exists_congr fun a => exists_congr fun rest => and_congr_right fun _ => ?_
  cases hkey : keyOf (relationName config) a with
  | error fault =>
      rw [Connector.note_error]
      simp
  | ok key =>
      have told := keyOf_eq_ok_iff.1 hkey
      rw [note_afterAnswer_of_tells told]
      simp only [reduceCtorEq, false_and, exists_false, false_or, Except.ok.injEq,
        exists_eq_left']
      exact Iff.rfl

/-- Behind the key come the fields, and behind these the feed. -/
theorem plays_describe_iff (named : (relationName config).check = .ok ())
    {result : Except Error Executor} :
    (describe config endpoint key).Plays t result ↔
      ∃ a opening, t = ⟨.request (fieldsRequest config endpoint), a⟩ :: opening ∧
        ((∃ fault, fieldsOf (relationName config) a = .error fault ∧ opening = [] ∧
            result = .error fault) ∨
          ∃ fields, fieldsOf (relationName config) a = .ok fields ∧
            ∃ feed, OpensFeed config.feed opening feed ∧
              result = feed.map (discovered config endpoint key fields)) := by
  have idle : ({ endpoint, answered := true } : Connector).results = none := rfl
  rw [describe]
  refine (plays_fields_bind_iff idle named).trans ?_
  refine exists_congr fun a => exists_congr fun opening => and_congr_right fun _ => ?_
  cases hfields : fieldsOf (relationName config) a with
  | error fault =>
      rw [Connector.note_error]
      simp
  | ok fields =>
      have told := (fieldsOf_eq_ok_iff.1 hfields).1
      rw [note_afterAnswer_of_tells told]
      simp only [reduceCtorEq, false_and, exists_false, false_or, Except.ok.injEq,
        exists_eq_left']
      exact plays_openFeed_iff

/-- Connecting goes one of the four ways, and each of these is one for it to go. -/
theorem plays_connect_iff [Url.Idna] (valid : Endpoint.parse config.url = .ok endpoint)
    (named : (relationName config).check = .ok ()) {result : Except Error Executor} :
    (connect config).Plays t result ↔ Discovers config endpoint t result := by
  simp only [plays_connect_iff_of_key valid named, plays_describe_iff named]
  constructor
  · rintro ⟨a, rest, rfl, ⟨fault, hkey, rfl, rfl⟩ | ⟨key, hkey, a', opening, rfl, hfields⟩⟩
    · exact .noKey (keyOf_eq_error_iff.1 ⟨fault, hkey⟩) hkey
    · have key := keyOf_eq_ok_iff.1 hkey
      rcases hfields with ⟨fault, hfields, rfl, rfl⟩ | ⟨fields, hfields, feed, hfeed, rfl⟩
      · exact .noFields key (fieldsOf_eq_error_iff.1 ⟨fault, hfields⟩) hfields
      · obtain ⟨told, some⟩ := fieldsOf_eq_ok_iff.1 hfields
        cases feed with
        | error fault => exact .noFeed key told some hfeed
        | ok feed => exact .ready key told some hfeed
  · intro h
    cases h with
    | noKey _ hkey => exact ⟨_, [], rfl, .inl ⟨_, hkey, rfl, rfl⟩⟩
    | noFields hkey _ hfields =>
        exact ⟨_, _, rfl, .inr ⟨_, keyOf_eq_ok_iff.2 hkey, _, [], rfl,
          .inl ⟨_, hfields, rfl, rfl⟩⟩⟩
    | noFeed hkey hfields some hfeed =>
        exact ⟨_, _, rfl, .inr ⟨_, keyOf_eq_ok_iff.2 hkey, _, _, rfl,
          .inr ⟨_, fieldsOf_eq_ok_iff.2 ⟨hfields, some⟩, _, hfeed, rfl⟩⟩⟩
    | ready hkey hfields some hfeed =>
        exact ⟨_, _, rfl, .inr ⟨_, keyOf_eq_ok_iff.2 hkey, _, _, rfl,
          .inr ⟨_, fieldsOf_eq_ok_iff.2 ⟨hfields, some⟩, _, hfeed, rfl⟩⟩⟩

/-- Connecting gives an executor that is ready, or it fails and says nothing more.

An idle connector asks the catalog with one request. It gives the key exactly if the answer is a
success that is read without a fault and tells one path of one name, and the fields exactly if the
answer is one that tells some, which it gives in the order of the catalog. Connecting asks for the
key first, for the fields once there is a key, and opens the feed once there are both; whatever the
answers are, it goes one of the ways of `Discovers`, and only with a key, with fields and with the
feed, if there is to be one, does it give an executor. -/
theorem connecting_gives_a_ready_executor_or_fails [Url.Idna]
    (valid : Endpoint.parse config.url = .ok endpoint) (hscope : config.scope ≠ "")
    (hrelation : config.relation ≠ "") :
    (∀ c : Connector, c.isOpen = false →
      (∀ t result c', (c.primaryKey (relationName config)).Plays t (result, c') →
        ∃ a, t = [⟨.request (c.requestOf (relationName config).primaryKeyStatement), a⟩] ∧
          c'.isOpen = false ∧ ∀ key, result = .ok key ↔ Tells IsPathList a [[key]]) ∧
      ∀ t result c', (c.fields (relationName config)).Plays t (result, c') →
        ∃ a, t = [⟨.request (c.requestOf (relationName config).fieldsStatement), a⟩] ∧
          c'.isOpen = false ∧
          ∀ fields, result = .ok fields ↔ Tells IsFieldList a fields ∧ fields ≠ []) ∧
    ∀ t result, (connect config).Plays t result ↔ Discovers config endpoint t result := by
  have checked : (relationName config).check = .ok () :=
    (Connector.check_eq_ok_iff _).2 ⟨hscope, hrelation⟩
  refine ⟨fun c closed => ?_, fun t result => plays_connect_iff valid checked⟩
  constructor
  · intro t result c' h
    obtain ⟨a, rfl, closed', rfl⟩ := asks_of_plays_discover closed checked h
    exact ⟨a, rfl, closed', fun key => keyOf_eq_ok_iff⟩
  · intro t result c' h
    obtain ⟨a, rfl, closed', rfl⟩ := asks_of_plays_discover closed checked h
    exact ⟨a, rfl, closed', fun fields => fieldsOf_eq_ok_iff⟩

/-- A key, a field and an open feed make an executor. -/
theorem described_relation_makes_an_executor_ready :
    let f : FeedConfig := ⟨"localhost", 10001⟩
    let config : ClientConfig := { url := "http://[::1]", feed := some f }
    ∃ endpoint, Endpoint.parse config.url = .ok endpoint ∧
      (connect config).Plays
        [⟨.request (keyRequest config endpoint), catalogAnswers[0]⟩,
          ⟨.request (fieldsRequest config endpoint), catalogAnswers[1]⟩,
          ⟨.connect "localhost" 10001, .ok 0⟩]
        (.ok (discovered config endpoint "id" [⟨"f", ""⟩] (some ⟨f, some 0⟩))) := by
  intro f config
  have parses : (Endpoint.parse config.url).isOk = true := by decide +kernel
  obtain ⟨endpoint, valid⟩ := exists_eq_ok parses
  have connects := (connecting_gives_a_ready_executor_or_fails valid (by decide) (by decide)).2
  have told := keyOf_eq_ok_iff.1 (keyOf_catalogAnswers (relationName config))
  obtain ⟨described, some⟩ := fieldsOf_eq_ok_iff.1 (fieldsOf_catalogAnswers (relationName config))
  exact ⟨endpoint, valid, (connects _ _).2 (.ready told described some (.accepted f 0))⟩

end SqlppBench.Executor
