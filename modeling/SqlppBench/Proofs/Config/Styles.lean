import Mathlib.Data.List.Nodup
import SqlppBench.Config.Properties
import SqlppBench.Proofs.Config.Drafts
import SqlppBench.Proofs.Members
import SqlppBench.Proofs.Text.Numeral
import SqlppBench.Proofs.Text.Trimming

/-! # Two styles of configurations

A configuration can be written as properties or under the names of its members. What an entry of
either style has to say is stated without the readers, and both styles are read as the configuration
they are about, in any order and with anything usual left out (`both_styles_describe`). A mapping of
properties has no place for the members that only the other style knows.
-/

namespace SqlppBench

open Text

/-! ## Entries -/

namespace Yaml

/-- The entries under the names of what they are about. -/
def entriesOf {κ : Type} (name : κ → String) (given : List (κ × Value)) : List (Value × Value) :=
  given.map fun entry => (.string (name entry.1), entry.2)

/-- Entries, in any order, that say about each thing what is to be said about it, and that leave out
only what goes without saying. -/
structure Lists {κ : Type} (tells : κ → Value → Prop) (usual : κ → Prop)
    (given : List (κ × Value)) : Prop where
  once : (given.map Prod.fst).Nodup
  tells : ∀ k v, (k, v) ∈ given → tells k v
  usual : ∀ k, k ∉ given.map Prod.fst → usual k

/-- The value of a scalar is written as a text, maybe with blanks around it. -/
def IsPadded (text : String) (v : Value) : Prop :=
  ∃ before after, AllBlank before ∧ AllBlank after ∧
    v = .string (String.ofList (before ++ text.toList ++ after))

/-- A number, as a scalar or as a text. -/
def IsNumber (n : Nat) (v : Value) : Prop :=
  v = .number (.whole n) ∨ IsPadded (decimal n) v

/-- A truth value, as a scalar or as a text. -/
def IsFlag (b : Bool) (v : Value) : Prop :=
  v = .bool b ∨ IsPadded (toString b) v

/-- Entries are read one after the other, where each of them is about something new. -/
theorem gather_entriesOf {κ σ : Type} {member : String → σ → Value → Except Mismatch σ}
    {name : κ → String} {tells : κ → Value → Prop} (state : List (κ × Value) → σ)
    (step : ∀ read k v, k ∉ read.map Prod.fst → tells k v →
      member (name k) (state read) v = .ok (state (read ++ [(k, v)])))
    {read given : List (κ × Value)} (once : ((read ++ given).map Prod.fst).Nodup)
    (htells : ∀ k v, (k, v) ∈ given → tells k v) :
    gather member (state read) (entriesOf name given) = .ok (state (read ++ given)) := by
  induction given generalizing read with
  | nil => rw [List.append_nil]; rfl
  | cons entry given ih =>
      obtain ⟨k, v⟩ := entry
      have hnew : k ∉ read.map Prod.fst := by
        rw [List.map_append] at once
        intro hold
        exact (List.nodup_append.1 once).2.2 k hold k List.mem_cons_self rfl
      have hstep := step read k v hnew (htells k v List.mem_cons_self)
      rw [List.append_cons] at once ⊢
      have hrest := ih once fun k v hmem => htells k v (List.mem_cons_of_mem _ hmem)
      rw [← hrest]
      simp only [gather, entriesOf, List.map_cons, List.foldlM_cons, text, Value.asString?,
        Value.untagged, bind, Except.bind, hstep]

theorem Lists.gather {κ σ : Type} {member : String → σ → Value → Except Mismatch σ}
    {name : κ → String} {tells : κ → Value → Prop} {usual : κ → Prop} {given : List (κ × Value)}
    (h : Lists tells usual given) (state : List (κ × Value) → σ)
    (step : ∀ read k v, k ∉ read.map Prod.fst → tells k v →
      member (name k) (state read) v = .ok (state (read ++ [(k, v)]))) :
    Yaml.gather member (state []) (entriesOf name given) = .ok (state given) :=
  gather_entriesOf state step h.once h.tells

/-- All entries are about something that is known, if all of them can be read. -/
theorem known_of_gather_eq_ok {σ : Type} {member : String → σ → Value → Except Mismatch σ}
    {known : String → Prop} (hknown : ∀ name s v s', member name s v = .ok s' → known name)
    {entries : List (Value × Value)} {s s' : σ} (h : gather member s entries = .ok s')
    {name : String} {v : Value} (hmem : (.string name, v) ∈ entries) : known name := by
  induction entries generalizing s with
  | nil => cases hmem
  | cons entry entries ih =>
      obtain ⟨key, w⟩ := entry
      simp only [gather, List.foldlM_cons, bind, Except.bind] at h
      rcases List.mem_cons.1 hmem with heq | hmem
      · cases heq
        simp only [text, Value.asString?, Value.untagged] at h
        split at h
        · cases h
        · rename_i s₁ hread
          exact hknown name s v s₁ hread
      · split at h
        · cases h
        · exact ih h hmem

/-- Each thing is either said or goes without saying. -/
theorem Lists.lookup {κ : Type} [BEq κ] [LawfulBEq κ] {tells : κ → Value → Prop} {usual : κ → Prop}
    {given : List (κ × Value)} (h : Lists tells usual given) (k : κ) :
    (∃ v, given.lookup k = some v ∧ tells k v) ∨ given.lookup k = none ∧ usual k := by
  cases hlookup : given.lookup k with
  | some v =>
      obtain ⟨before, after, rfl, -⟩ := List.lookup_eq_some_iff.1 hlookup
      exact .inl ⟨v, rfl, h.tells k v (by simp)⟩
  | none =>
      refine .inr ⟨rfl, h.usual k fun hmem => ?_⟩
      obtain ⟨entry, hentry, rfl⟩ := List.mem_map.1 hmem
      have hne := List.lookup_eq_none_iff.1 hlookup entry hentry
      simp at hne

/-! ## Readers -/

theorem anyText_string (s : String) : anyText (.string s) = .ok s := rfl

theorem flag_bool (b : Bool) : flag (.bool b) = .ok b := rfl

theorem natural_whole {n bound : Nat} (h : n < bound) (expected : String) :
    natural bound expected (.number (.whole n)) = .ok n := by
  simp [natural, Value.untagged, h]

/-- A member that has not been read is put into its place. -/
theorem field_unread {α σ : Type} {p : Prop} [Decidable p] {reader : Value → Except Mismatch α}
    {v : Value} {a b : α} {name : String} {put : α → σ} (hnew : ¬ p) (h : reader v = .ok a) :
    field name (if p then some b else none) reader put v = .ok (put a) := by
  rw [if_neg hnew, field, h]
  rfl

end Yaml

/-! ## Members by their names -/

/-- What the entry of a member of a feed is. -/
def FeedMember.IsTold (f : FeedConfig) : FeedMember → Yaml.Value → Prop
  | .host => fun v => v = .string f.host
  | .port => fun v => v = .number (.whole f.port)

/-- What the entry of a member of a configuration is. -/
def ConfigMember.IsTold (c : ClientConfig) : ConfigMember → Yaml.Value → Prop
  | .url => fun v => v = .string c.url
  | .scope => fun v => v = .string c.scope
  | .relation => fun v => v = .string c.relation
  | .batchInserts => fun v => v = .number (.whole c.batchInserts)
  | .batchUpdates => fun v => v = .number (.whole c.batchUpdates)
  | .upsert => fun v => v = .bool c.upsert
  | .feed => fun v =>
    match c.feed with
    | none => v = .null
    | some f => ∃ given, Yaml.Lists (FeedMember.IsTold f) (fun _ => False) given ∧
        v = .mapping (Yaml.entriesOf FeedMember.name given)
  | .printStatements => fun v => v = .bool c.printStatements

/-- A member of a feed is read into the draft. -/
theorem FeedConfig.yamlMember_of {f : FeedConfig} {read : List FeedMember} {m : FeedMember}
    {v : Yaml.Value} (port : f.port < portBound) (hnew : m ∉ read) (htold : m.IsTold f v) :
    yamlMember m.name (.of f read) v = .ok (.of f (read ++ [m])) := by
  rw [← FeedDraft.put_of]
  cases m with
  | host =>
      cases htold
      exact Yaml.field_unread hnew (Yaml.anyText_string f.host)
  | port =>
      cases htold
      exact Yaml.field_unread hnew (Yaml.natural_whole port "u16")

/-- A feed is read from its members. -/
theorem FeedConfig.ofYaml_mapping {f : FeedConfig} {given : List (FeedMember × Yaml.Value)}
    (port : f.port < portBound) (h : Yaml.Lists (FeedMember.IsTold f) (fun _ => False) given) :
    ofYaml (.mapping (Yaml.entriesOf FeedMember.name given)) = .ok f := by
  have read : Yaml.gather yamlMember {} (Yaml.entriesOf FeedMember.name given) =
      .ok (FeedDraft.of f (given.map Prod.fst)) := by
    refine h.gather (fun read => FeedDraft.of f (read.map Prod.fst)) fun read m v hnew htold => ?_
    rw [yamlMember_of port hnew htold, List.map_append, List.map_singleton]
  have complete (m : FeedMember) : m ∈ given.map Prod.fst :=
    not_imp_comm.1 (h.usual m) not_false
  have entries : Yaml.entries "struct FeedConfig"
      (.mapping (Yaml.entriesOf FeedMember.name given)) =
        .ok (Yaml.entriesOf FeedMember.name given) := rfl
  simp only [ofYaml, entries, bind, Except.bind, read, FeedDraft.finish_of complete]

/-! ## Configurations by the names of their members -/

namespace ClientConfig

/-- All numbers of the configuration are numbers that its readers accept. -/
structure InRange (c : ClientConfig) : Prop where
  inserts : c.batchInserts < batchBound
  updates : c.batchUpdates < batchBound
  port : ∀ f, c.feed = some f → f.port < portBound

variable {c : ClientConfig}

/-- A feed, or its absence, is read. -/
theorem yamlFeed_of_isTold {v : Yaml.Value} (range : c.InRange)
    (htold : ConfigMember.feed.IsTold c v) : yamlFeed v = .ok c.feed := by
  cases hfeed : c.feed with
  | none =>
      simp only [ConfigMember.IsTold, hfeed] at htold
      rw [htold]
      rfl
  | some f =>
      simp only [ConfigMember.IsTold, hfeed] at htold
      obtain ⟨given, hgiven, rfl⟩ := htold
      show (FeedConfig.ofYaml _).map some = _
      rw [FeedConfig.ofYaml_mapping (range.port f hfeed) hgiven]
      rfl

/-- A member is read into the draft, whichever of its names is used. -/
theorem yamlMember_of {read : List ConfigMember} {m : ConfigMember} {n : String} {v : Yaml.Value}
    (range : c.InRange) (hname : n ∈ m.names) (hnew : m ∉ read) (htold : m.IsTold c v) :
    yamlMember n (.of c read) v = .ok (.of c (read ++ [m])) := by
  rw [← ConfigDraft.put_of]
  simp only [yamlMember, ConfigMember.ofName_of_mem hname, bind, Except.bind]
  -- every member has a reader and a place of its own
  cases m with
  | url =>
      cases htold
      exact Yaml.field_unread hnew (Yaml.anyText_string c.url)
  | scope =>
      cases htold
      exact Yaml.field_unread hnew (Yaml.anyText_string c.scope)
  | relation =>
      cases htold
      exact Yaml.field_unread hnew (Yaml.anyText_string c.relation)
  | batchInserts =>
      cases htold
      exact Yaml.field_unread hnew (Yaml.natural_whole range.inserts "u64")
  | batchUpdates =>
      cases htold
      exact Yaml.field_unread hnew (Yaml.natural_whole range.updates "u64")
  | upsert =>
      cases htold
      exact Yaml.field_unread hnew (Yaml.flag_bool c.upsert)
  | feed => exact Yaml.field_unread hnew (yamlFeed_of_isTold range htold)
  | printStatements =>
      cases htold
      exact Yaml.field_unread hnew (Yaml.flag_bool c.printStatements)

/-- A configuration is read from its members. -/
theorem ofMembers_mapping {called : ConfigMember → String}
    {given : List (ConfigMember × Yaml.Value)} (range : c.InRange)
    (hnames : ∀ m, called m ∈ m.names)
    (h : Yaml.Lists (ConfigMember.IsTold c) (ConfigMember.IsUsual c) given) :
    ofMembers (.mapping (Yaml.entriesOf called given)) = .ok c := by
  have read : Yaml.gather yamlMember {} (Yaml.entriesOf called given) =
      .ok (ConfigDraft.of c (given.map Prod.fst)) := by
    refine h.gather (fun read => ConfigDraft.of c (read.map Prod.fst)) fun read m v hnew htold => ?_
    rw [yamlMember_of range (hnames m) hnew htold, List.map_append, List.map_singleton]
  have entries : Yaml.entries "struct ClientConfig" (.mapping (Yaml.entriesOf called given)) =
      .ok (Yaml.entriesOf called given) := rfl
  simp only [ofMembers, entries, bind, Except.bind, read, pure, Except.pure,
    ConfigDraft.finish_of h.usual]

end ClientConfig

/-! ## Properties -/

namespace Property

/-- What the entry of a property is. Without a feed, it does not matter where one would listen. -/
def IsTold (c : ClientConfig) : Property → Yaml.Value → Prop
  | .url => fun v => v = .string c.url
  | .dataverse => fun v => v = .string c.scope
  | .table => fun v => v = .string c.relation
  | .batchInserts => Yaml.IsNumber c.batchInserts
  | .batchUpdates => Yaml.IsNumber c.batchUpdates
  | .upsertEnabled => Yaml.IsFlag c.upsert
  | .feedEnabled => Yaml.IsFlag c.feed.isSome
  | .feedHost => fun v => ∀ f, c.feed = some f → v = .string f.host
  | .feedPort => fun v => ∀ f, c.feed = some f → Yaml.IsNumber f.port v
  | .printStatements => Yaml.IsFlag c.printStatements

/-- Whether a property has the value that it has without being written. A feed has no usual port. -/
def IsUsual (c : ClientConfig) : Property → Prop
  | .url => ConfigMember.url.IsUsual c
  | .dataverse => ConfigMember.scope.IsUsual c
  | .table => ConfigMember.relation.IsUsual c
  | .batchInserts => ConfigMember.batchInserts.IsUsual c
  | .batchUpdates => ConfigMember.batchUpdates.IsUsual c
  | .upsertEnabled => ConfigMember.upsert.IsUsual c
  | .feedEnabled => ConfigMember.feed.IsUsual c
  | .feedHost => ∀ f, c.feed = some f → f.host = ""
  | .feedPort => c.feed = none
  | .printStatements => ConfigMember.printStatements.IsUsual c

theorem ofName_name (p : Property) : ofName p.name = .ok p := by
  cases p <;> rfl

/-- The names that are known are the names of the properties. -/
theorem eq_name_of_ofName {n : String} {p : Property} (h : ofName n = .ok p) : n = p.name := by
  rw [ofName] at h
  split at h
  · rename_i q hget
    obtain ⟨q, -, heq⟩ := List.mem_map.1 (Members.mem_of_get? hget)
    cases heq
    cases h
    rfl
  · cases h

theorem isMark_iff {n : String} :
    isMark n = true ↔ "db.".toList <+: n.toList ∨ n = Property.printStatements.name := by
  rw [isMark, Bool.or_eq_true, String.startsWith_string_iff, beq_iff_eq]

/-- All properties but the table tell the style. -/
theorem isMark_name_iff {p : Property} : isMark p.name = true ↔ p ≠ .table := by
  rw [isMark_iff]
  cases p <;> decide

end Property

/-- No name of a member tells the style. -/
theorem ConfigMember.not_isMark {m : ConfigMember} {n : String} (h : n ∈ m.names) :
    Property.isMark n = false := by
  have table : ∀ n ∈ m.names,
      ¬ ("db.".toList <+: n.toList ∨ n = Property.printStatements.name) := by
    cases m <;> decide
  rw [Bool.eq_false_iff, ne_eq, Property.isMark_iff]
  exact table n h

/-- A member shares none of its names with a property, except for the table. -/
theorem ConfigMember.ne_name {m : ConfigMember} {n : String} (h : n ∈ m.names)
    (hne : n ≠ Property.table.name) (p : Property) : n ≠ p.name := by
  rintro rfl
  have mark := Property.isMark_name_iff.2 fun hp => hne (congrArg Property.name hp)
  rw [ConfigMember.not_isMark h] at mark
  exact Bool.noConfusion mark

/-! ## Values of properties -/

namespace Properties

/-- The text of a value is this text, without the blanks around it. -/
def IsTextOf (text : String) (v : Yaml.Value) : Prop :=
  ∃ raw, valueText? v = some raw ∧ trimChars raw.toList = text.toList

theorem isTextOf_of_isPadded {text : String} {v : Yaml.Value}
    (tight : ∀ c ∈ text.toList, c.isAlphanum = true) (h : Yaml.IsPadded text v) :
    IsTextOf text v := by
  obtain ⟨before, after, hbefore, hafter, rfl⟩ := h
  refine ⟨_, rfl, ?_⟩
  rw [String.toList_ofList]
  exact trimChars_of_tight (tight_of_isAlphanum tight) hbefore hafter

theorem isTextOf_of_isNumber {n : Nat} {v : Yaml.Value} (h : Yaml.IsNumber n v) :
    IsTextOf (decimal n) v := by
  have digits : ∀ c ∈ (decimal n).toList, c.isAlphanum = true := by
    intro c hc
    rw [Char.isAlphanum, isDigit_of_mem_decimal hc, Bool.or_true]
  rcases h with rfl | h
  · refine ⟨decimal n, rfl, ?_⟩
    have trim := trimChars_of_tight (tight_of_isAlphanum digits) allBlank_nil allBlank_nil
    rwa [List.nil_append, List.append_nil] at trim
  · exact isTextOf_of_isPadded digits h

theorem isTextOf_of_isFlag {b : Bool} {v : Yaml.Value} (h : Yaml.IsFlag b v) :
    IsTextOf (toString b) v := by
  have letters : (toString b).toList.all Char.isAlphanum = true := by
    cases b <;> rfl
  rcases h with rfl | h
  · refine ⟨toString b, rfl, ?_⟩
    cases b <;> rfl
  · exact isTextOf_of_isPadded (List.all_eq_true.1 letters) h

/-! ## Readers of properties -/

section Readers

variable {c : ClientConfig} {given : Properties} {p : Property}
  (h : Yaml.Lists (Property.IsTold c) (Property.IsUsual c) given)
include h

/-- A text is read, unless it is the usual one. -/
theorem text?_getD {s usual : String} (told : ∀ v, p.IsTold c v → v = .string s)
    (missing : p.IsUsual c → s = usual) : (given.text? p).getD usual = s := by
  rw [text?]
  rcases h.lookup p with ⟨v, hlookup, htold⟩ | ⟨hlookup, husual⟩
  · rw [hlookup, told v htold]
    rfl
  · rw [hlookup, missing husual]
    rfl

/-- What a text stands for is read, unless the property is not given. -/
theorem parse?_cases {α : Type} {read : List Char → Option α} {text : String} {a : α}
    (told : ∀ v, p.IsTold c v → IsTextOf text v) (reads : read text.toList = some a) :
    given.parse? p read = .ok (some a) ∨ given.parse? p read = .ok none ∧ p.IsUsual c := by
  rcases h.lookup p with ⟨v, hlookup, htold⟩ | ⟨hlookup, husual⟩
  · left
    obtain ⟨raw, hraw, htrim⟩ := told v htold
    have htext : given.text? p = some raw := by
      rw [text?, hlookup, Option.bind_some, hraw]
    simp only [parse?, htext, htrim, reads]
  · right
    have htext : given.text? p = none := by
      rw [text?, hlookup, Option.bind_none]
    exact ⟨by simp only [parse?, htext], husual⟩

/-- A number is read, unless it is the usual one. -/
theorem exists_parse?_number {n bound usual : Nat} (told : ∀ v, p.IsTold c v → Yaml.IsNumber n v)
    (range : n < bound) (missing : p.IsUsual c → n = usual) :
    ∃ o, given.parse? p (unsigned? 10 bound) = .ok o ∧ o.getD usual = n := by
  rcases parse?_cases h (fun v hv => isTextOf_of_isNumber (told v hv)) (unsigned?_decimal range)
    with hread | ⟨hread, husual⟩
  · exact ⟨some n, hread, rfl⟩
  · exact ⟨none, hread, (missing husual).symm⟩

/-- A truth value is read, and it is false if it is not given. -/
theorem flag_eq {b : Bool} (told : ∀ v, p.IsTold c v → Yaml.IsFlag b v)
    (missing : p.IsUsual c → b = false) : given.flag p = .ok b := by
  have reads : readFlag (toString b).toList = some b := by
    cases b <;> rfl
  rw [flag]
  rcases parse?_cases h (fun v hv => isTextOf_of_isFlag (told v hv)) reads
    with hread | ⟨hread, husual⟩
  · rw [hread]
    rfl
  · rw [hread, missing husual]
    rfl

/-- The feed is read. -/
theorem feed_eq (range : c.InRange) : given.feed = .ok c.feed := by
  have enabled : given.flag .feedEnabled = .ok c.feed.isSome :=
    flag_eq h (fun _ => id) fun husual => by rw [show c.feed = none from husual]; rfl
  rw [feed, enabled]
  cases hfeed : c.feed with
  | none => rfl
  | some f =>
      have host : (given.text? .feedHost).getD "" = f.host :=
        text?_getD h (fun v htold => htold f hfeed) fun husual => husual f hfeed
      have port : given.parse? .feedPort (unsigned? 10 portBound) = .ok (some f.port) := by
        have told (v : Yaml.Value) (htold : Property.feedPort.IsTold c v) :
            IsTextOf (decimal f.port) v := isTextOf_of_isNumber (htold f hfeed)
        rcases parse?_cases h told (unsigned?_decimal (range.port f hfeed))
          with hread | ⟨-, husual⟩
        · exact hread
        · exact absurd (hfeed.symm.trans husual) (Option.some_ne_none f)
      simp only [Option.isSome_some, bind, Except.bind, if_true, port, host, pure, Except.pure]

/-- A configuration is made of its properties. -/
theorem toConfig_eq (range : c.InRange) : given.toConfig = .ok c := by
  obtain ⟨inserts, hinserts, hinsertsD⟩ :=
    exists_parse?_number (p := .batchInserts) h (fun _ => id) range.inserts id
  obtain ⟨updates, hupdates, hupdatesD⟩ :=
    exists_parse?_number (p := .batchUpdates) h (fun _ => id) range.updates id
  have upsert : given.flag .upsertEnabled = .ok c.upsert := flag_eq h (fun _ => id) id
  have printStatements : given.flag .printStatements = .ok c.printStatements :=
    flag_eq h (fun _ => id) id
  have url := text?_getD (p := .url) h (fun _ => id) id
  have scope := text?_getD (p := .dataverse) h (fun _ => id) id
  have relation := text?_getD (p := .table) h (fun _ => id) id
  simp only [toConfig, bind, Except.bind, feed_eq h range, hinserts, hupdates, upsert,
    printStatements, url, scope, relation, hinsertsD, hupdatesD, pure, Except.pure]

end Readers

/-- Properties are gathered in the order in which they are given. -/
theorem ofYaml_mapping {c : ClientConfig} {given : Properties}
    (h : Yaml.Lists (Property.IsTold c) (Property.IsUsual c) given) :
    ofYaml (.mapping (Yaml.entriesOf Property.name given)) = .ok given := by
  have read : Yaml.gather add [] (Yaml.entriesOf Property.name given) = .ok given := by
    refine h.gather id fun read p v hnew _ => ?_
    have absent : read.lookup p = none := by
      refine List.lookup_eq_none_iff.2 fun entry hentry => ?_
      rw [bne_iff_ne]
      rintro rfl
      exact hnew (List.mem_map_of_mem hentry)
    simp [add, Property.ofName_name, bind, Except.bind, pure, Except.pure, absent]
  have entries : Yaml.entries "struct PropertiesConfig"
      (.mapping (Yaml.entriesOf Property.name given)) =
        .ok (Yaml.entriesOf Property.name given) := rfl
  simp only [ofYaml, entries, bind, Except.bind, read]

/-- Where another name than that of a property is among the keys, nothing is read. -/
theorem exists_ofYaml_eq_error {entries : List (Yaml.Value × Yaml.Value)} {n : String}
    {v : Yaml.Value} (hmem : (.string n, v) ∈ entries) (hne : ∀ p : Property, n ≠ p.name) :
    ∃ m, ofYaml (.mapping entries) = .error m := by
  have known (name : String) (given : Properties) (v : Yaml.Value) (given' : Properties)
      (hadd : add name given v = .ok given') : ∃ p : Property, name = p.name := by
    cases hname : Property.ofName name with
    | ok p => exact ⟨p, Property.eq_name_of_ofName hname⟩
    | error m => simp [add, hname, bind, Except.bind] at hadd
  cases hread : ofYaml (.mapping entries) with
  | error m => exact ⟨m, rfl⟩
  | ok given =>
      obtain ⟨p, rfl⟩ := Yaml.known_of_gather_eq_ok known hread hmem
      exact absurd rfl (hne p)

end Properties

/-! ## Two styles -/

namespace ClientConfig

variable {c : ClientConfig}

theorem isPropertiesStyle_entriesOf {κ : Type} (name : κ → String)
    (given : List (κ × Yaml.Value)) : isPropertiesStyle (.mapping (Yaml.entriesOf name given)) =
      given.any fun entry => Property.isMark (name entry.1) := by
  rw [isPropertiesStyle]
  simp [Yaml.Value.asMapping?, Yaml.Value.untagged, Yaml.entriesOf, List.any_map,
    Yaml.Value.asString?, Function.comp_def]

/-- Members under any of their names are not taken for properties. -/
theorem ofYaml_members {called : ConfigMember → String} {given : List (ConfigMember × Yaml.Value)}
    (range : c.InRange) (hnames : ∀ m, called m ∈ m.names)
    (h : Yaml.Lists (ConfigMember.IsTold c) (ConfigMember.IsUsual c) given) :
    ofYaml (.mapping (Yaml.entriesOf called given)) = .ok c := by
  have style : isPropertiesStyle (.mapping (Yaml.entriesOf called given)) = false := by
    rw [isPropertiesStyle_entriesOf, List.any_eq_false]
    intro entry _
    rw [ConfigMember.not_isMark (hnames entry.1)]
    exact Bool.false_ne_true
  rw [ofYaml, style, ofMembers_mapping range hnames h]
  rfl

/-- The names under which members go where they cannot be told from properties. -/
def tableName : ConfigMember → String
  | .relation => Property.table.name
  | m => m.name

theorem tableName_mem_names (m : ConfigMember) : tableName m ∈ m.names := by
  cases m <;> decide

/-- Properties that nothing tells from members are read as members. -/
theorem ofMembers_of_table {given : Properties} (range : c.InRange)
    (h : Yaml.Lists (Property.IsTold c) (Property.IsUsual c) given)
    (htable : ∀ entry ∈ given, entry.1 = .table) :
    ofMembers (.mapping (Yaml.entriesOf Property.name given)) = .ok c := by
  let members : List (ConfigMember × Yaml.Value) := given.map fun entry => (.relation, entry.2)
  have entries : Yaml.entriesOf Property.name given = Yaml.entriesOf tableName members := by
    rw [Yaml.entriesOf, Yaml.entriesOf, List.map_map]
    refine List.map_congr_left fun entry hentry => ?_
    rw [htable entry hentry]
    rfl
  have keys : members.map Prod.fst = (given.map Prod.fst).map fun _ => .relation := by
    rw [List.map_map, List.map_map]
    rfl
  have key_eq {p : Property} (hp : p ∈ given.map Prod.fst) : p = .table := by
    obtain ⟨entry, hentry, rfl⟩ := List.mem_map.1 hp
    exact htable entry hentry
  have usual (p : Property) (hp : p ≠ .table) : p.IsUsual c := h.usual p (mt key_eq hp)
  rw [entries]
  refine ofMembers_mapping range tableName_mem_names ⟨?_, fun m v hmem => ?_, fun m hm => ?_⟩
  · rw [keys]
    exact h.once.map_on fun p hp q hq _ => (key_eq hp).trans (key_eq hq).symm
  · obtain ⟨⟨p, w⟩, hentry, heq⟩ := List.mem_map.1 hmem
    cases heq
    obtain rfl := htable _ hentry
    exact h.tells .table w hentry
  · cases m with
    | relation =>
        refine h.usual .table fun hp => hm ?_
        rw [keys]
        exact List.mem_map_of_mem hp
    | url => exact usual .url nofun
    | scope => exact usual .dataverse nofun
    | batchInserts => exact usual .batchInserts nofun
    | batchUpdates => exact usual .batchUpdates nofun
    | upsert => exact usual .upsertEnabled nofun
    | feed => exact usual .feedEnabled nofun
    | printStatements => exact usual .printStatements nofun

/-- Properties are read, in whichever way. -/
theorem ofYaml_properties {given : Properties} (range : c.InRange)
    (h : Yaml.Lists (Property.IsTold c) (Property.IsUsual c) given) :
    ofYaml (.mapping (Yaml.entriesOf Property.name given)) = .ok c := by
  cases hstyle : isPropertiesStyle (.mapping (Yaml.entriesOf Property.name given)) with
  | true =>
      have read : ofProperties (.mapping (Yaml.entriesOf Property.name given)) = .ok c := by
        rw [ofProperties, Properties.ofYaml_mapping h]
        exact Properties.toConfig_eq h range
      rw [ofYaml, hstyle, read]
      rfl
  | false =>
      have htable : ∀ entry ∈ given, entry.1 = .table := by
        rw [isPropertiesStyle_entriesOf, List.any_eq_false] at hstyle
        intro entry hentry
        by_contra hne
        exact hstyle entry hentry (Property.isMark_name_iff.2 hne)
      rw [ofYaml, hstyle, ofMembers_of_table range h htable]
      rfl

/-- Marks of properties do not go with other names than those of properties. -/
theorem exists_ofYaml_eq_error {entries : List (Yaml.Value × Yaml.Value)} {mark n : String}
    {v w : Yaml.Value} (hmark : (.string mark, v) ∈ entries) (isMark : Property.isMark mark = true)
    (hmem : (.string n, w) ∈ entries) (hne : ∀ p : Property, n ≠ p.name) :
    ∃ message, ofYaml (.mapping entries) = .error (Yaml.documentError message) := by
  have style : isPropertiesStyle (.mapping entries) = true :=
    List.any_eq_true.2 ⟨_, hmark, isMark⟩
  obtain ⟨m, hread⟩ := Properties.exists_ofYaml_eq_error hmem hne
  refine ⟨m.message Yaml.wording, ?_⟩
  rw [ofYaml, style, ofProperties, hread]
  rfl

/-- How a value is read, and with it every text that has this value and not only blanks. -/
structure ReadAs (v : Yaml.Value) (result : Except Error ClientConfig) : Prop where
  value : ofYaml v = result
  text : ∀ s, (trimChars s.toList).isEmpty = false → Yaml.Value.ofText s = .ok v →
    ofYamlText s = result

theorem readAs_of_ofYaml {v : Yaml.Value} {result : Except Error ClientConfig}
    (h : ofYaml v = result) : ReadAs v result := by
  refine ⟨h, fun s hblank htext => ?_⟩
  rw [ofYamlText, hblank, htext]
  exact h

end ClientConfig

/-- A configuration can be written as properties or by the names of its members, in any order and
without what is usual, and both are read as this configuration. What the styles have apart from each
other cannot be mixed. -/
theorem both_styles_describe {c : ClientConfig} (range : c.InRange) :
    (∀ given, Yaml.Lists (Property.IsTold c) (Property.IsUsual c) given →
      ClientConfig.ReadAs (.mapping (Yaml.entriesOf Property.name given)) (.ok c)) ∧
    (∀ called given, (∀ m : ConfigMember, called m ∈ m.names) →
      Yaml.Lists (ConfigMember.IsTold c) (ConfigMember.IsUsual c) given →
        ClientConfig.ReadAs (.mapping (Yaml.entriesOf called given)) (.ok c)) ∧
    ∀ entries mark v n w, (.string mark, v) ∈ entries →
      ("db.".toList <+: mark.toList ∨ mark = "printcmd") → (.string n, w) ∈ entries →
        (∃ m : ConfigMember, n ∈ m.names) → n ≠ "table" → ∃ message,
          ClientConfig.ReadAs (.mapping entries) (.error (Yaml.documentError message)) := by
  refine ⟨fun given h => ?_, fun called given hnames h => ?_, ?_⟩
  · exact ClientConfig.readAs_of_ofYaml (ClientConfig.ofYaml_properties range h)
  · exact ClientConfig.readAs_of_ofYaml (ClientConfig.ofYaml_members range hnames h)
  · rintro entries mark v n w hmark isMark hmem ⟨m, hname⟩ hne
    have others := ConfigMember.ne_name hname hne
    obtain ⟨message, hread⟩ :=
      ClientConfig.exists_ofYaml_eq_error hmark (Property.isMark_iff.2 isMark) hmem others
    exact ⟨message, ClientConfig.readAs_of_ofYaml hread⟩

/-- A feed and a batch size in both styles, and a mixture of the styles. -/
theorem feed_in_both_styles :
    let c : ClientConfig := { batchInserts := 100, feed := some ⟨"feed", 10001⟩ }
    ClientConfig.ofYaml (.mapping [(.string "db.feedport", .string " 10001\n"),
      (.string "db.feedhost", .string "feed"), (.string "db.feedenabled", .bool true),
      (.string "db.batchinserts", .number (.whole 100))]) = .ok c ∧
    ClientConfig.ofYaml (.mapping [(.string "batch_inserts", .number (.whole 100)),
      (.string "feed", .mapping [(.string "port", .number (.whole 10001)),
        (.string "host", .string "feed")])]) = .ok c ∧
    ∃ message, ClientConfig.ofYaml (.mapping [(.string "batch_inserts", .number (.whole 100)),
      (.string "db.feedenabled", .bool false)]) = .error (Yaml.documentError message) := by
  intro c
  have range : c.InRange := by
    refine ⟨by decide, by decide, ?_⟩
    rintro f ⟨⟩
    decide
  obtain ⟨asProperties, asMembers, mixed⟩ := both_styles_describe range
  have properties : Yaml.Lists (Property.IsTold c) (Property.IsUsual c)
      [(.feedPort, .string " 10001\n"), (.feedHost, .string "feed"), (.feedEnabled, .bool true),
        (.batchInserts, .number (.whole 100))] := by
    refine ⟨by decide, fun p v hmem => ?_, fun p hp => ?_⟩
    · simp only [List.mem_cons, Prod.mk.injEq, List.not_mem_nil, or_false] at hmem
      rcases hmem with ⟨rfl, rfl⟩ | ⟨rfl, rfl⟩ | ⟨rfl, rfl⟩ | ⟨rfl, rfl⟩
      · rintro f ⟨⟩
        exact .inr ⟨[' '], ['\n'], by simp [AllBlank, isBlank], by simp [AllBlank, isBlank], rfl⟩
      · rintro f ⟨⟩
        rfl
      · exact .inl rfl
      · exact .inl rfl
    · cases p with
      | url | dataverse | table | batchUpdates | upsertEnabled | printStatements => rfl
      | batchInserts | feedEnabled | feedHost | feedPort => exact absurd (by decide) hp
  have port : Yaml.Lists (FeedMember.IsTold ⟨"feed", 10001⟩) (fun _ => False)
      [(.port, .number (.whole 10001)), (.host, .string "feed")] := by
    refine ⟨by decide, fun m v hmem => ?_, fun m hm => ?_⟩
    · simp only [List.mem_cons, Prod.mk.injEq, List.not_mem_nil, or_false] at hmem
      rcases hmem with ⟨rfl, rfl⟩ | ⟨rfl, rfl⟩ <;> rfl
    · cases m <;> exact hm (by decide)
  have members : Yaml.Lists (ConfigMember.IsTold c) (ConfigMember.IsUsual c)
      [(.batchInserts, .number (.whole 100)),
        (.feed, .mapping [(.string "port", .number (.whole 10001)),
          (.string "host", .string "feed")])] := by
    refine ⟨by decide, fun m v hmem => ?_, fun m hm => ?_⟩
    · simp only [List.mem_cons, Prod.mk.injEq, List.not_mem_nil, or_false] at hmem
      rcases hmem with ⟨rfl, rfl⟩ | ⟨rfl, rfl⟩
      · rfl
      · exact ⟨_, port, rfl⟩
    · cases m with
      | url | scope | relation | batchUpdates | upsert | printStatements => rfl
      | batchInserts | feed => exact absurd (by decide) hm
  refine ⟨(asProperties _ properties).value,
    (asMembers ConfigMember.name _ ConfigMember.name_mem_names members).value, ?_⟩
  have mark : "db.".toList <+: "db.feedenabled".toList ∨ "db.feedenabled" = "printcmd" :=
    .inl (by decide)
  obtain ⟨message, hread⟩ := mixed _ _ _ "batch_inserts" _ (.tail _ (.head _)) mark (.head _)
    ⟨.batchInserts, ConfigMember.name_mem_names .batchInserts⟩ (by decide)
  exact ⟨message, hread.value⟩

end SqlppBench
