import SqlppBench.Config.Member
import SqlppBench.Proofs.Members

/-! # Drafts

A configuration is read member by member, in any notation and in any order. When some members have
been read, the draft holds just these (`ConfigDraft.of`), and the members that are never read must
have their usual values.
-/

namespace SqlppBench

/-- A value that has been read, or the usual one. -/
theorem getD_ite {α : Type} {p : Prop} [Decidable p] {a usual : α} (h : ¬ p → a = usual) :
    (if p then some a else none).getD usual = a := by
  split
  · rfl
  · rename_i hp
    exact (h hp).symm

/-- Whether a member of a configuration has the value that it has without being written. -/
def ConfigMember.IsUsual (c : ClientConfig) : ConfigMember → Prop
  | .url => c.url = ({} : ClientConfig).url
  | .scope => c.scope = ({} : ClientConfig).scope
  | .relation => c.relation = ({} : ClientConfig).relation
  | .batchInserts => c.batchInserts = ({} : ClientConfig).batchInserts
  | .batchUpdates => c.batchUpdates = ({} : ClientConfig).batchUpdates
  | .upsert => c.upsert = ({} : ClientConfig).upsert
  | .feed => c.feed = ({} : ClientConfig).feed
  | .printStatements => c.printStatements = ({} : ClientConfig).printStatements

/-- Every name of a member is known as a name of this member. -/
theorem ConfigMember.ofName_of_mem {m : ConfigMember} {n : String} (h : n ∈ m.names) :
    ofName n = .ok m := by
  have known : ∀ n ∈ m.names, Members.get? n named = some m := by
    cases m <;> decide
  rw [ofName, known n h]

/-- No two members share a name. -/
theorem ConfigMember.eq_of_mem_names {m m' : ConfigMember} {n : String} (h : n ∈ m.names)
    (h' : n ∈ m'.names) : m = m' :=
  Except.ok.inj ((ofName_of_mem h).symm.trans (ofName_of_mem h'))

/-- Every name that is known is a name of the member that it is known for. -/
theorem ConfigMember.mem_names_of_ofName {m : ConfigMember} {n : String} (h : ofName n = .ok m) :
    n ∈ m.names := by
  rw [ofName] at h
  split at h
  · rename_i hget
    obtain ⟨m', -, hmem⟩ := List.mem_flatMap.1 (Members.mem_of_get? hget)
    obtain ⟨n', hn', heq⟩ := List.mem_map.1 hmem
    cases heq
    cases h
    exact hn'
  · cases h

theorem FeedMember.ofName_name (m : FeedMember) : ofName m.name = .ok m := by
  cases m <;> rfl

namespace ConfigDraft

/-- What is known of a configuration when some of its members have been read. -/
def of (c : ClientConfig) (read : List ConfigMember) : ConfigDraft where
  url := if .url ∈ read then some c.url else none
  scope := if .scope ∈ read then some c.scope else none
  relation := if .relation ∈ read then some c.relation else none
  batchInserts := if .batchInserts ∈ read then some c.batchInserts else none
  batchUpdates := if .batchUpdates ∈ read then some c.batchUpdates else none
  upsert := if .upsert ∈ read then some c.upsert else none
  feed := if .feed ∈ read then some c.feed else none
  printStatements := if .printStatements ∈ read then some c.printStatements else none

variable {c : ClientConfig} {read : List ConfigMember}

/-- The draft in which one more member has been read. -/
def put (c : ClientConfig) (d : ConfigDraft) : ConfigMember → ConfigDraft
  | .url => { d with url := some c.url }
  | .scope => { d with scope := some c.scope }
  | .relation => { d with relation := some c.relation }
  | .batchInserts => { d with batchInserts := some c.batchInserts }
  | .batchUpdates => { d with batchUpdates := some c.batchUpdates }
  | .upsert => { d with upsert := some c.upsert }
  | .feed => { d with feed := some c.feed }
  | .printStatements => { d with printStatements := some c.printStatements }

theorem put_of (m : ConfigMember) : (of c read).put c m = of c (read ++ [m]) := by
  cases m <;> simp [of, put]

/-- What has not been read must be as usual. -/
theorem finish_of (h : ∀ m, m ∉ read → m.IsUsual c) : (of c read).finish = c := by
  simp only [finish, of, getD_ite (h .url), getD_ite (h .scope), getD_ite (h .relation),
    getD_ite (h .batchInserts), getD_ite (h .batchUpdates), getD_ite (h .upsert),
    getD_ite (h .feed), getD_ite (h .printStatements)]

end ConfigDraft

/-- What is known of a feed when some of its members have been read. -/
def FeedDraft.of (f : FeedConfig) (read : List FeedMember) : FeedDraft where
  host := if .host ∈ read then some f.host else none
  port := if .port ∈ read then some f.port else none

/-- The draft in which one more member has been read. -/
def FeedDraft.put (f : FeedConfig) (d : FeedDraft) : FeedMember → FeedDraft
  | .host => { d with host := some f.host }
  | .port => { d with port := some f.port }

theorem FeedDraft.put_of {f : FeedConfig} {read : List FeedMember} (m : FeedMember) :
    (of f read).put f m = of f (read ++ [m]) := by
  cases m <;> simp [of, put]

/-- Both members must have been read. -/
theorem FeedDraft.finish_of {f : FeedConfig} {read : List FeedMember} (h : ∀ m, m ∈ read) :
    (of f read).finish = .ok f := by
  simp only [of, finish, if_pos (h _)]

end SqlppBench
