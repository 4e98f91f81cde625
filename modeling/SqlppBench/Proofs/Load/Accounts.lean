import SqlppBench.Proofs.Load.Clients
import SqlppBench.Proofs.Load.Shares

/-! # What a load accounts for

The clients of a load make their calls in any turns, and each of them has its part in what is said.
The summary of the load adds up those of the clients, so it accounts for all records and for every
failure (`Accounts`); and where the answers depend on the statements alone, the turns do not matter
(`results_eq_of_answeredBy`).
-/

namespace SqlppBench

namespace Load

open Dialogue Executor

variable {l : Load} {config : ClientConfig} {payload : Payload} {shared : List (Nat × Said)}
  {results : List (Except Error RunSummary)}

/-! ## Merging -/

/-- There is a report unless a client failed to connect. -/
theorem exists_mergeAll_iff (s : RunSummary) :
    (∃ summary, mergeAll results s = .ok summary) ↔ ∀ r ∈ results, ∃ client, r = .ok client := by
  induction results generalizing s with
  | nil => simp [mergeAll]
  | cons r results ih =>
      cases r with
      | error fault => simp [mergeAll]
      | ok client => simp [mergeAll, ih]

/-- The summaries of the clients are merged one after the other. -/
theorem mergeAll_ok (summaries : List RunSummary) (s : RunSummary) :
    mergeAll (summaries.map .ok) s = .ok (summaries.foldl RunSummary.merge s) := by
  induction summaries generalizing s with
  | nil => rfl
  | cons t summaries ih => exact ih _

/-! ## Connecting -/

/-- Every client of a load has connected. -/
def AllConnect [Url.Idna] (l : Load) (config : ClientConfig) (shared : List (Nat × Said)) : Prop :=
  ∀ i < l.clients, ∃ opening rest e,
    partOf i shared = opening ++ rest ∧ (connect config).Plays opening (.ok e)

theorem length_sessions [Url.Idna] (l : Load) (config : ClientConfig) (payload : Payload) :
    (l.sessions config payload).length = l.clients := by
  rw [sessions, List.length_map, List.length_range]

/-- The part of a client is a transcript of its session. -/
theorem plays_part [Url.Idna] (h : Shared (l.sessions config payload) shared results) {i : Nat}
    (hi : i < l.clients) (hresult : i < results.length) :
    (l.session config payload i).Plays (partOf i shared) results[i] := by
  have hplays := h.plays i (by rwa [length_sessions]) hresult
  simpa [sessions] using hplays

/-- The session of a client ends with a summary exactly when it has connected. -/
theorem exists_client_iff [Url.Idna] {i : Nat} {part : List Said} {result : Except Error RunSummary}
    (h : (l.session config payload i).Plays part result) :
    (∃ opening rest e, part = opening ++ rest ∧ (connect config).Plays opening (.ok e)) ↔
      ∃ summary, result = .ok summary := by
  rcases isClient_or_error h with ⟨c, client, rfl⟩ | ⟨fault, hfails, rfl⟩
  · exact iff_of_true ⟨_, _, _, client.part, client.connects⟩ ⟨_, rfl⟩
  · refine iff_of_false ?_ (by simp)
    rintro ⟨opening, rest, e, rfl, hconnect⟩
    obtain ⟨-, heq, -⟩ := hfails.unique hconnect (List.append_nil _)
    cases heq

/-- All clients have connected exactly when there is a report. -/
theorem exists_report_iff [Url.Idna] (h : Shared (l.sessions config payload) shared results)
    (elapsedMs : Nat) :
    (∃ summary, report elapsedMs results = .ok summary) ↔ l.AllConnect config shared := by
  have hlength : results.length = l.clients := h.length.trans (length_sessions ..)
  have hreport : (∃ summary, report elapsedMs results = .ok summary) ↔
      ∃ summary, mergeAll results {} = .ok summary := by
    unfold report
    cases mergeAll results {} <;> simp [Except.map]
  rw [hreport, exists_mergeAll_iff]
  constructor
  · intro succeed i hi
    have hresult : i < results.length := hlength ▸ hi
    exact (exists_client_iff (plays_part h hi hresult)).2
      (succeed _ (List.getElem_mem hresult))
  · intro connect r hr
    obtain ⟨i, hresult, rfl⟩ := List.getElem_of_mem hr
    have hi : i < l.clients := hlength ▸ hresult
    exact (exists_client_iff (plays_part h hi hresult)).1 (connect i hi)

/-- Where every session ends with a summary, it is that of a client. -/
theorem exists_clients [Url.Idna] (h : Shared (l.sessions config payload) shared results)
    (connected : l.AllConnect config shared) :
    ∃ clients : List Client, clients.length = l.clients ∧
      (∀ i (hi : i < clients.length),
        l.IsClient config payload i (partOf i shared) clients[i]) ∧
      results = (clients.map Client.summary).map .ok := by
  have hlength : results.length = l.clients := h.length.trans (length_sessions ..)
  have inside (i : Fin l.clients) : i.val < results.length := by
    rw [hlength]
    exact i.isLt
  have each (i : Fin l.clients) : ∃ c, l.IsClient config payload i (partOf i shared) c ∧
      results.get ⟨i, inside i⟩ = .ok c.summary := by
    have hplays := plays_part h i.isLt (inside i)
    obtain ⟨summary, hsummary⟩ := (exists_client_iff hplays).1 (connected i i.isLt)
    rcases isClient_or_error hplays with hclient | ⟨fault, -, hfault⟩
    · exact hclient
    · cases hfault.symm.trans hsummary
  choose client hclient using each
  refine ⟨List.ofFn client, List.length_ofFn, ?_, ?_⟩
  · intro i hi
    rw [List.getElem_ofFn]
    rw [List.length_ofFn] at hi
    exact (hclient ⟨i, hi⟩).1
  · refine List.ext_getElem (by simp [hlength]) fun i hi hi' => ?_
    simp only [List.getElem_map, List.getElem_ofFn]
    exact (hclient ⟨i, hlength ▸ hi⟩).2

/-! ## What a summary says -/

/-- The accounts of a load: who its clients are, and what their summary says. -/
structure Accounts [Url.Idna] (l : Load) (config : ClientConfig) (payload : Payload)
    (shared : List (Nat × Said)) (summary : RunSummary) (clients : List Client) : Prop where
  length : clients.length = l.clients
  parts : ∀ i (hi : i < clients.length),
    l.IsClient config payload i (partOf i shared) clients[i]
  count : summary.clients = l.clients
  /-- Together the clients insert all records, each of them once. -/
  records : (clients.flatMap Client.keys).Perm ((List.range l.records).map l.key)
  /-- Every insert is counted once, and so is every failure at the end of a client. -/
  total : (summary.counts .insert).total = l.records + clients.countP Client.hasFailed
  others : ∀ o, o ≠ .insert → summary.counts o = {}
  /-- Without errors, nothing but the records of a client goes out, each of them in exactly one
  statement or line, and all of it was acknowledged. -/
  once : summary.errors = 0 → ∀ c ∈ clients, AllAcknowledged c.work ∧
    (config.feed.isSome = true →
      writtenIn c.work = (c.literals payload).map .ofRecord) ∧
    (config.feed = none → ∃ batches : List (List String),
      batches.flatten = c.literals payload ∧ (∀ batch ∈ batches, batch ≠ []) ∧
        writtenIn c.work = batches.map fun batch => .statement (c.executor.insertion batch))
  /-- Without errors and without a feed, the number of records of a client decides how many of them
  end in which way, and how many statements go out. -/
  cadence : summary.errors = 0 → config.feed = none → 1 ≤ config.batchInserts → ∀ c ∈ clients,
    let k := c.keys.length
    c.summary.counts .insert =
        ⟨k / config.batchInserts, k - k / config.batchInserts, 0⟩ ∧
      (writtenIn c.work).length = (k + config.batchInserts - 1) / config.batchInserts

namespace IsClient

variable {i : Nat} {part : List Said} {c : Client}

/-- What a client counts, and what goes out if it counts no failure. -/
theorem counted [Url.Idna] (h : l.IsClient config payload i part c) :
    c.summary.clients = 1 ∧ (∀ o, o ≠ .insert → c.summary.counts o = {}) ∧
      (c.summary.counts .insert).total = c.keys.length + c.hasFailed.toNat ∧
      ((c.summary.counts .insert).error = 0 → ∃ statuses, Succeeds config payload c statuses ∧
        c.summary.counts .insert =
          ⟨statuses.count .ok, c.keys.length - statuses.count .ok, 0⟩) := by
  obtain ⟨statuses, counted, length, succeeds⟩ := h.exists_statuses
  have summary := summary_eq counted
  have counts := RunSummary.counts_recordAll RunSummary.forClient .insert
    (statuses ++ if c.hasFailed then [.error] else []) .insert
  rw [if_pos rfl, OperationCounts.foldl_record, ← summary] at counts
  have zero : RunSummary.forClient.counts .insert = {} := rfl
  have hlength := length_eq_count_add statuses
  rw [zero] at counts
  simp only [Nat.zero_add, List.count_append] at counts
  refine ⟨?_, ?_, ?_, ?_⟩
  · rw [summary, RunSummary.clients_recordAll]
    rfl
  · intro o ho
    rw [summary, RunSummary.counts_recordAll, if_neg ho]
    rfl
  · rw [counts, OperationCounts.total]
    cases c.hasFailed <;> simp <;> omega
  · intro clean
    rw [counts] at clean ⊢
    cases hfailed : c.hasFailed with
    | true => simp [hfailed] at clean
    | false =>
        simp only [hfailed, Bool.false_eq_true, if_false, List.count_nil, Nat.add_zero] at clean ⊢
        have ended : c.ended = .ok () := by
          rw [Client.hasFailed] at hfailed
          cases hended : c.ended with
          | ok u => rfl
          | error fault => simp [hended, Except.isOk, Except.toBool] at hfailed
        refine ⟨statuses, succeeds (List.count_eq_zero.1 clean) ended, ?_⟩
        rw [clean]
        congr 1
        omega

end IsClient

/-- The keys of the clients are those of all records. -/
theorem perm_keys [Url.Idna] (some : 0 < l.clients) {clients : List Client}
    (hlength : clients.length = l.clients)
    (parts : ∀ i (hi : i < clients.length),
      l.IsClient config payload i (partOf i shared) clients[i]) :
    (clients.flatMap Client.keys).Perm ((List.range l.records).map l.key) := by
  have hkeys : clients.map Client.keys = (List.range l.clients).map l.clientKeys := by
    refine List.ext_getElem (by simp [hlength]) fun i hi hi' => ?_
    simp only [List.getElem_map, List.getElem_range]
    exact (parts i (by simpa using hi)).keys
  rw [List.flatMap_def, hkeys, ← List.flatMap_def]
  exact perm_clientKeys some

/-- The statuses of all clients: one for each of their records, and one for each failure at an
end. -/
theorem sum_total {clients : List Client}
    (h : ∀ c ∈ clients,
      (c.summary.counts .insert).total = c.keys.length + c.hasFailed.toNat) :
    (clients.map fun c => (c.summary.counts .insert).total).sum =
      (clients.flatMap Client.keys).length + clients.countP Client.hasFailed := by
  induction clients with
  | nil => rfl
  | cons c clients ih =>
      obtain ⟨hc, hrest⟩ := List.forall_mem_cons.1 h
      rw [List.map_cons, List.sum_cons, ih hrest, hc, List.flatMap_cons, List.length_append,
        List.countP_cons]
      cases c.hasFailed <;> simp <;> omega

/-- The summary of a load accounts for all that its clients did. -/
theorem accounts_of_clients [Url.Idna] (some : 0 < l.clients) {clients : List Client}
    (hlength : clients.length = l.clients)
    (parts : ∀ i (hi : i < clients.length),
      l.IsClient config payload i (partOf i shared) clients[i]) (elapsedMs : Nat) :
    Accounts l config payload shared
      { (clients.map Client.summary).foldl RunSummary.merge {} with elapsedMs } clients := by
  let merged := (clients.map Client.summary).foldl RunSummary.merge {}
  have counted (c : Client) (hc : c ∈ clients) :
      ∃ i, l.IsClient config payload i (partOf i shared) c := by
    obtain ⟨i, hi, rfl⟩ := List.getElem_of_mem hc
    exact ⟨i, parts i hi⟩
  have records := perm_keys some hlength parts
  have sum (count : OperationCounts → Nat) (zero : count {} = 0)
      (add : ∀ c d, count (c.merge d) = count c + count d) :
      count (merged.counts .insert) =
        (clients.map fun c => count (c.summary.counts .insert)).sum := by
    have hsum := RunSummary.foldl_merge_of_add {} (fun t => count (t.counts .insert))
      (fun s t => by rw [RunSummary.counts_merge, add]) (clients.map Client.summary)
    rw [show RunSummary.counts {} .insert = {} from rfl, zero, Nat.zero_add, List.map_map] at hsum
    exact hsum
  have others (o : Operation) (ho : o ≠ .insert) : merged.counts o = {} := by
    refine RunSummary.counts_foldl_merge_of_none {} o rfl fun t ht => ?_
    obtain ⟨c, hc, rfl⟩ := List.mem_map.1 ht
    obtain ⟨i, client⟩ := counted c hc
    exact client.counted.2.1 o ho
  have succeeds (herrors : merged.errors = 0) (c : Client) (hc : c ∈ clients) :
      ∃ statuses, IsClient.Succeeds config payload c statuses ∧
        c.summary.counts .insert =
          ⟨statuses.count .ok, c.keys.length - statuses.count .ok, 0⟩ := by
    obtain ⟨i, client⟩ := counted c hc
    rw [RunSummary.errors_of_only merged .insert others,
      sum OperationCounts.error rfl fun _ _ => rfl, List.sum_eq_zero_iff_forall_eq_nat] at herrors
    exact client.counted.2.2.2 (herrors _ (List.mem_map_of_mem hc))
  constructor
  · exact hlength
  · exact parts
  · refine (RunSummary.foldl_merge_of_add {} RunSummary.clients (fun _ _ => rfl)
      (clients.map Client.summary)).trans ?_
    have one : (clients.map Client.summary).map RunSummary.clients = clients.map fun _ => 1 := by
      rw [List.map_map]
      refine List.map_congr_left fun c hc => ?_
      obtain ⟨i, client⟩ := counted c hc
      exact client.counted.1
    rw [one, List.map_const', List.sum_replicate_nat, hlength, Nat.mul_one]
    exact Nat.zero_add _
  · exact records
  · have htotal := sum OperationCounts.total rfl OperationCounts.total_merge
    refine htotal.trans ?_
    rw [sum_total fun c hc => ?_, records.length_eq, List.length_map, List.length_range]
    obtain ⟨i, client⟩ := counted c hc
    exact client.counted.2.2.1
  · exact others
  · intro herrors c hc
    obtain ⟨statuses, success, -⟩ := succeeds herrors c hc
    exact ⟨success.acknowledged, success.lines, fun noFeed =>
      ⟨_, flatten_batchesOf .., fun _ => ne_nil_of_mem_batchesOf, success.batches noFeed⟩⟩
  · intro herrors noFeed hpos c hc
    obtain ⟨statuses, success, counts⟩ := succeeds herrors c hc
    have hmax : max 1 config.batchInserts = config.batchInserts := Nat.max_eq_right hpos
    refine ⟨?_, ?_⟩
    · rw [counts, success.committed noFeed, hmax]
    · rw [success.batches noFeed, List.length_map, length_batchesOf, hmax, Client.literals,
        List.length_map]

/-! ## Turns -/

/-- A service answers each request by a function of its statement. -/
def AnsweredBy (f : String → Http.Answer) (t : List Said) : Prop :=
  ∀ r a, (⟨.request r, a⟩ : Said) ∈ t → a = f r.statement

/-- Calls that have nothing to do with a feed get the same replies. -/
theorem eq_of_answeredBy {f : String → Http.Answer} {t t' : List Said} (h : AnsweredBy f t)
    (h' : AnsweredBy f t') {x x' : Said} (hx : x ∈ t) (hx' : x' ∈ t')
    (silent : x.isForFeed = false) (same : x.call = x'.call) : x = x' := by
  obtain ⟨call, reply⟩ := x
  obtain ⟨call', reply'⟩ := x'
  cases same
  cases call with
  | request r =>
      obtain rfl := h r reply hx
      obtain rfl := h' r reply' hx'
      rfl
  | connect host port => cases silent
  | write id line => cases silent
  | close id => cases silent
  | log operation text => rfl
  | print line => rfl

/-- Without a feed, no client calls on one. -/
theorem isForFeed_of_plays_session [Url.Idna] (noFeed : config.feed = none) {i : Nat}
    {part : List Said} {result : Except Error RunSummary}
    (h : (l.session config payload i).Plays part result) :
    ∀ x ∈ part, x.isForFeed = false := by
  rcases isClient_or_error h with ⟨c, client, -⟩ | ⟨fault, hconnect, -⟩
  · have fresh := client.fresh
    have feed := fresh.noFeed noFeed
    obtain ⟨statuses, -, gathers⟩ := gathers_of_plays fresh.settled feed client.inserts
    obtain ⟨last, hflush⟩ := gathers.flush_of_shutdown feed fresh.updates client.ends
    intro x hx
    rw [client.part, Client.work] at hx
    rcases List.mem_append.1 hx with hx | hx
    · exact isForFeed_of_plays_connect noFeed client.connects x hx
    rcases List.mem_append.1 hx with hx | hx
    · exact gathers.silent x hx
    · rcases WriteKind.insert.plays_flush gathers.settled.idle hflush with
        ⟨-, hending, -⟩ | ⟨-, a, hending, -⟩
      · rw [hending] at hx
        cases hx
      · rw [hending] at hx
        exact isForFeed_saidFor hx
  · exact isForFeed_of_plays_connect noFeed hconnect

/-- Where the answers depend on the statements alone, the clients end in the same way in whatever
turns they make their calls. -/
theorem results_eq_of_answeredBy [Url.Idna] (noFeed : config.feed = none) {f : String → Http.Answer}
    {shared' : List (Nat × Said)} {results' : List (Except Error RunSummary)}
    (h : Shared (l.sessions config payload) shared results)
    (h' : Shared (l.sessions config payload) shared' results')
    (answered : AnsweredBy f (shared.map Prod.snd))
    (answered' : AnsweredBy f (shared'.map Prod.snd)) : results = results' := by
  refine List.ext_getElem (h.length.trans h'.length.symm) fun i hi hi' => ?_
  have hclient : i < l.clients := by rwa [h.length, length_sessions] at hi
  have plays := plays_part h hclient hi
  have silent := isForFeed_of_plays_session noFeed plays
  refine (plays.eq_of_replies (plays_part h' hclient hi') fun x hx x' hx' same => ?_).2
  exact eq_of_answeredBy answered answered' (mem_of_mem_partOf hx) (mem_of_mem_partOf hx')
    (silent x hx) same

/-- If one client connects, all of them do, where the answers depend on the statements alone. -/
theorem allConnect_of_answeredBy [Url.Idna] (noFeed : config.feed = none) {f : String → Http.Answer}
    {opening : List Said} {e : Executor} (connected : (connect config).Plays opening (.ok e))
    (answered : AnsweredBy f opening) (h : Shared (l.sessions config payload) shared results)
    (answered' : AnsweredBy f (shared.map Prod.snd)) : l.AllConnect config shared := by
  intro i hi
  have hresult : i < results.length := by rwa [h.length, length_sessions]
  obtain ⟨first, r, rest, hpart, hconnect, -⟩ := plays_bind_iff.1 (plays_part h hi hresult)
  have within (x : Said) (hx : x ∈ first) : x ∈ shared.map Prod.snd :=
    mem_of_mem_partOf (hpart ▸ List.mem_append_left rest hx)
  have silent := isForFeed_of_plays_connect noFeed connected
  obtain ⟨rfl, rfl⟩ := connected.eq_of_replies hconnect fun x hx x' hx' same =>
    eq_of_answeredBy answered answered' hx (within x' hx') (silent x hx) same
  exact ⟨opening, rest, e, hpart, connected⟩

/-- In a world whose service answers by a function of the statements, so it does in all that is
said. -/
theorem answeredBy_said {α : Type} {f : String → Http.Answer} (d : Dialogue α) {w : World}
    (h : w.service = fun _ r => f r.statement) : AnsweredBy f (d.said w) := by
  induction d generalizing w with
  | done a => exact fun _ _ hmem => nomatch hmem
  | perform call next ih =>
      intro r a hmem
      rcases List.mem_cons.1 hmem with heq | hmem
      · cases heq
        exact congrFun (congrFun h w.sent) r
      · exact ih _ ((World.service_handle call w).trans h) r a hmem

/-- What is said in a load is shared among the sessions of its clients, and reported. -/
theorem exists_shared_of_run [Url.Idna] (some : 0 < l.clients) {elapsedMs : Nat} {turns : List Nat}
    {t : List Said} {result : Except Error RunSummary}
    (plays : (l.run config payload elapsedMs turns).Plays t result) :
    ∃ shared results, shared.map Prod.snd = t ∧
      Shared (l.sessions config payload) shared results ∧ result = report elapsedMs results := by
  rw [run, check, if_neg (Nat.ne_of_gt some)] at plays
  obtain ⟨first, results, nothing, rfl, hinterleave, hdone⟩ := plays_bind_iff.1 plays
  obtain ⟨rfl, rfl⟩ := plays_done_iff.1 hdone
  obtain ⟨shared, rfl, hshared⟩ := exists_shared_of_interleave hinterleave
  exact ⟨shared, results, (List.append_nil _).symm, hshared, rfl⟩

/-- A load ends with a summary in a world that lets a client connect and answers by a function of
the statements. -/
theorem exists_summary_of_answering [Url.Idna] (some : 0 < l.clients) (noFeed : config.feed = none)
    {f : String → Http.Answer} {e : Executor} {w : World}
    (connected : (connect config).run (.answering f) = (.ok e, w)) (payload : Payload)
    (elapsedMs : Nat) (turns : List Nat) :
    ∃ t summary, (l.run config payload elapsedMs turns).Plays t (.ok summary) := by
  have hconnect := (connect config).plays_said (.answering f)
  rw [connected] at hconnect
  have plays := (l.run config payload elapsedMs turns).plays_said (.answering f)
  obtain ⟨shared, results, hsaid, hshared, hresult⟩ := exists_shared_of_run some plays
  have answered := answeredBy_said (l.run config payload elapsedMs turns) (w := .answering f) rfl
  rw [← hsaid] at answered
  obtain ⟨summary, hsummary⟩ := (exists_report_iff hshared elapsedMs).2
    (allConnect_of_answeredBy noFeed hconnect (answeredBy_said _ rfl) hshared answered)
  rw [hresult, hsummary] at plays
  exact ⟨_, summary, plays⟩

/-- A load accounts for every record. In whatever turns the clients make their calls, and whatever
the service and the feed reply, each client has its part in what is said, and there is a summary
exactly when every client connects. It counts one status for each record and one for each client
that fails to shut down; without errors, every record was acknowledged once, and how many inserts
are committed, wait and are sent depends on the number of records of a client alone. Without a
feed and with answers that depend on the statements alone, all turns lead to the same counts. -/
theorem load_accounts_for_every_record [Url.Idna] (some : 0 < l.clients) {elapsedMs : Nat}
    {turns : List Nat} {t : List Said} {result : Except Error RunSummary}
    (plays : (l.run config payload elapsedMs turns).Plays t result) :
    (∃ shared, shared.map Prod.snd = t ∧ (∀ x ∈ shared, x.1 < l.clients) ∧
        ((∃ summary, result = .ok summary) ↔ l.AllConnect config shared) ∧
        ∀ summary, result = .ok summary →
          ∃ clients, Accounts l config payload shared summary clients) ∧
      (config.feed = none → ∀ f, AnsweredBy f t →
        ∀ (elapsedMs' : Nat) (turns' : List Nat) (t' : List Said)
            (result' : Except Error RunSummary),
          (l.run config payload elapsedMs' turns').Plays t' result' → AnsweredBy f t' →
            result' = result.map fun summary => { summary with elapsedMs := elapsedMs' }) := by
  obtain ⟨shared, results, rfl, hshared, rfl⟩ := exists_shared_of_run some plays
  refine ⟨⟨shared, rfl, ?_, exists_report_iff hshared elapsedMs, ?_⟩, ?_⟩
  · intro x hx
    have hspeaker := hshared.speakers x hx
    rwa [length_sessions] at hspeaker
  · intro summary hsummary
    have connected := (exists_report_iff hshared elapsedMs).1 ⟨summary, hsummary⟩
    obtain ⟨clients, hlength, parts, rfl⟩ := exists_clients hshared connected
    rw [report, mergeAll_ok] at hsummary
    obtain rfl := Except.ok.inj hsummary
    exact ⟨clients, accounts_of_clients some hlength parts elapsedMs⟩
  · intro noFeed f answered elapsedMs' turns' t' result' plays' answered'
    obtain ⟨shared', results', rfl, hshared', rfl⟩ := exists_shared_of_run some plays'
    obtain rfl := results_eq_of_answeredBy noFeed hshared hshared' answered answered'
    unfold report
    cases mergeAll results {} <;> rfl

/-- Two clients that take turns account for three records, some of which wait for others. -/
theorem two_clients_account_for_three_records :
    let l : Load := { records := 3, clients := 2 }
    let config : ClientConfig := { url := "http://[::1]", batchInserts := 2 }
    let payload : Payload := fun _ _ => [7]
    ∃ t summary shared clients,
      (l.run config payload 0 [1, 0, 0, 1, 1]).Plays t (.ok summary) ∧ shared.map Prod.snd = t ∧
        Accounts l config payload shared summary clients := by
  intro l config payload
  let name := relationName config
  obtain ⟨f, hkey, hfields⟩ : ∃ f : String → Http.Answer,
      f name.primaryKeyStatement = catalogAnswers[0] ∧
        f name.fieldsStatement = catalogAnswers[1] := by
    refine ⟨fun statement => if statement = name.primaryKeyStatement then catalogAnswers[0]
      else if statement = name.fieldsStatement then catalogAnswers[1]
      else .response 200 ⟨[], none⟩, if_pos rfl, ?_⟩
    exact (if_neg (by decide +kernel)).trans (if_pos rfl)
  obtain ⟨e, w, connected, -⟩ := connect_of_answering rfl (by decide +kernel) rfl hkey hfields
  obtain ⟨t, summary, plays⟩ :=
    exists_summary_of_answering (l := l) Nat.two_pos rfl connected payload 0 [1, 0, 0, 1, 1]
  obtain ⟨⟨shared, hsaid, -, -, accounts⟩, -⟩ := load_accounts_for_every_record Nat.two_pos plays
  obtain ⟨clients, haccounts⟩ := accounts summary rfl
  exact ⟨t, summary, shared, clients, plays, hsaid, haccounts⟩

end Load

end SqlppBench
