import SqlppBench.Proofs.Command.Overrides
import SqlppBench.Proofs.Config.Names
import SqlppBench.Proofs.Sqlpp.Tokens

/-! # What is required of configurations

A configuration is allowed exactly if it meets all requirements, and otherwise it is refused by the
first one that it does not meet (`validate_eq_ok_iff`, `validate_eq_error_iff`). A command has none
but an allowed configuration (`Invocation.validate_of_config`), so the names of its scope and its
relation stand in every statement as single words.
-/

namespace SqlppBench

open Sqlpp (IsWord Target)
open Text (decimal)

/-- Something that is required of configurations, and with which errors those are refused that are
otherwise. -/
structure Requirement where
  IsMet : ClientConfig → Prop
  Refuses : ClientConfig → Error → Prop

namespace Requirement

/-- The URL of the service is that of an endpoint. -/
def service [Url.Idna] : Requirement where
  IsMet c := ∃ endpoint, Endpoint.parse c.url = .ok endpoint
  Refuses c e := Endpoint.parse c.url = .error e

/-- A name is one of the language of names. -/
def name (what : String) (get : ClientConfig → String) : Requirement where
  IsMet c := (get c).toList ∈ names
  Refuses c e := e = .validation (if get c = "" then what ++ " cannot be empty"
    else "Invalid " ++ what ++ " \"" ++ get c ++ "\"")

/-- The size of batches is a positive number. -/
def batch (what : String) (get : ClientConfig → Nat) : Requirement where
  IsMet c := 1 ≤ get c
  Refuses _ e := e = .validation (what ++ " must be at least 1")

/-- The feed, if there is one, is on a host and a port that make up the URL of an endpoint. -/
def feed [Url.Idna] : Requirement where
  IsMet c := ∀ f, c.feed = some f → f.host ≠ "" ∧
    ∃ endpoint, Endpoint.parse ("http://" ++ f.host ++ ":" ++ decimal f.port ++ "/") = .ok endpoint
  Refuses c e := ∃ f, c.feed = some f ∧ e = .validation (if f.host = "" then
    "Feed host cannot be empty"
    else "Invalid hostname \"" ++ f.host ++ "\" or invalid port " ++ decimal f.port)

end Requirement

open Requirement in
/-- All that is required of configurations, in the order in which it is checked. -/
def requirements [Url.Idna] : List Requirement :=
  [service, name "scope" ClientConfig.scope, name "relation" ClientConfig.relation,
    batch "batch_inserts" ClientConfig.batchInserts,
    batch "batch_updates" ClientConfig.batchUpdates, feed]

namespace ClientConfig

/-- All requirements are met. -/
def IsAllowed [Url.Idna] (c : ClientConfig) : Prop :=
  ∀ r ∈ requirements, r.IsMet c

/-- The first requirement that is not met refuses the configuration with an error. -/
def IsRefused [Url.Idna] (c : ClientConfig) (e : Error) : Prop :=
  ∃ met r others, requirements = met ++ r :: others ∧ (∀ m ∈ met, m.IsMet c) ∧ ¬ r.IsMet c ∧
    r.Refuses c e

end ClientConfig

/-! ## Checks -/

/-- A check passes the configurations that meet a requirement, and refuses the others as the
requirement does. -/
structure Requirement.IsCheckedBy (r : Requirement) (check : ClientConfig → Except Error Unit) :
    Prop where
  passes : ∀ c, r.IsMet c → check c = .ok ()
  fails : ∀ c, ¬ r.IsMet c → ∃ e, check c = .error e ∧ ∀ e', r.Refuses c e' ↔ e' = e

section

variable {rs : List Requirement} {checks : List (ClientConfig → Except Error Unit)}
  {c : ClientConfig}

/-- Checks one after the other pass a configuration that meets all their requirements. -/
theorem forM_eq_ok_iff (h : List.Forall₂ Requirement.IsCheckedBy rs checks) :
    (forM checks (· c) : Except Error Unit) = .ok () ↔ ∀ r ∈ rs, r.IsMet c := by
  induction h with
  | nil => exact iff_of_true rfl nofun
  | @cons r check rs checks first _ ih =>
      rw [List.forM_cons, List.forall_mem_cons, ← ih]
      by_cases hmet : r.IsMet c
      · rw [first.passes c hmet]
        exact (and_iff_right hmet).symm
      · obtain ⟨e, hcheck, -⟩ := first.fails c hmet
        rw [hcheck]
        exact iff_of_false nofun fun h => hmet h.1

/-- Checks one after the other fail with the error of the first requirement that is not met. -/
theorem forM_eq_error_iff (h : List.Forall₂ Requirement.IsCheckedBy rs checks) {e : Error} :
    (forM checks (· c) : Except Error Unit) = .error e ↔
      ∃ met r others, rs = met ++ r :: others ∧ (∀ m ∈ met, m.IsMet c) ∧ ¬ r.IsMet c ∧
        r.Refuses c e := by
  induction h with
  | nil => exact iff_of_false nofun fun ⟨met, r, others, hsplit, _⟩ => by simp at hsplit
  | @cons r check rs checks first _ ih =>
      rw [List.forM_cons]
      by_cases hmet : r.IsMet c
      · rw [first.passes c hmet]
        refine ih.trans ⟨?_, ?_⟩
        · rintro ⟨met, r', others, rfl, hothers, hfails⟩
          exact ⟨r :: met, r', others, rfl, List.forall_mem_cons.2 ⟨hmet, hothers⟩, hfails⟩
        · rintro ⟨met, r', others, hsplit, hothers, hfails⟩
          -- the requirement that is met is not the one that refuses
          cases met with
          | nil =>
              obtain ⟨rfl, -⟩ := List.cons.inj hsplit
              exact absurd hmet hfails.1
          | cons m met =>
              obtain ⟨-, hsplit⟩ := List.cons.inj hsplit
              exact ⟨met, r', others, hsplit, (List.forall_mem_cons.1 hothers).2, hfails⟩
      · obtain ⟨fault, hcheck, hrefuses⟩ := first.fails c hmet
        rw [hcheck]
        constructor
        · intro h
          obtain rfl : fault = e := Except.error.inj h
          exact ⟨[], r, rs, rfl, nofun, hmet, (hrefuses fault).2 rfl⟩
        · rintro ⟨met, r', others, hsplit, hothers, hfails⟩
          cases met with
          | nil =>
              obtain ⟨rfl, -⟩ := List.cons.inj hsplit
              rw [(hrefuses e).1 hfails.2]
              rfl
          | cons m met =>
              obtain ⟨rfl, -⟩ := List.cons.inj hsplit
              exact absurd (List.forall_mem_cons.1 hothers).1 hmet

end

/-! ## The checks of a configuration -/

namespace Requirement

theorem isCheckedBy_service [Url.Idna] :
    service.IsCheckedBy fun c => (Overrides.checkUrl c.url).mapError ConfigFault.toError where
  passes c := fun ⟨endpoint, hparse⟩ => by
    rw [Overrides.checkUrl, hparse]
    rfl
  fails c hunmet := by
    cases hparse : Endpoint.parse c.url with
    | ok endpoint => exact absurd ⟨endpoint, hparse⟩ hunmet
    | error e =>
        refine ⟨e, ?_, fun e' => ?_⟩
        · rw [Overrides.checkUrl, hparse]
          rfl
        · change Endpoint.parse c.url = .error e' ↔ e' = e
          rw [hparse, Except.error.injEq, eq_comm]

theorem isCheckedBy_name (what : String) (get : ClientConfig → String) :
    (name what get).IsCheckedBy fun c =>
      (checkName what (get c)).mapError ConfigFault.toError where
  passes c hmet := by
    have hvalid := isValidName_iff_mem_names.2 hmet
    have hnonempty : (get c).isEmpty ≠ true := by
      rw [ne_eq, String.isEmpty_iff]
      intro hempty
      rw [hempty] at hvalid
      exact absurd hvalid (by decide)
    rw [checkName, if_neg hnonempty, if_pos hvalid]
    rfl
  fails c hunmet := by
    have hvalid : isValidName (get c) ≠ true := fun h => hunmet (isValidName_iff_mem_names.1 h)
    refine ⟨_, ?_, fun e => Iff.rfl⟩
    rw [checkName, if_neg hvalid]
    by_cases hempty : get c = "" <;> simp [hempty, Except.mapError, ConfigFault.toError]

theorem isCheckedBy_batch (what : String) (get : ClientConfig → Nat) :
    (batch what get).IsCheckedBy fun c =>
      (checkBatch what (get c)).mapError ConfigFault.toError where
  passes c hmet := by
    rw [checkBatch, if_neg (Nat.one_le_iff_ne_zero.1 hmet)]
    rfl
  fails c hunmet := by
    refine ⟨_, ?_, fun e => Iff.rfl⟩
    rw [checkBatch, if_pos (by simpa [batch] using hunmet)]
    rfl

/-- The check of the feed, if there is one. -/
def checkFeed [Url.Idna] : Option FeedConfig → Except ConfigFault Unit
  | some f => f.check
  | none => .ok ()

theorem isCheckedBy_feed [Url.Idna] :
    feed.IsCheckedBy fun c => (checkFeed c.feed).mapError ConfigFault.toError where
  passes c hmet := by
    cases hfeed : c.feed with
    | none => rfl
    | some f =>
        obtain ⟨hhost, endpoint, hparse⟩ := hmet f hfeed
        have hnonempty : f.host.isEmpty ≠ true := fun h => hhost (String.isEmpty_iff.1 h)
        have hurl : Endpoint.parse f.url = .ok endpoint := hparse
        rw [checkFeed, FeedConfig.check, if_neg hnonempty, hurl]
        rfl
  fails c hunmet := by
    cases hfeed : c.feed with
    | none => exact absurd (fun f h => by simp [hfeed] at h) hunmet
    | some f =>
        have hrefuses (e' : Error) : feed.Refuses c e' ↔ e' = .validation (if f.host = "" then
            "Feed host cannot be empty"
            else "Invalid hostname \"" ++ f.host ++ "\" or invalid port " ++ decimal f.port) := by
          simp [feed, hfeed]
        refine ⟨_, ?_, hrefuses⟩
        rw [checkFeed, FeedConfig.check]
        by_cases hempty : f.host = ""
        · simp [hempty, Except.mapError, ConfigFault.toError]
        · cases hparse : Endpoint.parse f.url with
          | ok endpoint =>
              refine absurd (fun f' h => ?_) hunmet
              obtain rfl : f = f' := Option.some.inj (hfeed.symm.trans h)
              exact ⟨hempty, endpoint, hparse⟩
          | error e => simp [hempty, Except.mapError, ConfigFault.toError]

/-- The checks of a configuration, in their order. -/
def checks [Url.Idna] : List (ClientConfig → Except Error Unit) :=
  [fun c => (Overrides.checkUrl c.url).mapError ConfigFault.toError,
    fun c => (checkName "scope" c.scope).mapError ConfigFault.toError,
    fun c => (checkName "relation" c.relation).mapError ConfigFault.toError,
    fun c => (checkBatch "batch_inserts" c.batchInserts).mapError ConfigFault.toError,
    fun c => (checkBatch "batch_updates" c.batchUpdates).mapError ConfigFault.toError,
    fun c => (checkFeed c.feed).mapError ConfigFault.toError]

/-- There is a check for each requirement. -/
theorem areCheckedBy_checks [Url.Idna] : List.Forall₂ IsCheckedBy requirements checks :=
  .cons isCheckedBy_service <| .cons (isCheckedBy_name _ _) <| .cons (isCheckedBy_name _ _) <|
    .cons (isCheckedBy_batch _ _) <| .cons (isCheckedBy_batch _ _) <| .cons isCheckedBy_feed .nil

end Requirement

/-- A fault is the same error whether it is told at once or at the end. -/
theorem mapError_bind {ε ε' α β : Type} (x : Except ε α) (f : α → Except ε β) (g : ε → ε') :
    (x >>= f).mapError g = x.mapError g >>= fun a => (f a).mapError g := by
  cases x <;> rfl

namespace ClientConfig

variable {c : ClientConfig}

theorem validate_eq_forM [Url.Idna] (c : ClientConfig) :
    c.validate = forM Requirement.checks (· c) := by
  rw [validate, Overrides.check_eq]
  simp only [mapError_bind, Requirement.checks, List.forM_cons, List.forM_nil, bind_pure_unit]
  rfl

theorem validate_eq_ok_iff [Url.Idna] : c.validate = .ok () ↔ c.IsAllowed := by
  rw [validate_eq_forM]
  exact forM_eq_ok_iff Requirement.areCheckedBy_checks

theorem validate_eq_error_iff [Url.Idna] {e : Error} : c.validate = .error e ↔ c.IsRefused e := by
  rw [validate_eq_forM]
  exact forM_eq_error_iff Requirement.areCheckedBy_checks

end ClientConfig

/-! ## The configuration of a command -/

/-- The configuration for a command has been checked with the switches. -/
theorem Invocation.validate_of_config [Url.Idna] {i : Invocation} {s : Setting} {c : ClientConfig}
    (h : i.config s = .ok c) : c.validate = .ok () := by
  unfold config at h
  cases hfile : ClientConfig.ofFileOrUsual s i.path with
  | error fault => simp [hfile, bind, Except.bind] at h
  | ok base =>
      cases hvalid : (i.overrides.apply base).validate with
      | error fault => simp [hfile, hvalid, bind, Except.bind] at h
      | ok u =>
          simp only [hfile, hvalid, bind, Except.bind, pure, Except.pure, Except.ok.injEq] at h
          rw [← h, hvalid]

/-- A configuration is allowed exactly if it meets all requirements; otherwise the first of them
that it does not meet tells the error. Whatever the switches, the files and the variables are, the
configuration of a command meets them all. So the names of its scope and its relation are words of
their own in the questions to the catalog and in each statement of a session, and in the latter they
are outside of all literals where the schema is made of words, too. -/
theorem allowed_configurations_are_as_required [Url.Idna] :
    (∀ c : ClientConfig, c.validate = .ok () ↔ c.IsAllowed) ∧
      (∀ (c : ClientConfig) (e : Error), c.validate = .error e ↔ c.IsRefused e) ∧
      ∀ (i : Invocation) (s : Setting) (c : ClientConfig), i.config s = .ok c →
        c.IsAllowed ∧ (Executor.relationName c).NamesAreWords ∧
          ∀ e : Executor, e.config = c → e.target.NamesAreWords ∧
            (IsWord e.schema.primaryKey → ∀ fields, (∀ field ∈ fields, IsWord field) →
              e.target.NamesAreOutside fields) := by
  refine ⟨fun c => ClientConfig.validate_eq_ok_iff, fun c e => ClientConfig.validate_eq_error_iff,
    fun i s c h => ?_⟩
  have allowed := ClientConfig.validate_eq_ok_iff.1 (Invocation.validate_of_config h)
  have hscope := isValidName_iff_mem_names.2
    (allowed (.name "scope" ClientConfig.scope) (by simp [requirements]))
  have hrelation := isValidName_iff_mem_names.2
    (allowed (.name "relation" ClientConfig.relation) (by simp [requirements]))
  refine ⟨allowed, Catalog.RelationName.namesAreWords hscope hrelation, ?_⟩
  rintro e rfl
  exact ⟨Target.namesAreWords hscope hrelation, fun hkey fields hfields =>
    Target.IsProper.namesAreOutside ⟨hscope, hrelation, hkey⟩ hfields⟩

/-- A scope that is given as a switch, and a relation that is not given at all. -/
theorem names_of_a_command_stand_alone :
    let i := Invocation.schemaUnder "x"
    let s := Invocation.beside "\x7b\"url\": \"http://[::1]\", \"scope\": \"ycsb\"\x7d"
    let c : ClientConfig := { url := "http://[::1]", scope := "x" }
    let url : Url := ⟨"http", "", "", .ipv6 [0, 0, 0, 0, 0, 0, 0, 1], none, [""], none, none⟩
    let e : Executor :=
      { config := c, connector := .ofEndpoint ⟨url, .inl rfl⟩, schema := ⟨"id", ["f"]⟩ }
    i.config s = .ok c ∧ c.IsAllowed ∧ (Executor.relationName c).NamesAreWords ∧
      e.target.NamesAreWords ∧ e.target.NamesAreOutside ["f"] := by
  intro i s c url e
  have hconfig : i.config s = .ok c := by
    have usual : checkName "scope" "ycsb" = .ok () := rfl
    have given : checkName "scope" "x" = .ok () := rfl
    have merged : i.overrides.apply { url := "http://[::1]", scope := "ycsb" } = c := rfl
    rw [Invocation.config_of_describes Invocation.describes_usual_scope, merged,
      Invocation.validate_scope, Invocation.validate_scope, usual, given]
    rfl
  obtain ⟨allowed, asked, stand⟩ := allowed_configurations_are_as_required.2.2 i s c hconfig
  obtain ⟨words, outside⟩ := stand e rfl
  exact ⟨hconfig, allowed, asked, words, outside (by decide +kernel) ["f"] (by decide +kernel)⟩

end SqlppBench
