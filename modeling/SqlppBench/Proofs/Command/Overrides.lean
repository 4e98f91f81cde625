import SqlppBench.Command.Basic
import SqlppBench.Proofs.Executor.Session
import SqlppBench.Proofs.Text.Utf8

/-! # Switches over configuration files

A configuration is checked as its file describes it, and again with the switches
(`config_of_describes`). So a switch hides the value that it replaces as far as that value is an
allowed one: files that differ in nothing else give the same configuration, or fail alike
(`validate_eq_of_allowed`). A value that is not allowed fails the file, whatever replaces it.
-/

namespace SqlppBench

/-- There is a file with a text that describes a configuration, allowed or not. -/
def Setting.Describes (s : Setting) (path : String) (c : ClientConfig) : Prop :=
  ∃ content text, s.read path = .ok content ∧ Utf8.decode? content = some text ∧
    ClientConfig.ofTemplate s.environment text = .ok c

namespace Overrides

/-- Configurations differ at most in members that are given as switches. -/
structure Agree (o : Overrides) (c c' : ClientConfig) : Prop where
  url : o.url = none → c.url = c'.url
  scope : o.scope = none → c.scope = c'.scope
  relation : o.relation = none → c.relation = c'.relation
  batchInserts : o.batchInserts = none → c.batchInserts = c'.batchInserts
  batchUpdates : o.batchUpdates = none → c.batchUpdates = c'.batchUpdates
  upsert : o.upsert = false → c.upsert = c'.upsert
  feed : c.feed = c'.feed
  printStatements : o.printStatements = false → c.printStatements = c'.printStatements

/-- The members of a configuration that switches replace are allowed as they stand. -/
structure ReplacesAllowed [Url.Idna] (o : Overrides) (c : ClientConfig) : Prop where
  url : o.url ≠ none → (Endpoint.parse c.url).isOk = true
  scope : o.scope ≠ none → checkName "scope" c.scope = .ok ()
  relation : o.relation ≠ none → checkName "relation" c.relation = .ok ()
  batchInserts : o.batchInserts ≠ none → checkBatch "batch_inserts" c.batchInserts = .ok ()
  batchUpdates : o.batchUpdates ≠ none → checkBatch "batch_updates" c.batchUpdates = .ok ()

variable {o : Overrides} {c c' : ClientConfig}

/-- The switches leave nothing of a difference between members that they replace. -/
theorem Agree.apply_eq (h : o.Agree c c') : o.apply c = o.apply c' := by
  obtain ⟨url, scope, relation, batchInserts, batchUpdates, upsert, printStatements⟩ := o
  obtain ⟨hurl, hscope, hrelation, hinserts, hupdates, hupsert, hfeed, hprint⟩ := h
  have members {α : Type} {given : Option α} {a a' : α} (h : given = none → a = a') :
      given.getD a = given.getD a' := by
    cases given with
    | none => exact h rfl
    | some b => rfl
  have flags {given a a' : Bool} (h : given = false → a = a') : (a || given) = (a' || given) := by
    cases given with
    | false => rw [h rfl]
    | true => rw [Bool.or_true, Bool.or_true]
  simp only [apply, members hurl, members hscope, members hrelation, members hinserts,
    members hupdates, flags hupsert, flags hprint, hfeed]

/-- Checks a URL. -/
def checkUrl [Url.Idna] (url : String) : Except ConfigFault Unit :=
  ((Endpoint.parse url).mapError .endpoint).map fun _ => ()

theorem checkUrl_eq_ok [Url.Idna] {url : String} (h : (Endpoint.parse url).isOk = true) :
    checkUrl url = .ok () := by
  unfold checkUrl
  cases hparse : Endpoint.parse url with
  | error fault =>
      rw [hparse] at h
      exact nomatch h
  | ok endpoint => rfl

/-- The members of a configuration are checked one after the other. -/
theorem check_eq [Url.Idna] (c : ClientConfig) :
    c.check = (do
      checkUrl c.url
      checkName "scope" c.scope
      checkName "relation" c.relation
      checkBatch "batch_inserts" c.batchInserts
      checkBatch "batch_updates" c.batchUpdates
      match c.feed with
      | some feed => feed.check
      | none => .ok ()) := by
  rw [ClientConfig.check, checkUrl]
  cases Endpoint.parse c.url <;> rfl

/-- A check has the same result for two values if these are the same, or pass the check where a
switch replaces them. -/
theorem check_congr {α : Type} {check : α → Except ConfigFault Unit} {given : Option α} {a a' : α}
    (same : given = none → a = a') (passes : given ≠ none → check a = .ok ())
    (passes' : given ≠ none → check a' = .ok ()) : check a = check a' := by
  cases given with
  | none => rw [same rfl]
  | some b => rw [passes nofun, passes' nofun]

/-- Configurations that agree and whose replaced members are allowed have the same fault, if they
have any. -/
theorem validate_eq_of_allowed [Url.Idna] (agree : o.Agree c c') (allowed : o.ReplacesAllowed c)
    (allowed' : o.ReplacesAllowed c') : c.validate = c'.validate := by
  have hurl := check_congr agree.url (fun given => checkUrl_eq_ok (allowed.url given))
    fun given => checkUrl_eq_ok (allowed'.url given)
  have hscope := check_congr agree.scope allowed.scope allowed'.scope
  have hrelation := check_congr agree.relation allowed.relation allowed'.relation
  have hinserts := check_congr agree.batchInserts allowed.batchInserts allowed'.batchInserts
  have hupdates := check_congr agree.batchUpdates allowed.batchUpdates allowed'.batchUpdates
  rw [ClientConfig.validate, ClientConfig.validate, check_eq, check_eq, hurl, hscope, hrelation,
    hinserts, hupdates, agree.feed]

/-- Two checks in front of the same last one make no difference if both have the same result, or if
each of them passes or finds the fault that the last one finds. -/
theorem checks_eq_iff {ε α β : Type} {check check' : Except ε Unit} {last : Except ε α}
    {f : α → β} :
    ((check.bind fun _ => last.map f) = check'.bind fun _ => last.map f) ↔
      check = check' ∨ ∃ fault, last = .error fault ∧
        (check = .ok () ∨ check = .error fault) ∧ (check' = .ok () ∨ check' = .error fault) := by
  cases check with
  | ok u =>
      cases check' with
      | ok u' => exact iff_of_true rfl (.inl rfl)
      | error fault' => cases last <;> simp [Except.bind, Except.map, eq_comm]
  | error fault =>
      cases check' with
      | ok u' => cases last <;> simp [Except.bind, Except.map, eq_comm]
      | error fault' =>
          have faults : ((Except.error fault : Except ε β) = .error fault') ↔ fault = fault' :=
            ⟨Except.error.inj, congrArg _⟩
          simp only [Except.bind, faults, Except.error.injEq, reduceCtorEq, false_or]
          constructor
          · exact .inl
          · rintro (rfl | ⟨_, -, rfl, rfl⟩) <;> rfl

end Overrides

namespace Invocation

variable {i i' : Invocation} {s s' : Setting} {c c' : ClientConfig}

/-- A file that describes a configuration is checked as it stands, and then with the switches. -/
theorem config_of_describes [Url.Idna] (describes : s.Describes i.path c) :
    i.config s = c.validate.bind fun _ =>
      (i.overrides.apply c).validate.map fun _ => i.overrides.apply c := by
  obtain ⟨content, text, hread, hdecode, hparse⟩ := describes
  have hfile : ClientConfig.ofFileOrUsual s i.path = c.validate.map fun _ => c := by
    rw [ClientConfig.ofFileOrUsual, hread]
    dsimp only
    rw [ClientConfig.ofFile, hread]
    dsimp only
    rw [hdecode]
    dsimp only
    rw [ClientConfig.ofTemplateChecked, hparse]
    cases hvalid : c.validate <;> simp [hvalid, bind, Except.bind, pure, Except.pure, Except.map]
  rw [config, hfile]
  cases hvalid : c.validate with
  | error fault => rfl
  | ok u =>
      cases hmerged : (i.overrides.apply c).validate <;>
        simp [hmerged, bind, Except.bind, pure, Except.pure, Except.map]

/-! ## A file in front of a switch -/

/-- A program in a directory with a configuration file. -/
def beside (text : String) : Setting :=
  .inDirectory [] [([usualPath], .file (Utf8.encode text))]

/-- A program that is to tell the schema of its relation in a scope. -/
def schemaUnder (scope : String) : Invocation :=
  ⟨usualPath, false, false, { scope := some scope }, .schema false⟩

/-- Such a switch replaces nothing but the scope. -/
theorem agree_schemaUnder (scope : String) (c : ClientConfig) (a b : String) :
    (schemaUnder scope).overrides.Agree { c with scope := a } { c with scope := b } := by
  constructor
  case scope => exact nofun
  all_goals intros; rfl

theorem replacesAllowed_schemaUnder [Url.Idna] {scope : String}
    (allowed : checkName "scope" c.scope = .ok ()) :
    (schemaUnder scope).overrides.ReplacesAllowed c := by
  constructor
  case scope => exact fun _ => allowed
  all_goals exact fun given => absurd rfl given

/-- A configuration file describes what its text does. -/
theorem describes_beside {text : String}
    (h : (ClientConfig.ofTemplate [] text).toOption = some c) :
    (beside text).Describes usualPath c := by
  have hread : (beside text).read usualPath = .ok (Utf8.encode text) := rfl
  have henv : (beside text).environment = [] := rfl
  rw [Setting.Describes, henv]
  exact ⟨Utf8.encode text, text, hread, Utf8.decode?_encode text, Json.eq_ok_of_toOption h⟩

/-- A configuration file for a service, with the usual scope. -/
theorem describes_usual_scope :
    (beside "\x7b\"url\": \"http://[::1]\", \"scope\": \"ycsb\"\x7d").Describes usualPath
      { url := "http://[::1]", scope := "ycsb" } :=
  describes_beside (by decide +kernel)

/-- All but the scope of a configuration of this service is allowed. -/
theorem validate_scope (scope : String) :
    ({ url := "http://[::1]", scope } : ClientConfig).validate =
      (checkName "scope" scope).mapError ConfigFault.toError := by
  have url : Overrides.checkUrl "http://[::1]" = .ok () :=
    Overrides.checkUrl_eq_ok (by decide +kernel)
  have relation : checkName "relation" "usertable" = .ok () := rfl
  rw [ClientConfig.validate, Overrides.check_eq]
  dsimp only
  rw [url, relation]
  cases checkName "scope" scope <;> rfl

/-! ## Two files -/

/-- A switch hides the value that it replaces, unless that value is not allowed.

Over files that describe configurations which differ at most in members that are given as switches,
the answers are the same exactly if both configurations have the same fault as they stand, or none;
or if one of them has none, and the other one the very fault that is left with the switches. They
are the same whenever what the switches replace is allowed. A configuration that is not allowed as
it stands fails with its own fault, whatever the switches are. -/
theorem switches_hide_allowed_values [Url.Idna] (same : i.overrides = i'.overrides)
    (describes : s.Describes i.path c) (describes' : s'.Describes i'.path c')
    (agree : i.overrides.Agree c c') :
    (i.config s = i'.config s' ↔ c.validate = c'.validate ∨
      ∃ fault, (i.overrides.apply c).validate = .error fault ∧
        (c.validate = .ok () ∨ c.validate = .error fault) ∧
        (c'.validate = .ok () ∨ c'.validate = .error fault)) ∧
      (i.overrides.ReplacesAllowed c → i.overrides.ReplacesAllowed c' →
        i.config s = i'.config s') ∧
      ∀ fault, c.validate = .error fault → i.config s = .error fault := by
  rw [config_of_describes describes, config_of_describes describes', ← same, ← agree.apply_eq]
  refine ⟨Overrides.checks_eq_iff, fun allowed allowed' => ?_, fun fault hfault => ?_⟩
  · rw [Overrides.validate_eq_of_allowed agree allowed allowed']
  · rw [hfault]
    rfl

/-- A scope that is not allowed fails the file although a switch replaces it. -/
theorem replaced_scope_fails_the_file :
    let wrong := beside "\x7b\"url\": \"http://[::1]\", \"scope\": \"bad-scope\"\x7d"
    let usual := beside "\x7b\"url\": \"http://[::1]\", \"scope\": \"ycsb\"\x7d"
    let i := schemaUnder "x"
    let c : ClientConfig := { url := "http://[::1]" }
    (Invocation.ofArguments ["--scope", "x", "schema"]).toOption = some i ∧
      wrong.Describes usualPath { c with scope := "bad-scope" } ∧
      usual.Describes usualPath { c with scope := "ycsb" } ∧
      i.overrides.Agree { c with scope := "bad-scope" } { c with scope := "ycsb" } ∧
      i.config wrong = .error (.validation "Invalid scope \"bad-scope\"") ∧
      i.config usual = .ok { c with scope := "x" } := by
  intro wrong usual i c
  have arguments : (Invocation.ofArguments ["--scope", "x", "schema"]).toOption = some i := by
    decide +kernel
  have hwrong : wrong.Describes usualPath { c with scope := "bad-scope" } :=
    describes_beside (by decide +kernel)
  have husual : usual.Describes usualPath { c with scope := "ycsb" } := describes_usual_scope
  refine ⟨arguments, hwrong, husual, agree_schemaUnder "x" c _ _, ?_, ?_⟩
  · have bad : checkName "scope" "bad-scope" = .error (.badName "scope" "bad-scope") := rfl
    rw [config_of_describes hwrong, validate_scope, bad]
    rfl
  · have good : checkName "scope" "ycsb" = .ok () := rfl
    have given : checkName "scope" "x" = .ok () := rfl
    have merged : i.overrides.apply { c with scope := "ycsb" } = { c with scope := "x" } := rfl
    rw [config_of_describes husual, merged, validate_scope, validate_scope, good, given]
    rfl

/-- A scope that is allowed does not matter where a switch replaces it. -/
theorem replaced_scope_does_not_matter :
    let other := beside "\x7b\"url\": \"http://[::1]\", \"scope\": \"other\"\x7d"
    let usual := beside "\x7b\"url\": \"http://[::1]\", \"scope\": \"ycsb\"\x7d"
    (schemaUnder "x").config other = (schemaUnder "x").config usual := by
  intro other usual
  let c : ClientConfig := { url := "http://[::1]" }
  have hother : other.Describes usualPath { c with scope := "other" } :=
    describes_beside (by decide +kernel)
  have husual : usual.Describes usualPath { c with scope := "ycsb" } := describes_usual_scope
  have hidden := (@switches_hide_allowed_values (schemaUnder "x") (schemaUnder "x") _ _ _ _ _ rfl
    hother husual (agree_schemaUnder "x" c _ _)).2.1
  have allowed : checkName "scope" "other" = .ok () := rfl
  have allowed' : checkName "scope" "ycsb" = .ok () := rfl
  exact hidden (replacesAllowed_schemaUnder allowed) (replacesAllowed_schemaUnder allowed')

end Invocation

end SqlppBench
