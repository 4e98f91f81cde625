import SqlppBench.Config.Validation
import SqlppBench.Proofs.Url.Authority

/-! # Endpoints on a host and a port

The URL of an endpoint is made by writing a host and a port into a text, and is then read like any
other. Every text that denotes a host has an endpoint, but so have other texts: the host, the port
and the path of an endpoint are the given ones exactly if the text of the host has none of the
characters that delimit a part of a URL, or that are dropped from it
(`endpoints_are_at_undelimited_hosts`).
-/

namespace SqlppBench

open Text (decimal)
open Url (Host IsUndelimited)

/-- Whether a URL has a host, a port and a path, and no other parts. -/
structure Url.IsAt (u : Url) (host : Host) (port : Nat) (path : String) : Prop where
  host : u.host = host
  /-- The port that the scheme has anyway is left out. -/
  port : u.port.or (Url.defaultPort? u.scheme) = some port
  path : u.pathText = path
  user : u.user = ""
  password : u.password = ""
  query : u.query = none
  fragment : u.fragment = none

/-- With nothing but a host, a port and a path, a URL is at these. -/
theorem Url.isAt_bare (scheme : String) (host : Host) (port : Nat) (segments : List String) :
    (Url.bare scheme host (some port) segments).IsAt host port
      ("/" ++ "/".intercalate segments) where
  host := rfl
  port := by
    dsimp only [Url.bare]
    split
    · rename_i hdefault
      rw [Option.none_or, ← eq_of_beq hdefault]
    · rfl
  path := rfl
  user := rfl
  password := rfl
  query := rfl
  fragment := rfl

namespace Endpoint

/-- An endpoint is read exactly if its URL is. -/
theorem parse_eq_ok_iff [Url.Idna] {s : String} {e : Endpoint} :
    parse s = .ok e ↔ Url.parse (Text.trim s) = .ok (.url e.url) := by
  unfold parse check
  cases Url.parse (Text.trim s) with
  | error fault => simp [Except.mapError]
  | ok location =>
      cases location with
      | other scheme => simp [ofLocation, Except.mapError]
      | url u =>
          simp only [ofLocation, Except.ok.injEq, Url.Location.url.injEq]
          split
          · simp only [Except.mapError, Except.ok.injEq]
            exact ⟨fun h => h ▸ rfl, fun h => by cases e; cases h; rfl⟩
          · rename_i hweb
            refine iff_of_false nofun ?_
            rintro rfl
            exact hweb e.isWeb

/-- Whether a path is read as it is written. -/
structure IsPath (path : String) : Prop where
  plain : Url.IsPlain path.toList
  slash : path.toList.head? = some '/'
  written : "/" ++ "/".intercalate (Url.segments path.toList) = path

/-- Every text that denotes a host has an endpoint there. -/
theorem exists_of_ofChars [Url.Idna] {host path : String} {port : Nat} (hpath : IsPath path)
    (hport : port < portBound) {d : Host} (hd : Host.ofChars host.toList = .ok d) :
    ∃ e, parse (Url.textAt host port path) = .ok e ∧ e.url.IsAt d port path := by
  have hundelimited := Url.isUndelimited_of_ofChars hd
  refine ⟨⟨Url.bare "http" d (some port) (Url.segments path.toList), .inl rfl⟩, ?_, ?_⟩
  · rw [parse_eq_ok_iff, Url.parse_textAt_eq_ok_iff hundelimited hport hpath.plain hpath.slash]
    exact ⟨d, hd, rfl⟩
  · have hat := Url.isAt_bare "http" d port (Url.segments path.toList)
    rwa [hpath.written] at hat

/-- An endpoint is at the host that its text denotes exactly if the text is undelimited. -/
theorem isAt_iff [Url.Idna] {host path : String} {port : Nat} (hpath : IsPath path)
    (hport : port < portBound) {e : Endpoint} (h : parse (Url.textAt host port path) = .ok e) :
    (∃ d, Host.ofChars host.toList = .ok d ∧ e.url.IsAt d port path) ↔
      IsUndelimited host.toList := by
  constructor
  · rintro ⟨d, hd, -⟩
    exact Url.isUndelimited_of_ofChars hd
  · intro hundelimited
    rw [parse_eq_ok_iff,
      Url.parse_textAt_eq_ok_iff hundelimited hport hpath.plain hpath.slash] at h
    obtain ⟨d, hd, hurl⟩ := h
    have hat := Url.isAt_bare "http" d port (Url.segments path.toList)
    rw [hpath.written, ← hurl] at hat
    exact ⟨d, hd, hat⟩

/-- The path of the service. -/
theorem isPath_service : IsPath "/query/service" where
  plain := List.forall_iff_forall_mem.1 (by decide)
  slash := by decide
  written := by decide +kernel

/-- The path of the URL by which a feed is checked. -/
theorem isPath_root : IsPath "/" where
  plain := List.forall_iff_forall_mem.1 (by decide)
  slash := by decide
  written := by decide +kernel

end Endpoint

/-! ## Feeds -/

/-- A feed that passes its check makes up a URL. -/
theorem FeedConfig.exists_of_check [Url.Idna] {f : FeedConfig} (h : f.check = .ok ()) :
    ∃ e, Endpoint.parse f.url = .ok e := by
  unfold check at h
  split at h
  · cases h
  · split at h
    · rename_i e he
      exact ⟨e, he⟩
    · cases h

/-- The feed of an allowed configuration makes up a URL. -/
theorem ClientConfig.exists_of_validate [Url.Idna] {c : ClientConfig} {f : FeedConfig}
    (hfeed : c.feed = some f) (h : c.validate = .ok ()) : ∃ e, Endpoint.parse f.url = .ok e := by
  have hcheck : c.check = .ok () := by
    unfold validate at h
    cases hcheck : c.check with
    | error fault =>
        rw [hcheck] at h
        cases h
    | ok u => rfl
  unfold check at hcheck
  rw [hfeed] at hcheck
  -- the feed is checked last, behind the URL, the two names and the two sizes
  obtain ⟨_, -, hcheck⟩ := Json.bind_eq_ok_iff.1 hcheck
  obtain ⟨_, -, hcheck⟩ := Json.bind_eq_ok_iff.1 hcheck
  obtain ⟨_, -, hcheck⟩ := Json.bind_eq_ok_iff.1 hcheck
  obtain ⟨_, -, hcheck⟩ := Json.bind_eq_ok_iff.1 hcheck
  obtain ⟨_, -, hcheck⟩ := Json.bind_eq_ok_iff.1 hcheck
  exact FeedConfig.exists_of_check hcheck

/-- The address of a feed is divided by its last colon into the host and the port. -/
theorem FeedConfig.address_inj {f : FeedConfig} {before behind : String}
    (h : f.address = before ++ ":" ++ behind) (hbehind : ':' ∉ behind.toList) :
    before = f.host ∧ behind = decimal f.port := by
  have hchars := congrArg String.toList h
  simp only [address, String.toList_append, List.append_assoc] at hchars
  obtain ⟨hfront, hback⟩ :=
    Url.append_colon_inj (Url.colon_not_mem_decimal f.port) hbehind hchars
  exact ⟨String.toList_injective hfront.symm, String.toList_injective hback.symm⟩

/-! ## Hosts -/

/-- Every text that denotes a host has an endpoint. An endpoint, or the URL of an allowed feed, is
at the host and the port that are given exactly if nothing in the text of the host delimits a part
of a URL, and the address of the feed is made of the same host and port. -/
theorem endpoints_are_at_undelimited_hosts [Url.Idna] (host : String) {port : Nat}
    (hport : port < portBound) :
    (∀ d, Host.ofChars host.toList = .ok d → ∃ e, Endpoint.ofHostPort host port = .ok e) ∧
    (∀ e, Endpoint.ofHostPort host port = .ok e →
      ((∃ d, Host.ofChars host.toList = .ok d ∧ e.url.IsAt d port "/query/service") ↔
        IsUndelimited host.toList)) ∧
    (∀ c : ClientConfig, c.feed = some ⟨host, port⟩ → c.validate = .ok () →
      ∃ e, Endpoint.parse (FeedConfig.url ⟨host, port⟩) = .ok e ∧
        ((∃ d, Host.ofChars host.toList = .ok d ∧ e.url.IsAt d port "/") ↔
          IsUndelimited host.toList)) ∧
    ∀ before behind : String, (FeedConfig.mk host port).address = before ++ ":" ++ behind →
      ':' ∉ behind.toList → before = host ∧ behind = decimal port := by
  refine ⟨fun d hd => ?_, fun e he => ?_, fun c hfeed hvalid => ?_,
    fun before behind => FeedConfig.address_inj⟩
  · obtain ⟨e, he, -⟩ := Endpoint.exists_of_ofChars Endpoint.isPath_service hport hd
    exact ⟨e, he⟩
  · exact Endpoint.isAt_iff Endpoint.isPath_service hport he
  · obtain ⟨e, he⟩ := ClientConfig.exists_of_validate hfeed hvalid
    exact ⟨e, he, Endpoint.isAt_iff Endpoint.isPath_root hport he⟩

/-- A name in capitals, and an address between brackets on the port that the scheme has anyway. -/
theorem plain_hosts_are_where_they_say :
    (∃ e, Endpoint.ofHostPort "DB1" 19002 = .ok e ∧
      ∃ d, Host.ofChars "DB1".toList = .ok d ∧ e.url.IsAt d 19002 "/query/service") ∧
    (∃ e, Endpoint.parse (FeedConfig.url ⟨"[::1]", 80⟩) = .ok e ∧
      ∃ d, Host.ofChars "[::1]".toList = .ok d ∧ e.url.IsAt d 80 "/") ∧
    (∀ before behind : String, "[::1]:80" = before ++ ":" ++ behind → ':' ∉ behind.toList →
      before = "[::1]" ∧ behind = "80") := by
  have hname : Host.ofChars "DB1".toList = .ok (.domain "db1") := by decide +kernel
  have hnumber : Host.ofChars "[::1]".toList = .ok (.ipv6 [0, 0, 0, 0, 0, 0, 0, 1]) := by
    decide +kernel
  have hvalid : ({ feed := some ⟨"[::1]", 80⟩ } : ClientConfig).validate = .ok () :=
    Json.eq_ok_of_toOption (by decide +kernel)
  have hport : 80 < portBound := by decide
  have hport' : 19002 < portBound := by decide
  obtain ⟨hexists, hat, -, -⟩ := endpoints_are_at_undelimited_hosts "DB1" hport'
  obtain ⟨-, -, hfeed, haddress⟩ := endpoints_are_at_undelimited_hosts "[::1]" hport
  refine ⟨?_, ?_, haddress⟩
  · obtain ⟨e, he⟩ := hexists _ hname
    exact ⟨e, he, (hat e he).2 (Url.isUndelimited_of_ofChars hname)⟩
  · obtain ⟨e, he, hat'⟩ := hfeed _ rfl hvalid
    exact ⟨e, he, hat'.2 (Url.isUndelimited_of_ofChars hnumber)⟩

/-- A slash in a host ends it, so that neither the endpoint nor the URL of an allowed feed has the
port and the path that are meant. -/
theorem slash_in_a_host_ends_it :
    (∃ e, Endpoint.ofHostPort "a/b" 9 = .ok e ∧
      e.url = Url.bare "http" (.domain "a") none ["b:9", "query", "service"] ∧
      ¬ ∃ d, e.url.IsAt d 9 "/query/service") ∧
    ({ feed := some ⟨"a/b", 1⟩ } : ClientConfig).validate = .ok () ∧
    ∃ e, Endpoint.parse (FeedConfig.url ⟨"a/b", 1⟩) = .ok e ∧
      e.url = Url.bare "http" (.domain "a") none ["b:1", ""] ∧ ¬ ∃ d, e.url.IsAt d 1 "/" := by
  have hservice : Endpoint.ofHostPort "a/b" 9 =
      .ok ⟨Url.bare "http" (.domain "a") none ["b:9", "query", "service"], .inl rfl⟩ :=
    Endpoint.parse_eq_ok_iff.2 (by decide +kernel)
  have hvalid : ({ feed := some ⟨"a/b", 1⟩ } : ClientConfig).validate = .ok () :=
    Json.eq_ok_of_toOption (by decide +kernel)
  have hfeed : Endpoint.parse (FeedConfig.url ⟨"a/b", 1⟩) =
      .ok ⟨Url.bare "http" (.domain "a") none ["b:1", ""], .inl rfl⟩ :=
    Endpoint.parse_eq_ok_iff.2 (by decide +kernel)
  refine ⟨⟨_, hservice, rfl, ?_⟩, hvalid, _, hfeed, rfl, ?_⟩
  · rintro ⟨d, hat⟩
    exact absurd hat.path (by decide)
  · rintro ⟨d, hat⟩
    exact absurd hat.path (by decide)

end SqlppBench
