import SqlppBench.Proofs.Json.Shapes
import SqlppBench.Proofs.Text.Trimming
import SqlppBench.Proofs.Url.Hosts
import SqlppBench.Url.Basic

/-! # URLs on a host and a port

A text that is made of a host, a port and a path is read like any other URL. If nothing in the host
delimits a part of a URL, then the text is read exactly if the host denotes one, and all parts are
the given ones (`parse_textAt_eq_ok_iff`).
-/

namespace SqlppBench.Url

open Text (decimal)

/-! ## Authorities -/

/-- A name without colons and brackets is all in the host. -/
theorem hostPart_append {s : List Char} (h : ∀ c ∈ s, c ≠ ':' ∧ c ≠ '[' ∧ c ≠ ']') (t : List Char) :
    hostPart false (s ++ t) = s ++ hostPart false t := by
  induction s with
  | nil => rfl
  | cons c s ih =>
      obtain ⟨hcolon, hopen, hclose⟩ := h c List.mem_cons_self
      rw [List.cons_append, hostPart, if_neg (by simp [hcolon]), if_neg (by simp [hopen]),
        if_neg (by simp [hclose]), ih fun d hd => h d (List.mem_cons_of_mem c hd)]
      rfl

/-- Between brackets everything is in the host. -/
theorem hostPart_brackets {s : List Char} (h : ∀ c ∈ s, c ≠ '[' ∧ c ≠ ']') (t : List Char) :
    hostPart true (s ++ ']' :: t) = s ++ ']' :: hostPart false t := by
  induction s with
  | nil => rfl
  | cons c s ih =>
      obtain ⟨hopen, hclose⟩ := h c List.mem_cons_self
      rw [List.cons_append, hostPart, if_neg (by simp), if_neg (by simp [hopen]),
        if_neg (by simp [hclose]), ih fun d hd => h d (List.mem_cons_of_mem c hd)]
      rfl

/-- The host of an authority that begins with a text that denotes a host. -/
theorem hostPart_of_ofChars [Idna] {s : List Char} {host : Host} (h : Host.ofChars s = .ok host)
    (t : List Char) : hostPart false (s ++ ':' :: t) = s := by
  have hend : hostPart false (':' :: t) = [] := rfl
  rcases exists_or_forall_of_ofChars h with ⟨inner, rfl, hinner⟩ | hname
  · have hdisjoint : inner.Disjoint ['[', ']'] :=
      disjoint_of_class hinner (List.forall_iff_forall_mem.1 (by decide))
    have hplain (c : Char) (hc : c ∈ inner) : c ≠ '[' ∧ c ≠ ']' := by
      simpa using hdisjoint hc
    have hopen : hostPart false ('[' :: (inner ++ ']' :: ':' :: t)) =
        '[' :: hostPart true (inner ++ ']' :: ':' :: t) := rfl
    rw [List.cons_append, List.append_assoc, List.singleton_append, hopen,
      hostPart_brackets hplain, hend]
  · have hdisjoint : s.Disjoint [':', '[', ']'] :=
      disjoint_of_class hname fun c hc => isReserved_of_mem c (List.mem_append_left delimiters hc)
    have hplain (c : Char) (hc : c ∈ s) : c ≠ ':' ∧ c ≠ '[' ∧ c ≠ ']' := by
      simpa using hdisjoint hc
    rw [hostPart_append hplain, hend, List.append_nil]

/-- The host is all of an authority, or a colon follows it. -/
theorem hostPart_cases (inBrackets : Bool) (s : List Char) :
    hostPart inBrackets s = s ∨ ∃ t, s = hostPart inBrackets s ++ ':' :: t := by
  induction s generalizing inBrackets with
  | nil => exact .inl rfl
  | cons c s ih =>
      rw [hostPart]
      split
      · rename_i hcolon
        simp only [Bool.and_eq_true, beq_iff_eq] at hcolon
        exact .inr ⟨s, by rw [hcolon.1]; rfl⟩
      · rcases ih (if c == '[' then true else if c == ']' then false else inBrackets) with
          hall | ⟨t, ht⟩
        · exact .inl (by rw [hall])
        · refine .inr ⟨t, ?_⟩
          rw [List.cons_append, ← ht]

/-! ## Ports -/

/-- A port is written with digits. -/
theorem isSome_digitValue?_of_readPort {digits : List Char} {port : Option Nat}
    (h : readPort digits = .ok port) : ∀ c ∈ digits, (Text.digitValue? c).isSome = true := by
  unfold readPort at h
  split at h
  · rename_i hempty
    rw [List.isEmpty_iff.1 hempty]
    exact nofun
  · split at h
    · rename_i n hread
      obtain ⟨hdigits, -⟩ := Option.filter_eq_some_iff.1 hread
      exact Text.isSome_digitValue?_of_digits? hdigits
    · cases h

/-- A numeral has digits. -/
theorem toList_decimal_ne_nil (n : Nat) : (decimal n).toList ≠ [] := by
  rw [Text.toList_decimal]
  exact Nat.toDigits_ne_nil

/-- A port is read as the number that it is. -/
theorem readPort_decimal {port : Nat} (h : port < 65536) :
    readPort (decimal port).toList = .ok (some port) := by
  have hne : ¬ (decimal port).toList.isEmpty := by
    rw [List.isEmpty_iff]
    exact toList_decimal_ne_nil port
  rw [readPort, if_neg hne, Text.digits?_decimal, Option.filter_some, if_pos (decide_eq_true h)]

/-- No colon is in a numeral. -/
theorem colon_not_mem_decimal (n : Nat) : ':' ∉ (decimal n).toList :=
  fun hmem => absurd (Text.isDigit_of_mem_decimal hmem) (by decide)

/-- A text is divided by its last colon in one way. -/
theorem append_colon_inj {s s' t t' : List Char} (ht : ':' ∉ t) (ht' : ':' ∉ t')
    (h : s ++ ':' :: t = s' ++ ':' :: t') : s = s' ∧ t = t' := by
  have back {s t : List Char} (ht : ':' ∉ t) :
      (s ++ ':' :: t).reverse.takeWhile (· != ':') = t.reverse := by
    have hother (c : Char) (hc : c ∈ t.reverse) : (c != ':') = true := by
      rw [bne_iff_ne]
      rintro rfl
      exact ht (List.mem_reverse.1 hc)
    rw [List.reverse_append, List.reverse_cons, List.append_assoc, List.singleton_append]
    refine Text.takeWhile_append_of_head hother fun c hc => ?_
    cases hc
    rfl
  have htail : t = t' := by
    have hreverse := back (s := s) ht
    rw [h, back ht'] at hreverse
    exact (List.reverse_injective hreverse).symm
  subst htail
  exact ⟨List.append_cancel_right h, rfl⟩

/-- What is left behind a front and the character that follows it. -/
theorem drop_front {s front t : List Char} {c : Char} (h : s = front ++ c :: t) :
    (s.drop front.length).drop 1 = t := by
  rw [h, List.drop_left]
  rfl

/-- In front of a port there is the host, and nothing else. -/
theorem hostPart_of_readPort [Idna] {s auth : List Char} {n : Nat} {host : Host} {port : Option Nat}
    (hauth : auth = s ++ ':' :: (decimal n).toList)
    (hhost : Host.ofChars (hostPart false auth) = .ok host)
    (hport : readPort ((auth.drop (hostPart false auth).length).drop 1) = .ok port) :
    hostPart false auth = s := by
  rcases hostPart_cases false auth with hall | ⟨t, ht⟩
  · -- a colon outside of brackets is in no host, and a digit is no bracket
    rw [hall] at hhost
    rcases exists_or_forall_of_ofChars hhost with ⟨inner, hbrackets, -⟩ | hname
    · obtain ⟨digits, d, hdigits⟩ :=
        (List.eq_nil_or_concat (decimal n).toList).resolve_left (toList_decimal_ne_nil n)
      have hlast : d = ']' := by
        have heq : (s ++ ':' :: digits) ++ [d] = ('[' :: inner) ++ [']'] := by
          simpa [hdigits] using hauth.symm.trans hbrackets
        exact List.singleton_inj.1 (List.append_inj' heq rfl).2
      have hdigit : d.isDigit = true := Text.isDigit_of_mem_decimal (n := n) (by simp [hdigits])
      rw [hlast] at hdigit
      exact absurd hdigit (by decide)
    · have hcolon := hname ':' (by simp [hauth])
      exact Bool.noConfusion (hcolon.symm.trans (isReserved_of_mem ':' (by simp)))
  · rw [drop_front ht] at hport
    have hcolon : ':' ∉ t := fun hmem =>
      absurd (isSome_digitValue?_of_readPort hport ':' hmem) (by decide)
    exact (append_colon_inj hcolon (colon_not_mem_decimal n) (ht.symm.trans hauth)).1

/-! ## Parts -/

/-- The URL with a host, a port and a path, and with nothing else. -/
def bare (scheme : String) (host : Host) (port : Option Nat) (path : List String) : Url where
  scheme := scheme
  user := ""
  password := ""
  host := host
  port := if port == defaultPort? scheme then none else port
  path := path
  query := none
  fragment := none

/-- How a URL is read from an authority without a user and a path without a query. -/
theorem ofHierarchical_authority [Idna] (scheme : String) {auth path : List Char} (hne : auth ≠ [])
    (hauth : IsUndelimited auth) (hpath : ∀ c ∈ '/' :: path, endsPath c = false) :
    ofHierarchical scheme ('/' :: '/' :: (auth ++ '/' :: path)) =
      if (hostPart false auth).isEmpty then .error .emptyHost
      else (Host.ofChars (hostPart false auth)).bind fun host =>
        (readPort ((auth.drop (hostPart false auth).length).drop 1)).map fun port =>
          bare scheme host port (segments ('/' :: path)) := by
  have hin (c : Char) (hc : c ∈ auth) : (!(isSlash c || endsPath c)) = true := by
    have hnot := hauth c hc
    simp only [delimiters, List.mem_cons, not_or] at hnot
    simp [isSlash, endsPath, hnot]
  have huser : auth.contains '@' = false := by
    rw [Bool.eq_false_iff, ne_eq, List.contains_iff_mem]
    exact fun hmem => hauth '@' hmem (by decide)
  have hslash : ('/' :: '/' :: (auth ++ '/' :: path)).dropWhile isSlash = auth ++ '/' :: path := by
    have hslashes : ∀ c ∈ ['/', '/'], isSlash c = true := List.forall_iff_forall_mem.1 (by decide)
    refine Text.dropWhile_append_of_head (t := auth ++ '/' :: path) hslashes fun c hc => ?_
    have hmem : c ∈ auth := by
      rw [List.head?_append_of_ne_nil _ hne] at hc
      exact List.mem_of_head? hc
    have hnot := hin c hmem
    simp only [Bool.not_or, Bool.and_eq_true, Bool.not_eq_true'] at hnot
    exact hnot.1
  have hend (c : Char) (hc : ('/' :: path).head? = some c) :
      (!(isSlash c || endsPath c)) = false := by
    cases hc
    rfl
  have hwithin (c : Char) (hc : c ∈ '/' :: path) : (!endsPath c) = true := by simp [hpath c hc]
  have htake := Text.takeWhile_append_of_head hin hend
  have hdrop := Text.dropWhile_append_of_head hin hend
  have hwhole : ('/' :: path).takeWhile (!endsPath ·) = '/' :: path :=
    List.takeWhile_eq_self_iff.2 hwithin
  have hafter : ('/' :: path).dropWhile (!endsPath ·) = [] := List.dropWhile_eq_nil_iff.2 hwithin
  unfold ofHierarchical
  simp only [hslash, htake, hdrop, hwhole, hafter, splitUser, huser, Bool.false_eq_true, if_false]
  split
  · rfl
  · cases Host.ofChars (hostPart false auth) with
    | error fault => rfl
    | ok host => cases readPort ((auth.drop (hostPart false auth).length).drop 1) <;> rfl

/-- A port delimits nothing. -/
theorem IsUndelimited.append_port {s : List Char} (h : IsUndelimited s) (n : Nat) :
    IsUndelimited (s ++ ':' :: (decimal n).toList) := by
  have hother : ∀ c ∈ delimiters, c ≠ ':' ∧ c.isDigit = false :=
    List.forall_iff_forall_mem.1 (by decide)
  intro c hc hdelimiter
  rcases List.mem_append.1 hc with hc | hc
  · exact h c hc hdelimiter
  rcases List.mem_cons.1 hc with hc | hc
  · exact (hother c hdelimiter).1 hc
  · have hdigits (d : Char) (hd : d ∈ (decimal n).toList) := Text.isDigit_of_mem_decimal hd
    exact disjoint_of_class hdigits (fun d hd => (hother d hd).2) hc hdelimiter

/-- With an undelimited host, a URL is read exactly if the host denotes one. -/
theorem ofHierarchical_eq_ok_iff [Idna] (scheme : String) {s path : List Char} {port : Nat}
    (hs : IsUndelimited s) (hport : port < 65536) (hpath : ∀ c ∈ '/' :: path, endsPath c = false)
    {u : Url} :
    ofHierarchical scheme
        ('/' :: '/' :: ((s ++ ':' :: (decimal port).toList) ++ '/' :: path)) = .ok u ↔
      ∃ d, Host.ofChars s = .ok d ∧ u = bare scheme d (some port) (segments ('/' :: path)) := by
  have hne : s ++ ':' :: (decimal port).toList ≠ [] := by simp
  rw [ofHierarchical_authority scheme hne (hs.append_port port) hpath]
  constructor
  · intro h
    split at h
    · cases h
    obtain ⟨d, hd, h⟩ := Json.bind_eq_ok_iff.1 h
    obtain ⟨p, hp, rfl⟩ := Json.map_eq_ok_iff.1 h
    have hfront := hostPart_of_readPort rfl hd hp
    rw [hfront] at hd hp
    rw [drop_front rfl, readPort_decimal hport] at hp
    cases hp
    exact ⟨d, hd, rfl⟩
  · rintro ⟨d, hd, rfl⟩
    have hempty : ¬ s.isEmpty := by
      rw [List.isEmpty_iff]
      rintro rfl
      rw [Host.ofChars_nil] at hd
      cases hd
    rw [hostPart_of_ofChars hd, if_neg hempty, hd, drop_front rfl, readPort_decimal hport]
    rfl

/-! ## Texts -/

/-- Whether the characters stand for themselves in a path, wherever they are in it. -/
def IsPlain (s : List Char) : Prop :=
  ∀ c ∈ s, c.isAlphanum = true ∨ c = '/'

/-- The text of a URL on a host. -/
def textAt (host : String) (port : Nat) (path : String) : String :=
  "http://" ++ host ++ ":" ++ decimal port ++ path

/-- The characters that are dropped wherever they are. -/
def dropped : List Char := ['\t', '\n', '\x0D']

/-- What is dropped or ends a path is neither a letter nor a digit. -/
theorem IsPlain.not_mem {s : List Char} (h : IsPlain s) : ∀ c ∈ '?' :: '#' :: dropped, c ∉ s := by
  have hother : ∀ c ∈ '?' :: '#' :: dropped, ¬ (c.isAlphanum = true ∨ c = '/') :=
    List.forall_iff_forall_mem.1 (by decide)
  exact fun c hc hmem => hother c hc (h c hmem)

theorem IsPlain.isBlank {s : List Char} (h : IsPlain s) {c : Char} (hc : c ∈ s) :
    Text.isBlank c = false := by
  rcases h c hc with halnum | rfl
  · exact Text.isBlank_of_isAlphanum halnum
  · decide

/-- The characters of a path are above the blank. -/
theorem IsPlain.not_le {s : List Char} (h : IsPlain s) {c : Char} (hc : c ∈ s) : ¬ c ≤ ' ' := by
  rcases h c hc with halnum | rfl
  · have hlow : 48 ≤ c.toNat := by
      rcases Bool.or_eq_true_iff.1 halnum with h | h
      · have hletter := Text.toNat_of_isAlpha h
        omega
      · exact (Text.toNat_of_isDigit h).1
    rw [Char.le_def, UInt32.le_iff_toNat_le]
    exact fun hle => absurd (hlow.trans hle) (by decide)
  · decide

theorem IsPlain.endsPath {s : List Char} (h : IsPlain s) {c : Char} (hc : c ∈ s) :
    Url.endsPath c = false := by
  have hends : c ≠ '?' ∧ c ≠ '#' := by
    constructor <;>
    · rintro rfl
      exact h.not_mem _ (by simp) hc
  simp [Url.endsPath, hends]

/-- Nothing is dropped from a text without blanks at its ends and without line breaks. -/
theorem clean_of_forall {s : List Char} (hhead : ∀ c, s.head? = some c → ¬ c ≤ ' ')
    (hlast : ∀ c, s.getLast? = some c → ¬ c ≤ ' ') (hin : ∀ c ∈ dropped, c ∉ s) :
    clean s = s := by
  have hfront : s.dropWhile (· ≤ ' ') = s :=
    Text.dropWhile_append_of_head (s := []) nofun fun c hc => decide_eq_false (hhead c hc)
  have hend : Text.dropEndWhile (· ≤ ' ') s = s :=
    Text.dropEndWhile_of_getLast fun c hc => decide_eq_false (hlast c hc)
  unfold clean
  dsimp only
  rw [hfront, hend, List.filter_eq_self]
  intro c hc
  have hne : c ∉ dropped := fun hmem => hin c hmem hc
  simp only [dropped, List.mem_cons, List.not_mem_nil, or_false, not_or] at hne
  simp [hne]

/-- How the text of a URL is read, up to its authority. -/
theorem parse_http [Idna] {s : String} {auth path : List Char}
    (hs : s.toList = "http://".toList ++ (auth ++ '/' :: path)) (hauth : IsUndelimited auth)
    (hpath : IsPlain ('/' :: path)) :
    Url.parse (Text.trim s) =
      (ofHierarchical "http" ('/' :: '/' :: (auth ++ '/' :: path))).map .url := by
  have hlast (c : Char) (hc : s.toList.getLast? = some c) : c ∈ '/' :: path := by
    rw [hs, ← List.append_assoc, List.getLast?_append_of_ne_nil _ (List.cons_ne_nil _ _)] at hc
    exact List.mem_of_getLast? hc
  have htrim : Text.trim s = s := by
    have htight : Text.Tight s.toList := by
      refine ⟨fun c hc => ?_, fun c hc => hpath.isBlank (hlast c hc)⟩
      rw [hs] at hc
      cases hc
      decide
    have hchars := Text.trimChars_of_tight htight Text.allBlank_nil Text.allBlank_nil
    rw [List.nil_append, List.append_nil] at hchars
    rw [Text.trim, hchars, String.ofList_toList]
  have hclean : clean s.toList = s.toList := by
    refine clean_of_forall (fun c hc => ?_) (fun c hc => hpath.not_le (hlast c hc)) fun c hc => ?_
    · rw [hs] at hc
      cases hc
      decide
    · have hdropped : ∀ c ∈ dropped, c ∉ "http://".toList ∧ c ∈ delimiters :=
        List.forall_iff_forall_mem.1 (by decide)
      rw [hs, List.mem_append, List.mem_append, not_or, not_or]
      refine ⟨(hdropped c hc).1, fun hmem => hauth c hmem (hdropped c hc).2, ?_⟩
      exact hpath.not_mem c (List.mem_cons_of_mem '?' (List.mem_cons_of_mem '#' hc))
  have hscheme : scheme? s.toList = some ("http", '/' :: '/' :: (auth ++ '/' :: path)) := by
    rw [hs]
    rfl
  have hhierarchical : isHierarchical "http" = true := by decide
  rw [Url.parse, htrim, hclean, hscheme]
  simp only [hhierarchical, if_true]

/-- A text with an undelimited host is read exactly if the host denotes one, and all the parts are
the given ones. -/
theorem parse_textAt_eq_ok_iff [Idna] {host path : String} {port : Nat}
    (hhost : IsUndelimited host.toList) (hport : port < 65536) (hpath : IsPlain path.toList)
    (hslash : path.toList.head? = some '/') {u : Url} :
    Url.parse (Text.trim (textAt host port path)) = .ok (.url u) ↔
      ∃ d, Host.ofChars host.toList = .ok d ∧
        u = bare "http" d (some port) (segments path.toList) := by
  obtain ⟨rest, hrest⟩ : ∃ rest, path.toList = '/' :: rest := List.head?_eq_some_iff.1 hslash
  rw [hrest] at hpath ⊢
  have htext : (textAt host port path).toList = "http://".toList ++
      ((host.toList ++ ':' :: (decimal port).toList) ++ '/' :: rest) := by
    simp [textAt, hrest]
  rw [parse_http htext (hhost.append_port port) hpath, Json.map_eq_ok_iff]
  simp only [Location.url.injEq, exists_eq_right]
  exact ofHierarchical_eq_ok_iff "http" hhost hport fun c hc => hpath.endsPath hc

end SqlppBench.Url
