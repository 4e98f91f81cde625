import SqlppBench.Proofs.Text.Numeral
import SqlppBench.Proofs.Text.Pieces
import SqlppBench.Proofs.Text.Utf8
import SqlppBench.Url.Host

/-! # Texts of hosts

What a text that denotes a host is made of: between brackets it has digits, colons and points only,
and outside of them nothing that has a meaning in a URL (`exists_or_forall_of_ofChars`).
-/

namespace SqlppBench.Url

open Text (digitValue?)

/-- What is made of one class of characters has none of the others. -/
theorem disjoint_of_class {p : Char → Bool} {b : Bool} {s t : List Char} (hs : ∀ c ∈ s, p c = b)
    (ht : ∀ c ∈ t, p c = !b) : s.Disjoint t := by
  intro c hcs hct
  have heq := (hs c hcs).symm.trans (ht c hct)
  cases b <;> cases heq

/-! ## Addresses -/

/-- The characters of an address of 128 bits: digits, points and colons. -/
def isAddressChar (c : Char) : Bool :=
  (digitValue? c).isSome || c == '.' || c == ':'

theorem isAddressChar_of_digit {c : Char} (h : (digitValue? c).isSome = true) :
    isAddressChar c = true := by
  simp [isAddressChar, h]

theorem isAddressChar_of_ipv6Piece? {s : List Char} {n : Nat} (h : ipv6Piece? s = some n) :
    ∀ c ∈ s, isAddressChar c = true := by
  unfold ipv6Piece? at h
  split at h
  · cases h
  · exact fun c hc => isAddressChar_of_digit (Text.isSome_digitValue?_of_digits? h c hc)

/-- What is made of all items is made of each of them. -/
theorem exists_of_mapM_eq_some {α β : Type} {f : α → Option β} {as : List α} {bs : List β}
    (h : as.mapM f = some bs) : ∀ a ∈ as, ∃ b, f a = some b := by
  induction as generalizing bs with
  | nil => exact nofun
  | cons a as ih =>
      rw [List.mapM_cons] at h
      obtain ⟨b, hb, hrest⟩ := Option.bind_eq_some_iff.1 h
      obtain ⟨bs', hbs', -⟩ := Option.bind_eq_some_iff.1 hrest
      rintro x (_ | ⟨_, hx⟩)
      · exact ⟨b, hb⟩
      · exact ih hbs' x hx

theorem isAddressChar_of_embeddedIpv4? {s : List Char} {pieces : List Nat}
    (h : embeddedIpv4? s = some pieces) : ∀ c ∈ s, isAddressChar c = true := by
  unfold embeddedIpv4? at h
  dsimp only at h
  split at h
  · rename_i hbytes
    intro c hc
    cases hpoint : c == '.' with
    | true => simp [isAddressChar, hpoint]
    | false =>
        obtain ⟨part, hpart, hmem⟩ := Text.exists_mem_piecesBy (p := (· == '.')) hc hpoint
        obtain ⟨n, hn⟩ := exists_of_mapM_eq_some hbytes part hpart
        split at hn
        · cases hn
        · obtain ⟨hdigits, -⟩ := Option.filter_eq_some_iff.1 hn
          exact isAddressChar_of_digit (Text.isSome_digitValue?_of_digits? hdigits c hmem)
  · cases h

theorem isAddressChar_of_ipv6Run? {parts : List (List Char)} {pieces : List Nat}
    (h : ipv6Run? parts = some pieces) : ∀ part ∈ parts, ∀ c ∈ part, isAddressChar c = true := by
  fun_induction ipv6Run? parts generalizing pieces with
  | case1 => exact nofun
  | case2 last hpoint =>
      intro part hpart
      rw [List.mem_singleton.1 hpart]
      exact isAddressChar_of_embeddedIpv4? h
  | case3 last hpoint =>
      obtain ⟨n, hn, -⟩ := Option.map_eq_some_iff.1 h
      intro part hpart
      rw [List.mem_singleton.1 hpart]
      exact isAddressChar_of_ipv6Piece? hn
  | case4 part parts hnext ih =>
      obtain ⟨n, hn, hrest⟩ := Option.bind_eq_some_iff.1 h
      obtain ⟨pieces', hpieces, -⟩ := Option.bind_eq_some_iff.1 hrest
      rintro x (_ | ⟨_, hx⟩)
      · exact isAddressChar_of_ipv6Piece? hn
      · exact ih hpieces x hx

theorem isAddressChar_of_ipv6Pieces? {s : List Char} {pieces : List Nat}
    (h : ipv6Pieces? s = some pieces) : ∀ c ∈ s, isAddressChar c = true := by
  unfold ipv6Pieces? at h
  split at h
  · rename_i hempty
    rw [List.isEmpty_iff.1 hempty]
    exact nofun
  · intro c hc
    cases hcolon : c == ':' with
    | true => simp [isAddressChar, hcolon]
    | false =>
        obtain ⟨piece, hpiece, hmem⟩ := Text.exists_mem_piecesBy (p := (· == ':')) hc hcolon
        exact isAddressChar_of_ipv6Run? h piece hpiece c hmem

/-- An address has nothing but digits, points and colons. -/
theorem isAddressChar_of_ipv6OfChars {s : List Char} {pieces : List Nat}
    (h : ipv6OfChars s = .ok pieces) : ∀ c ∈ s, isAddressChar c = true := by
  unfold ipv6OfChars at h
  dsimp only at h
  split at h
  · rename_i hread
    split at hread
    · obtain ⟨hpieces, -⟩ := Option.filter_eq_some_iff.1 hread
      exact isAddressChar_of_ipv6Pieces? hpieces
    · rename_i front back hsplit
      rw [Text.eq_append_of_splitAtFirst? hsplit]
      split at hread
      · cases hread
      obtain ⟨numbers, hfront, hread⟩ := Option.bind_eq_some_iff.1 hread
      obtain ⟨numbers', hback, -⟩ := Option.bind_eq_some_iff.1 hread
      have hcolons : ∀ c ∈ "::".toList, isAddressChar c = true :=
        List.forall_iff_forall_mem.1 (by decide)
      intro c hc
      rcases List.mem_append.1 hc with hc | hc
      · exact isAddressChar_of_ipv6Pieces? hfront c hc
      rcases List.mem_append.1 hc with hc | hc
      · exact hcolons c hc
      · exact isAddressChar_of_ipv6Pieces? hback c hc
  · cases h

/-! ## Names -/

/-- A byte that is no percent sign and no digit is left as it is. -/
theorem mem_percentDecode {s : Bytes} {b : UInt8} (h : b ∈ s) (hmark : b ≠ 37)
    (hdigit : digitValue? (Char.ofNat b.toNat) = none) : b ∈ percentDecode s := by
  -- what stands for another byte is a percent sign and two digits
  have later {a : UInt8} {s t : Bytes} (hmem : b ∈ a :: s) (ih : b ∈ s → b ∈ t) : b ∈ a :: t := by
    rcases List.mem_cons.1 hmem with rfl | hmem
    · exact List.mem_cons_self
    · exact List.mem_cons_of_mem a (ih hmem)
  fun_induction percentDecode s with
  | case1 => exact h
  | case2 a x y s hsign low high hlow hhigh ih =>
      rcases List.mem_cons.1 h with rfl | h
      · exact absurd (eq_of_beq hsign) hmark
      rcases List.mem_cons.1 h with rfl | h
      · exact nomatch hdigit.symm.trans hhigh
      rcases List.mem_cons.1 h with rfl | h
      · exact nomatch hdigit.symm.trans hlow
      · exact List.mem_cons_of_mem _ (ih h)
  | case3 _ _ _ _ _ _ ih => exact later h ih
  | case4 _ _ _ _ _ ih => exact later h ih
  | case5 _ _ _ ih => exact later h ih

/-- Whether a character of a host is found in the name that it denotes, and may not be there. -/
def isReserved (c : Char) : Bool :=
  c.toNat < 0x80 && (digitValue? c).isNone && isForbiddenInName c && !"%<>".toList.contains c

/-- The characters that end a host, and those that are dropped from a URL. -/
def delimiters : List Char := ['/', '\\', '?', '#', '@', '\t', '\n', '\x0D']

/-- What has a meaning in a URL is reserved. -/
theorem isReserved_of_mem : ∀ c ∈ ':' :: '[' :: ']' :: delimiters, isReserved c = true := by
  exact List.forall_iff_forall_mem.1 (by decide)

/-- A character of ASCII that is no digit and no percent sign is not changed by decoding. -/
theorem mem_of_decode {s decoded : List Char}
    (hdecoded : Utf8.decodeChars? (percentDecode (Utf8.encodeChars s)) = some decoded) {c : Char}
    (hc : c ∈ s) (hascii : c.toNat < 0x80) (hmark : c ≠ '%') (hdigit : digitValue? c = none) :
    c ∈ decoded := by
  have htoNat : (UInt8.ofNat c.toNat).toNat = c.toNat :=
    UInt8.toNat_ofNat_of_lt' (by simp [UInt8.size]; omega)
  have hchar : Char.ofNat (UInt8.ofNat c.toNat).toNat = c := by rw [htoNat, Char.ofNat_toNat]
  have hbyte : UInt8.ofNat c.toNat ∈ Utf8.encodeChars s := by
    refine List.mem_flatMap.2 ⟨c, hc, ?_⟩
    rw [Utf8.utf8EncodeChar_ascii hascii]
    exact List.mem_singleton_self _
  have hsign : UInt8.ofNat c.toNat ≠ 37 := by
    intro heq
    rw [heq] at hchar
    exact hmark hchar.symm
  have hkept := mem_percentDecode hbyte hsign (by rw [hchar]; exact hdigit)
  have hmem := Utf8.mem_of_decodeChars? hdecoded hkept (by rw [htoNat]; exact hascii)
  rwa [hchar] at hmem

section Idna

variable [Idna]

/-- The name of a host has no reserved character. -/
theorem not_isReserved_of_toAscii {s name : List Char}
    (hname : (Utf8.decodeChars? (percentDecode (Utf8.encodeChars s))).bind Idna.toAscii = some name)
    (hallowed : name.any isForbiddenInName = false) {c : Char} (hc : c ∈ s) :
    isReserved c = false := by
  rw [Bool.eq_false_iff]
  intro hreserved
  have hapart : "%<>".toList.contains c = false → c ≠ '%' ∧ c ≠ '<' ∧ c ≠ '>' := by
    simp
  simp only [isReserved, Bool.and_eq_true, decide_eq_true_eq, Option.isNone_iff_eq_none,
    Bool.not_eq_true'] at hreserved
  obtain ⟨⟨⟨hascii, hdigit⟩, hforbidden⟩, hsigns⟩ := hreserved
  obtain ⟨hmark, hless, hgreater⟩ := hapart hsigns
  obtain ⟨decoded, hdecoded, htoAscii⟩ := Option.bind_eq_some_iff.1 hname
  have hmem := mem_of_decode hdecoded hc hascii hmark hdigit
  exact List.any_eq_false.1 hallowed c
    (Idna.mem_toAscii htoAscii hmem hforbidden hless hgreater) hforbidden

/-! ## Hosts -/

/-- An empty text denotes no host. -/
theorem Host.ofChars_nil : Host.ofChars [] = .error .emptyHost := by
  have hname : Idna.toAscii [] = some [] := Idna.toAscii_plain rfl
  simp [Host.ofChars, Utf8.encodeChars, percentDecode, Utf8.decodeChars?, hname]

/-- A text that denotes a host is an address between brackets, or it has no reserved character. -/
theorem exists_or_forall_of_ofChars {s : List Char} {host : Host} (h : Host.ofChars s = .ok host) :
    (∃ inner, s = '[' :: (inner ++ [']']) ∧ ∀ c ∈ inner, isAddressChar c = true) ∨
      ∀ c ∈ s, isReserved c = false := by
  unfold Host.ofChars at h
  split at h
  · rename_i rest
    unfold Host.ofBracketed at h
    split at h
    · rename_i hclosed
      have hlast : rest.getLast? = some ']' := eq_of_beq hclosed
      cases hread : ipv6OfChars rest.dropLast with
      | error fault =>
          rw [hread] at h
          cases h
      | ok pieces =>
          refine .inl ⟨rest.dropLast, ?_, isAddressChar_of_ipv6OfChars hread⟩
          rw [List.dropLast_append_getLast? ']' hlast]
    · cases h
  · rename_i hopen
    split at h
    · cases h
    rename_i name hname
    split at h
    · cases h
    rename_i hallowed
    exact .inr fun c hc => not_isReserved_of_toAscii hname (by simpa using hallowed) hc

/-- Whether no part of a URL is delimited within the text. -/
def IsUndelimited (s : List Char) : Prop :=
  ∀ c ∈ s, c ∉ delimiters

/-- A text that denotes a host has no delimiters. -/
theorem isUndelimited_of_ofChars {s : List Char} {host : Host} (h : Host.ofChars s = .ok host) :
    IsUndelimited s := by
  have haddress : ∀ c ∈ delimiters, isAddressChar c = false :=
    List.forall_iff_forall_mem.1 (by decide)
  have hbrackets : '[' ∉ delimiters ∧ ']' ∉ delimiters := by decide
  intro c hc hdelimiter
  rcases exists_or_forall_of_ofChars h with ⟨inner, rfl, hinner⟩ | hname
  · rcases List.mem_cons.1 hc with rfl | hc
    · exact hbrackets.1 hdelimiter
    rcases List.mem_append.1 hc with hc | hc
    · exact disjoint_of_class hinner haddress hc hdelimiter
    · rw [List.mem_singleton.1 hc] at hdelimiter
      exact hbrackets.2 hdelimiter
  · have hreserved (d : Char) (hd : d ∈ delimiters) : isReserved d = true :=
      isReserved_of_mem d (List.mem_append_right [':', '[', ']'] hd)
    exact disjoint_of_class hname hreserved hc hdelimiter

end Idna

end SqlppBench.Url
