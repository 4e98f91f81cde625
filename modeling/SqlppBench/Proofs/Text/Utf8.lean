import SqlppBench.Text.Utf8

/-! # Writing and reading UTF-8

What was written is read back (`decode?_encode`), also as the text of a body unless it begins with
the mark of an encoding (`decodeBody_encode`). The bytes of ASCII stand for nothing but themselves:
a byte below `0x80` among the bytes of a character is all of them. And the bytes of texts are in the
order of the texts (`encode_lt`).
-/

namespace SqlppBench.Utf8

theorem encodeChars_cons (c : Char) (s : List Char) :
    encodeChars (c :: s) = String.utf8EncodeChar c ++ encodeChars s := rfl

@[simp] theorem encodeChars_append (s t : List Char) :
    encodeChars (s ++ t) = encodeChars s ++ encodeChars t :=
  List.flatMap_append

@[simp] theorem encode_eq_nil_iff {s : String} : encode s = [] ↔ s = "" := by
  rw [encode, ← String.toList_eq_nil_iff]
  cases s.toList with
  | nil => simp [encodeChars]
  | cons c s => simp [encodeChars_cons, String.utf8EncodeChar_ne_nil]

/-! ## Characters -/

/-- The first byte of a character, as a number. -/
theorem head_ofNat {n : Nat} (h : n < 256) (rest : Bytes) :
    head (UInt8.ofNat n) rest =
      if n < 0x80 then .char (Char.ofNat n) rest
      else if n < 0xC2 then .malformed rest
      else if n < 0xE0 then tail (n - 0xC0) 0x80 0xBF 1 rest
      else if n = 0xE0 then tail 0 0xA0 0xBF 2 rest
      else if n = 0xED then tail 0xD 0x80 0x9F 2 rest
      else if n < 0xF0 then tail (n - 0xE0) 0x80 0xBF 2 rest
      else if n = 0xF0 then tail 0 0x90 0xBF 3 rest
      else if n < 0xF4 then tail (n - 0xF0) 0x80 0xBF 3 rest
      else if n = 0xF4 then tail 4 0x80 0x8F 3 rest
      else .malformed rest := by
  have htoNat : (UInt8.ofNat n).toNat = n := UInt8.toNat_ofNat_of_lt' h
  simp only [head, UInt8.lt_iff_toNat_lt, beq_iff_eq, ← UInt8.toNat_inj, htoNat,
    UInt8.reduceToNat]

/-- A later byte of a character that carries six bits of a number. -/
theorem tail_ofNat (code m n : Nat) {low high : UInt8} (rest : Bytes)
    (hlow : low.toNat ≤ m % 64 + 128) (hhigh : m % 64 + 128 ≤ high.toNat) :
    tail code low high (n + 1) (UInt8.ofNat (m % 64 + 128) :: rest) =
      tail (code * 64 + m % 64) 0x80 0xBF n rest := by
  have htoNat : (UInt8.ofNat (m % 64 + 128)).toNat = m % 64 + 128 :=
    UInt8.toNat_ofNat_of_lt' (by simp [UInt8.size]; omega)
  have hwithin :
      (low ≤ UInt8.ofNat (m % 64 + 128) && UInt8.ofNat (m % 64 + 128) ≤ high) = true := by
    simp only [UInt8.le_iff_toNat_le, htoNat, hlow, hhigh, decide_true, Bool.and_self]
  rw [tail, if_pos hwithin, htoNat, Nat.add_sub_cancel]

/-- Nothing is left to read of a character. -/
theorem tail_zero {code v : Nat} {c : Char} (hc : Char.ofNat v = c) (hcode : code = v)
    (low high : UInt8) (rest : Bytes) : tail code low high 0 rest = .char c rest := by
  rw [tail, hcode, hc]

/-- One byte is left to read of a character. -/
theorem tail_one {code v : Nat} {c : Char} {low high : UInt8} (hc : Char.ofNat v = c)
    (hcode : code = v / 64) (hlow : low.toNat ≤ v % 64 + 128) (hhigh : v % 64 + 128 ≤ high.toNat)
    (rest : Bytes) :
    tail code low high 1 (UInt8.ofNat (v % 64 + 128) :: rest) = .char c rest := by
  rw [tail_ofNat _ _ _ _ hlow hhigh]
  exact tail_zero hc (by omega) _ _ _

/-- Two bytes are left to read of a character. -/
theorem tail_two {code v : Nat} {c : Char} {low high : UInt8} (hc : Char.ofNat v = c)
    (hcode : code = v / 4096) (hlow : low.toNat ≤ v / 64 % 64 + 128)
    (hhigh : v / 64 % 64 + 128 ≤ high.toNat) (rest : Bytes) :
    tail code low high 2
        (UInt8.ofNat (v / 64 % 64 + 128) :: UInt8.ofNat (v % 64 + 128) :: rest) =
      .char c rest := by
  rw [tail_ofNat _ _ _ _ hlow hhigh]
  exact tail_one hc (by omega) (by simp) (by simp; omega) _

/-- Three bytes are left to read of a character. -/
theorem tail_three {code v : Nat} {c : Char} {low high : UInt8} (hc : Char.ofNat v = c)
    (hcode : code = v / 262144) (hlow : low.toNat ≤ v / 4096 % 64 + 128)
    (hhigh : v / 4096 % 64 + 128 ≤ high.toNat) (rest : Bytes) :
    tail code low high 3 (UInt8.ofNat (v / 4096 % 64 + 128) ::
        UInt8.ofNat (v / 64 % 64 + 128) :: UInt8.ofNat (v % 64 + 128) :: rest) =
      .char c rest := by
  rw [tail_ofNat _ _ _ _ hlow hhigh]
  exact tail_two hc (by omega) (by simp) (by simp; omega) _

/-- A character is read off the front of a text. -/
theorem head_utf8EncodeChar (c : Char) (rest : Bytes) :
    ∃ b s, String.utf8EncodeChar c = b :: s ∧ head b (s ++ rest) = .char c rest := by
  have hc : Char.ofNat c.val.toNat = c := Char.ofNat_toNat c
  have hvalid := c.valid
  simp only [UInt32.isValidChar, Nat.isValidChar] at hvalid
  unfold String.utf8EncodeChar
  generalize c.val.toNat = v at *
  dsimp only
  split
  · refine ⟨_, _, rfl, ?_⟩
    rw [List.nil_append, head_ofNat (by omega), if_pos (by omega), hc]
  split
  · refine ⟨_, _, rfl, ?_⟩
    rw [head_ofNat (by omega), if_neg (by omega), if_neg (by omega), if_pos (by omega)]
    exact tail_one hc (by omega) (by simp) (by simp; omega) rest
  split
  · refine ⟨_, _, rfl, ?_⟩
    rw [head_ofNat (by omega), if_neg (by omega), if_neg (by omega), if_neg (by omega)]
    split
    -- behind `0xE0` the second byte is not small, or two bytes would do; behind `0xED` it is not
    -- great, or the character would be a surrogate
    · exact tail_two hc (by omega) (by simp; omega) (by simp; omega) rest
    split
    · exact tail_two hc (by omega) (by simp) (by simp; omega) rest
    · rw [if_pos (by omega)]
      exact tail_two hc (by omega) (by simp) (by simp; omega) rest
  · refine ⟨_, _, rfl, ?_⟩
    rw [head_ofNat (by omega), if_neg (by omega), if_neg (by omega), if_neg (by omega),
      if_neg (by omega), if_neg (by omega), if_neg (by omega)]
    split
    · exact tail_three hc (by omega) (by simp; omega) (by simp; omega) rest
    split
    · exact tail_three hc (by omega) (by simp) (by simp; omega) rest
    · rw [if_pos (by omega)]
      exact tail_three hc (by omega) (by simp) (by simp; omega) rest

/-! ## Texts -/

/-- What was written is read back. -/
theorem decodeChars?_encodeChars (s : List Char) : decodeChars? (encodeChars s) = some s := by
  induction s with
  | nil => simp [encodeChars, decodeChars?]
  | cons c s ih =>
      obtain ⟨b, later, hbytes, hhead⟩ := head_utf8EncodeChar c (encodeChars s)
      rw [encodeChars_cons, hbytes, List.cons_append, decodeChars?]
      split
      · rename_i c' rest hread
        rw [hhead] at hread
        cases hread
        rw [ih]
        rfl
      · rename_i rest hread
        rw [hhead] at hread
        cases hread

/-- What was written is read back. -/
@[simp] theorem decode?_encode (s : String) : decode? (encode s) = some s := by
  rw [decode?, encode, decodeChars?_encodeChars, Option.map_some, String.ofList_toList]

/-- Nothing is replaced in what was written. -/
theorem decodeCharsLossy_encodeChars (s : List Char) : decodeCharsLossy (encodeChars s) = s := by
  induction s with
  | nil => simp [encodeChars, decodeCharsLossy]
  | cons c s ih =>
      obtain ⟨b, later, hbytes, hhead⟩ := head_utf8EncodeChar c (encodeChars s)
      rw [encodeChars_cons, hbytes, List.cons_append, decodeCharsLossy]
      split
      · rename_i c' rest hread
        rw [hhead] at hread
        cases hread
        rw [ih]
      · rename_i rest hread
        rw [hhead] at hread
        cases hread

/-- What bytes begin with, if they were written. -/
theorem exists_head_of_encode {s : String} {b : UInt8} {rest : Bytes} (h : encode s = b :: rest) :
    ∃ c later, s.toList = c :: later ∧ head b rest = .char c (encodeChars later) := by
  rw [encode] at h
  cases hs : s.toList with
  | nil => simp [hs, encodeChars] at h
  | cons c later =>
      obtain ⟨b', after, hbytes, hhead⟩ := head_utf8EncodeChar c (encodeChars later)
      rw [hs, encodeChars_cons, hbytes, List.cons_append] at h
      obtain ⟨rfl, rfl⟩ := List.cons.inj h
      exact ⟨c, later, rfl, hhead⟩

/-- A text that does not begin with a byte order mark is the text of a body that holds it. -/
theorem decodeBody_encode {s : String} (h : s.toList.head? ≠ some '\uFEFF') :
    decodeBody (encode s) = s := by
  have hlossy : decodeLossy (encode s) = s := by
    rw [decodeLossy, encode, decodeCharsLossy_encodeChars, String.ofList_toList]
  unfold decodeBody
  split
  · rename_i rest hbytes
    obtain ⟨c, later, hs, hhead⟩ := exists_head_of_encode hbytes
    have hmark : head 0xEF (0xBB :: 0xBF :: rest) = .char '\uFEFF' rest := rfl
    rw [hmark] at hhead
    obtain ⟨rfl, -⟩ := Head.char.inj hhead
    exact absurd (congrArg List.head? hs) h
  · rename_i rest hbytes
    obtain ⟨c, later, -, hhead⟩ := exists_head_of_encode hbytes
    cases hhead
  · rename_i rest hbytes
    obtain ⟨c, later, -, hhead⟩ := exists_head_of_encode hbytes
    cases hhead
  · exact hlossy

/-! ## The order of bytes -/

/-- Bytes are compared as the numbers that they are. -/
theorem ofNat_cons_lt_iff {m n : Nat} (hm : m < 256) (hn : n < 256) (s t : Bytes) :
    UInt8.ofNat m :: s < UInt8.ofNat n :: t ↔ m < n ∨ m = n ∧ s < t := by
  have htoNat {k : Nat} (hk : k < 256) : (UInt8.ofNat k).toNat = k := UInt8.toNat_ofNat_of_lt' hk
  rw [List.cons_lt_cons_iff, UInt8.lt_iff_toNat_lt, ← UInt8.toNat_inj, htoNat hm, htoNat hn]

/-- The bytes of characters are in the order of the characters, whatever follows them. -/
theorem utf8EncodeChar_lt {c d : Char} (h : c < d) (s t : Bytes) :
    String.utf8EncodeChar c ++ s < String.utf8EncodeChar d ++ t := by
  have hlt : c.val.toNat < d.val.toNat := UInt32.lt_iff_toNat_lt.1 h
  have hd := d.valid
  simp only [UInt32.isValidChar, Nat.isValidChar] at hd
  -- each byte but the first carries the next six bits
  have hhigh (n : Nat) : n / 262144 = n / 4096 / 64 := by omega
  have hmiddle (n : Nat) : n / 4096 = n / 64 / 64 := by omega
  unfold String.utf8EncodeChar
  generalize c.val.toNat = v at *
  generalize d.val.toNat = w at *
  dsimp only
  repeat' split
  all_goals
    simp (disch := omega) only [List.cons_append, List.nil_append, ofNat_cons_lt_iff, hhigh,
      hmiddle]
    omega

/-- The bytes of texts are in the order of the texts. -/
theorem encode_lt {s t : String} (h : s < t) : encode s < encode t := by
  rw [encode, encode]
  rw [String.lt_iff] at h
  generalize s.toList = s at h
  generalize t.toList = t at h
  induction h with
  | @nil c t =>
      obtain ⟨b, later, hbytes, -⟩ := head_utf8EncodeChar c []
      rw [encodeChars_cons, hbytes]
      exact List.Lex.nil
  | rel hlt => exact utf8EncodeChar_lt hlt _ _
  | cons _ ih => exact List.append_left_lt ih

/-! ## Bytes of ASCII -/

/-- A character of ASCII is one byte. -/
theorem utf8EncodeChar_ascii {c : Char} (h : c.toNat < 0x80) :
    String.utf8EncodeChar c = [UInt8.ofNat c.toNat] := by
  have hle : c.val.toNat ≤ 0x7F := Nat.le_of_lt_succ h
  simp only [String.utf8EncodeChar, hle, if_true]
  rfl

/-- The bytes of a text of ASCII are its characters. -/
theorem encodeChars_ascii {s : List Char} (h : ∀ c ∈ s, c.toNat < 0x80) :
    encodeChars s = s.map fun c => UInt8.ofNat c.toNat := by
  induction s with
  | nil => rfl
  | cons c s ih =>
      rw [encodeChars_cons, utf8EncodeChar_ascii (h c (by simp)),
        ih fun d hd => h d (List.mem_cons_of_mem c hd)]
      rfl

/-- A byte of ASCII among those of a character is the character. -/
theorem eq_of_mem_utf8EncodeChar {c : Char} {b : UInt8} (h : b ∈ String.utf8EncodeChar c)
    (hb : b.toNat < 0x80) : c = Char.ofNat b.toNat := by
  have hc : Char.ofNat c.val.toNat = c := Char.ofNat_toNat c
  have hvalid := c.valid
  simp only [UInt32.isValidChar, Nat.isValidChar] at hvalid
  unfold String.utf8EncodeChar at h
  generalize c.val.toNat = v at *
  dsimp only at h
  -- all bytes of a longer character are 128 at least
  have later {n : Nat} (hn : 128 ≤ n) (hlt : n < 256) : b ≠ UInt8.ofNat n := by
    intro heq
    rw [heq, UInt8.toNat_ofNat_of_lt' hlt] at hb
    omega
  split at h
  · rw [List.mem_singleton.1 h, UInt8.toNat_ofNat_of_lt' (by simp [UInt8.size]; omega), hc]
  split at h
  · simp only [List.mem_cons, List.not_mem_nil, or_false] at h
    rcases h with h | h <;> exact absurd h (later (by omega) (by omega))
  split at h
  · simp only [List.mem_cons, List.not_mem_nil, or_false] at h
    rcases h with h | h | h <;> exact absurd h (later (by omega) (by omega))
  · simp only [List.mem_cons, List.not_mem_nil, or_false] at h
    rcases h with h | h | h | h <;> exact absurd h (later (by omega) (by omega))

/-- A byte of ASCII among those of a text is one of its characters. -/
theorem mem_of_mem_encodeChars {s : List Char} {b : UInt8} (h : b ∈ encodeChars s)
    (hb : b.toNat < 0x80) : Char.ofNat b.toNat ∈ s := by
  obtain ⟨c, hc, hmem⟩ := List.mem_flatMap.1 h
  rw [← eq_of_mem_utf8EncodeChar hmem hb]
  exact hc

/-- No byte of ASCII is taken as a later byte of a character. -/
theorem exists_of_tail {code n : Nat} {low high : UInt8} {s rest : Bytes} {c : Char}
    (hlow : 0x80 ≤ low.toNat) (h : tail code low high n s = .char c rest) :
    ∃ taken, s = taken ++ rest ∧ ∀ b ∈ taken, 0x80 ≤ b.toNat := by
  induction n generalizing code low high s with
  | zero =>
      cases h
      exact ⟨[], rfl, nofun⟩
  | succ n ih =>
      cases s with
      | nil => cases h
      | cons b s =>
          rw [tail] at h
          split at h
          · rename_i hwithin
            obtain ⟨taken, rfl, htaken⟩ := ih (by decide) h
            refine ⟨b :: taken, rfl, ?_⟩
            rintro x (_ | ⟨_, hx⟩)
            · simp only [Bool.and_eq_true, decide_eq_true_eq, UInt8.le_iff_toNat_le] at hwithin
              exact Nat.le_trans hlow hwithin.1
            · exact htaken x hx
          · cases h

/-- A character is read from a byte of ASCII, or from bytes of which none is of ASCII. -/
theorem head_eq_char {b : UInt8} {s rest : Bytes} {c : Char} (h : head b s = .char c rest) :
    (b.toNat < 0x80 ∧ c = Char.ofNat b.toNat ∧ rest = s) ∨
      (0x80 ≤ b.toNat ∧ ∃ taken, s = taken ++ rest ∧ ∀ x ∈ taken, 0x80 ≤ x.toNat) := by
  unfold head at h
  split at h
  · rename_i hb
    cases h
    exact .inl ⟨UInt8.lt_iff_toNat_lt.1 hb, rfl, rfl⟩
  · rename_i hb
    refine .inr ⟨Nat.not_lt.1 fun hlt => hb (UInt8.lt_iff_toNat_lt.2 hlt), ?_⟩
    repeat' split at h
    all_goals first
      | exact exists_of_tail (by decide) h
      | cases h

/-- A byte of ASCII in a text that is read is one of its characters. -/
theorem mem_of_decodeChars? {bytes : Bytes} {s : List Char} (h : decodeChars? bytes = some s)
    {b : UInt8} (hb : b ∈ bytes) (hlt : b.toNat < 0x80) : Char.ofNat b.toNat ∈ s := by
  induction hn : bytes.length using Nat.strongRecOn generalizing bytes s with
  | ind n ih =>
      cases bytes with
      | nil => cases hb
      | cons first bytes =>
          rw [decodeChars?] at h
          split at h
          · rename_i c rest hhead
            obtain ⟨s, hrest, rfl⟩ := Option.map_eq_some_iff.1 h
            have hshort : rest.length < n := by
              have hle := length_rest_head first bytes
              rw [hhead, Head.rest_char] at hle
              simp only [List.length_cons] at hn
              omega
            have hlater (hmem : b ∈ rest) : Char.ofNat b.toNat ∈ c :: s :=
              List.mem_cons_of_mem c (ih _ hshort hrest hmem rfl)
            rcases head_eq_char hhead with ⟨-, rfl, rfl⟩ | ⟨hfirst, taken, rfl, htaken⟩
            · rcases List.mem_cons.1 hb with rfl | hb
              · exact List.mem_cons_self
              · exact hlater hb
            · rcases List.mem_cons.1 hb with rfl | hb
              · exact absurd hlt (Nat.not_lt.2 hfirst)
              rcases List.mem_append.1 hb with hb | hb
              · exact absurd hlt (Nat.not_lt.2 (htaken b hb))
              · exact hlater hb
          · cases h

/-- The number of the character that a byte is in ASCII. -/
theorem toNat_ofNat_byte (b : UInt8) : (Char.ofNat b.toNat).toNat = b.toNat := by
  have hb : b.toNat < 256 := b.toNat_lt_size
  have hvalid : b.toNat.isValidChar := .inl (by omega)
  rw [Char.ofNat, dif_pos hvalid]
  rfl

/-- A text whose bytes are all of ASCII is of ASCII. -/
theorem ascii_of_encodeChars {s : List Char} (h : ∀ b ∈ encodeChars s, b.toNat < 0x80) :
    ∀ c ∈ s, c.toNat < 0x80 := by
  intro c hc
  obtain ⟨b, later, hbytes, -⟩ := head_utf8EncodeChar c []
  have hfirst : b ∈ String.utf8EncodeChar c := by simp [hbytes]
  have hb := h b (List.mem_flatMap.2 ⟨c, hc, hfirst⟩)
  rw [eq_of_mem_utf8EncodeChar hfirst hb, toNat_ofNat_byte]
  exact hb

end SqlppBench.Utf8
