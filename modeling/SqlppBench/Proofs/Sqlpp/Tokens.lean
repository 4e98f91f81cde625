import Mathlib.Data.List.Basic
import SqlppBench.Connector.Catalog
import SqlppBench.Proofs.Sqlpp.Keys

/-! # Names in statements

A statement falls into words, which are as long as can be, and marks. The names of a scope and of a
relation are words of their own in every statement, whatever the key and the fields of the schema
are called (`Target.namesAreWords`). If these are words, too, then the names are outside of all
literals (`Target.IsProper.namesAreOutside`). The questions to the catalog have the names in
literals, which they fill as single words (`Catalog.RelationName.namesAreWords`).
-/

namespace SqlppBench.Sqlpp

/-! ## Tokens -/

/-- A part of a statement. -/
inductive Token where
  /-- Letters, digits and underscores with none of them in front or behind. -/
  | run (chars : List Char)
  /-- Another character, but not a blank. -/
  | mark (c : Char)
  /-- A string literal. -/
  | literal
deriving DecidableEq, Repr

/-- A word. -/
def Token.word (s : String) : Token := .run s.toList

/-- Whether a character can belong to a word. All but those of ASCII may. -/
def isWordChar (c : Char) : Bool :=
  c.isAlphanum || c == '_' || c == '$' || decide (0x80 ≤ c.toNat)

/-- Whether a word goes on with a text. -/
def startsWord (s : List (Option Char)) : Bool :=
  s.head?.any fun c => c.any isWordChar

/-- Whether a text ends within a word. -/
def endsWord (s : List (Option Char)) : Bool :=
  s.getLast?.any fun c => c.any isWordChar

/-- Puts a character in front of the word that is first. -/
def lengthen (c : Char) : List Token → List Token
  | .run chars :: rest => .run (c :: chars) :: rest
  | rest => .run [c] :: rest

/-- The tokens of a text in which there may be gaps for literals. -/
def tokens : List (Option Char) → List Token
  | [] => []
  | none :: s => .literal :: tokens s
  | some c :: s =>
    if isWordChar c then
      if startsWord s then lengthen c (tokens s) else .run [c] :: tokens s
    else if c = ' ' then tokens s
    else .mark c :: tokens s

/-- The characters of a text without gaps. -/
def shown (s : String) : List (Option Char) :=
  s.toList.map some

/-- The tokens of a text as it is written, where a quote is a mark like any other. -/
def tokensOf (s : String) : List Token :=
  tokens (shown s)

@[simp] theorem shown_append (s t : String) : shown (s ++ t) = shown s ++ shown t := by
  simp [shown]

theorem shown_intercalate (sep : String) (parts : List String) :
    shown (sep.intercalate parts) = (shown sep).intercalate (parts.map shown) := by
  induction parts with
  | nil => rfl
  | cons part parts ih =>
      cases parts with
      | nil => simp
      | cons next parts =>
          rw [String.intercalate_cons_cons, shown_append, shown_append, ih]
          simp only [List.map_cons, List.intercalate_cons_cons]

theorem lengthen_append (c : Char) {ts : List Token} (h : ts ≠ []) (rest : List Token) :
    lengthen c (ts ++ rest) = lengthen c ts ++ rest := by
  cases ts with
  | nil => exact absurd rfl h
  | cons t ts => cases t <;> rfl

theorem tokens_ne_nil {s : List (Option Char)} (h : startsWord s = true) : tokens s ≠ [] := by
  cases s with
  | nil => cases h
  | cons x s =>
      cases x with
      | none => cases h
      | some c =>
          have hc : isWordChar c = true := h
          rw [tokens, if_pos hc]
          split
          · cases tokens s with
            | nil => exact nofun
            | cons t ts => cases t <;> exact nofun
          · exact nofun

/-- Texts are read one after the other, unless a word is cut. -/
theorem tokens_append {s rest : List (Option Char)} (h : (endsWord s && startsWord rest) = false) :
    tokens (s ++ rest) = tokens s ++ tokens rest := by
  induction s with
  | nil => rfl
  | cons x s ih =>
      cases hs : s with
      | nil =>
          cases x with
          | none => rfl
          | some c =>
              have hc : isWordChar c = true → startsWord rest = false := by
                intro hc
                simpa [hs, endsWord, hc] using h
              rw [List.singleton_append, tokens, tokens]
              split
              · rename_i hword
                rw [hc hword]
                rfl
              · split <;> rfl
      | cons y s' =>
          rw [← hs]
          have hends : endsWord (x :: s) = endsWord s := by
            rw [endsWord, endsWord, hs, List.getLast?_cons_cons]
          have hstarts : startsWord (s ++ rest) = startsWord s := by
            rw [hs]
            rfl
          have ih := ih (hends ▸ h)
          cases x with
          | none =>
              rw [List.cons_append, tokens, tokens, ih]
              rfl
          | some c =>
              rw [List.cons_append, tokens, tokens, hstarts, ih]
              split
              · split
                · rename_i hword
                  exact lengthen_append c (tokens_ne_nil hword) _
                · rfl
              · split <;> rfl

theorem tokens_append_of_end {s : List (Option Char)} (h : endsWord s = false)
    (rest : List (Option Char)) : tokens (s ++ rest) = tokens s ++ tokens rest :=
  tokens_append (by rw [h, Bool.false_and])

theorem tokens_append_of_start {s rest : List (Option Char)} (h : startsWord rest = false) :
    tokens (s ++ rest) = tokens s ++ tokens rest :=
  tokens_append (by rw [h, Bool.and_false])

/-- A text that begins with a mark does not go on with a word. -/
theorem startsWord_of_head {s : String} (c : Char) (h : s.toList.head? = some c)
    (hmark : isWordChar c = false) : startsWord (shown s) = false := by
  simp [startsWord, shown, List.head?_map, h, hmark]

theorem startsWord_append {s rest : List (Option Char)} (hs : startsWord s = false)
    (hrest : startsWord rest = false) : startsWord (s ++ rest) = false := by
  cases s with
  | nil => exact hrest
  | cons c s => exact hs

/-- Characters of words are one word. -/
theorem tokens_word {c : Char} {w : List Char} (h : ∀ d ∈ c :: w, isWordChar d = true) :
    tokens ((c :: w).map some) = [.run (c :: w)] := by
  induction w generalizing c with
  | nil =>
      rw [List.map_singleton, tokens, if_pos (h c (by simp))]
      rfl
  | cons d w ih =>
      have others := ih fun a ha => h a (List.mem_cons_of_mem c ha)
      have hstarts : startsWord ((d :: w).map some) = true := h d (by simp)
      rw [List.map_cons, tokens, if_pos (h c (by simp)), if_pos hstarts, others]
      rfl

/-- The name of a scope or a relation is one word. -/
theorem tokensOf_name {name : String} (h : isValidName name = true) :
    tokensOf name = [.word name] := by
  have hchars := isAlphanum_of_isValidName h
  rw [tokensOf, shown, Token.word]
  cases hname : name.toList with
  | nil => simp [isValidName, hname] at h
  | cons c w =>
      rw [hname] at hchars
      refine tokens_word fun d hd => ?_
      rw [isWordChar, hchars d hd]
      rfl

open Token (mark word)

/-- A name is one word in front of what is none. -/
theorem tokens_name_append {name : String} (h : isValidName name = true)
    {rest : List (Option Char)} (hstart : startsWord rest = false) :
    tokens (shown name ++ rest) = word name :: tokens rest := by
  rw [tokens_append_of_start hstart, ← tokensOf, tokensOf_name h]
  rfl

namespace Target

/-! ## Statements as they are written -/

/-- The tokens of the clause that opens every statement. -/
def useTokens (t : Target) : List Token :=
  [word "USE", word t.scope, mark ';']

/-- The tokens of a lookup up to the comparison of the key. -/
def selectionTokens (t : Target) (columns : String) : List Token :=
  word "SELECT" :: tokensOf columns ++ [word "FROM", word t.relation, word "WHERE"] ++
    tokensOf t.primaryKey

/-- In every statement the names of the scope and the relation are words at the places that are
meant for them. -/
structure NamesAreWords (t : Target) : Prop where
  read : ∀ key fields, tokensOf (t.read key fields) =
    t.useTokens ++ t.selectionTokens (t.columns fields) ++
      tokensOf ("=" ++ quoteLiteral key ++ ";")
  scan : ∀ start count fields, tokensOf (t.scan start count fields) =
    t.useTokens ++ t.selectionTokens (t.columns fields) ++
      tokensOf (">=" ++ quoteLiteral start ++ " ORDER BY " ++ t.primaryKey ++ " LIMIT " ++
        Text.decimal count ++ ";")
  delete : ∀ key, tokensOf (t.delete key) =
    t.useTokens ++ [word "DELETE", word "FROM", word t.relation, word "WHERE"] ++
      tokensOf (t.primaryKey ++ "=" ++ quoteLiteral key ++ ";")
  insert : ∀ keyword ∈ ["INSERT", "UPSERT"], ∀ literals, tokensOf (t.insert keyword literals) =
    t.useTokens ++ [word keyword, word "INTO", word t.relation, mark '(', mark '['] ++
      tokensOf (",".intercalate literals ++ "]);")
  update : ∀ fields writes, tokensOf (t.upsertProjections (t.projections fields writes)) =
    t.useTokens ++ [word "UPSERT", word "INTO", word t.relation, mark '('] ++
      [word "UNION", word "ALL"].intercalate (writes.map fun (key, values) =>
        t.selectionTokens (t.columns (fields.map (updatedColumn values))) ++
          tokensOf ("=" ++ quoteLiteral key)) ++
      [mark ')', mark ';']

variable {t : Target}

theorem tokens_use (hscope : isValidName t.scope = true) (rest : List (Option Char)) :
    tokens (shown t.use ++ rest) = t.useTokens ++ tokens rest := by
  have huse : shown t.use ++ rest = shown "USE " ++ (shown t.scope ++ (shown ";" ++ rest)) := by
    simp [use]
  rw [huse, tokens_append_of_end (by decide), tokens_name_append hscope (by rfl),
    tokens_append_of_end (by decide)]
  rfl

theorem tokens_where (rest : List (Option Char)) :
    tokens (shown " WHERE " ++ rest) = word "WHERE" :: tokens rest := by
  have hwhere : tokens (shown " WHERE ") = [word "WHERE"] := by decide
  rw [tokens_append_of_end (by decide), hwhere, List.singleton_append]

theorem tokens_selection (hrelation : isValidName t.relation = true) (columns : String)
    {rest : List (Option Char)} (hstart : startsWord rest = false) :
    tokens (shown (t.selection columns) ++ rest) = t.selectionTokens columns ++ tokens rest := by
  have hselection : shown (t.selection columns) ++ rest = shown "SELECT " ++ (shown columns ++
      (shown " FROM " ++ (shown t.relation ++
        (shown " WHERE " ++ (shown t.primaryKey ++ rest))))) := by
    simp [selection]
  rw [hselection, tokens_append_of_end (by decide), tokens_append_of_start (by rfl),
    tokens_append_of_end (by decide), tokens_name_append hrelation (by rfl),
    tokens_where, tokens_append_of_start hstart]
  have hselect : tokens (shown "SELECT ") = [word "SELECT"] := by decide
  have hfrom : tokens (shown " FROM ") = [word "FROM"] := by decide
  rw [hselect, hfrom]
  simp [selectionTokens, tokensOf]

/-- `UNION ALL` stands between blanks, so it belongs to neither of the texts around it. -/
theorem tokens_unionAll (parts : List (List (Option Char))) :
    tokens ((shown " UNION ALL ").intercalate parts) =
      [word "UNION", word "ALL"].intercalate (parts.map tokens) := by
  have hunion : tokens (shown " UNION ALL ") = [word "UNION", word "ALL"] := by decide
  induction parts with
  | nil => rfl
  | cons part parts ih =>
      cases parts with
      | nil => simp
      | cons next parts =>
          rw [List.intercalate_cons_cons, List.append_assoc, tokens_append_of_start (by rfl),
            tokens_append_of_end (by decide), hunion, ih]
          simp only [List.map_cons, List.intercalate_cons_cons, List.append_assoc]

theorem tokens_deleteFrom (hscope : isValidName t.scope = true)
    (hrelation : isValidName t.relation = true) (rest : List (Option Char)) :
    tokens (shown (t.use ++ "DELETE FROM " ++ t.relation ++ " WHERE ") ++ rest) =
      t.useTokens ++ [word "DELETE", word "FROM", word t.relation, word "WHERE"] ++
        tokens rest := by
  have hfront : tokens (shown "DELETE FROM ") = [word "DELETE", word "FROM"] := by decide
  simp only [shown_append, List.append_assoc]
  rw [tokens_use hscope, tokens_append_of_end (by decide), hfront,
    tokens_name_append hrelation (by rfl), tokens_where]
  rfl

theorem tokens_upsertInto (hscope : isValidName t.scope = true)
    (hrelation : isValidName t.relation = true) (parts : List (List (Option Char))) :
    tokens (shown (t.use ++ "UPSERT INTO " ++ t.relation ++ " (") ++
        ((shown " UNION ALL ").intercalate parts ++ shown ");")) =
      t.useTokens ++ [word "UPSERT", word "INTO", word t.relation, mark '('] ++
        [word "UNION", word "ALL"].intercalate (parts.map tokens) ++ [mark ')', mark ';'] := by
  have hfront : tokens (shown "UPSERT INTO ") = [word "UPSERT", word "INTO"] := by decide
  have hopen : tokens (shown " (") = [mark '('] := by decide
  have hclose : tokens (shown ");") = [mark ')', mark ';'] := by decide
  simp only [shown_append, List.append_assoc]
  rw [tokens_use hscope, tokens_append_of_end (by decide), hfront,
    tokens_name_append hrelation (by rfl), tokens_append_of_end (by decide), hopen,
    tokens_append_of_start (by decide), hclose, tokens_unionAll]
  rfl

/-- The names are words in every statement, whatever else is in it. -/
theorem namesAreWords (hscope : isValidName t.scope = true)
    (hrelation : isValidName t.relation = true) : t.NamesAreWords where
  read key fields := by
    have hread : shown (t.read key fields) = shown t.use ++
        (shown (t.selection (t.columns fields)) ++ shown ("=" ++ quoteLiteral key ++ ";")) := by
      simp [read]
    have hstart : startsWord (shown ("=" ++ quoteLiteral key ++ ";")) = false :=
      startsWord_of_head '=' (by simp) (by decide)
    rw [tokensOf, hread, tokens_use hscope, tokens_selection hrelation _ hstart,
      List.append_assoc, tokensOf]
  scan start count fields := by
    have hscan : shown (t.scan start count fields) = shown t.use ++
        (shown (t.selection (t.columns fields)) ++ shown (">=" ++ quoteLiteral start ++
          " ORDER BY " ++ t.primaryKey ++ " LIMIT " ++ Text.decimal count ++ ";")) := by
      simp [scan]
    have hstart : startsWord (shown (">=" ++ quoteLiteral start ++ " ORDER BY " ++ t.primaryKey ++
        " LIMIT " ++ Text.decimal count ++ ";")) = false :=
      startsWord_of_head '>' (by simp) (by decide)
    rw [tokensOf, hscan, tokens_use hscope, tokens_selection hrelation _ hstart,
      List.append_assoc, tokensOf]
  delete key := by
    have hdelete : shown (t.delete key) =
        shown (t.use ++ "DELETE FROM " ++ t.relation ++ " WHERE ") ++
          shown (t.primaryKey ++ "=" ++ quoteLiteral key ++ ";") := by
      simp [delete]
    rw [tokensOf, hdelete, tokens_deleteFrom hscope hrelation, tokensOf]
  insert keyword hkeyword literals := by
    have hinsert : shown (t.insert keyword literals) = shown t.use ++ (shown keyword ++
        (shown " INTO " ++ (shown t.relation ++ (shown " ([" ++
          shown (",".intercalate literals ++ "]);"))))) := by
      simp [insert]
    have hname : isValidName keyword = true := by
      rcases List.mem_pair.1 hkeyword with rfl | rfl <;> decide
    have hinto : tokens (shown " INTO ") = [word "INTO"] := by decide
    have hlist : tokens (shown " ([") = [mark '(', mark '['] := by decide
    rw [tokensOf, hinsert, tokens_use hscope, tokens_name_append hname (by rfl),
      tokens_append_of_end (by decide), hinto, tokens_name_append hrelation (by rfl),
      tokens_append_of_end (by decide), hlist]
    simp [tokensOf]
  update fields writes := by
    have hupdate : shown (t.upsertProjections (t.projections fields writes)) =
        shown (t.use ++ "UPSERT INTO " ++ t.relation ++ " (") ++
          ((shown " UNION ALL ").intercalate ((t.projections fields writes).map shown) ++
            shown ");") := by
      simp [upsertProjections, shown_intercalate]
    have hprojections : ((t.projections fields writes).map shown).map tokens =
        writes.map fun (key, values) =>
          t.selectionTokens (t.columns (fields.map (updatedColumn values))) ++
            tokensOf ("=" ++ quoteLiteral key) := by
      rw [projections, List.map_map, List.map_map]
      refine List.map_congr_left fun write _ => ?_
      obtain ⟨key, values⟩ := write
      have hstart : startsWord (shown ("=" ++ quoteLiteral key)) = false :=
        startsWord_of_head '=' (by simp) (by decide)
      have hprojection : shown (t.updateProjection key fields values) =
          shown (t.selection (t.columns (fields.map (updatedColumn values)))) ++
            shown ("=" ++ quoteLiteral key) := by
        simp [updateProjection]
      simp only [Function.comp_apply]
      rw [hprojection, tokens_selection hrelation _ hstart, tokensOf]
    rw [tokensOf, hupdate, tokens_upsertInto hscope hrelation, hprojections]

/-! ## Statements as they are read -/

/-- A reader finds no literals but the keys in the statements over a schema, and what it finds
outside of them are the same words as in the text. -/
structure NamesAreOutside (t : Target) (fields : List String) : Prop where
  read : ∀ key, ∃ outside, read? (t.read key fields) = some ⟨outside, [key]⟩ ∧
    tokens outside = t.useTokens ++ t.selectionTokens (t.columns fields) ++
      [mark '=', .literal, mark ';']
  scan : ∀ start count, ∃ outside, read? (t.scan start count fields) = some ⟨outside, [start]⟩ ∧
    tokens outside = t.useTokens ++ t.selectionTokens (t.columns fields) ++
      [mark '>', mark '=', .literal] ++
        tokensOf (" ORDER BY " ++ t.primaryKey ++ " LIMIT " ++ Text.decimal count ++ ";")
  delete : ∀ key, ∃ outside, read? (t.delete key) = some ⟨outside, [key]⟩ ∧
    tokens outside =
      t.useTokens ++ [word "DELETE", word "FROM", word t.relation, word "WHERE"] ++
        tokensOf t.primaryKey ++ [mark '=', .literal, mark ';']
  update : ∀ writes, ∃ outside, read? (t.upsertProjections (t.projections fields writes)) =
      some ⟨outside, writes.map Prod.fst⟩ ∧
    tokens outside = t.useTokens ++ [word "UPSERT", word "INTO", word t.relation, mark '('] ++
      [word "UNION", word "ALL"].intercalate (writes.map fun (_, values) =>
        t.selectionTokens (t.columns (fields.map (updatedColumn values))) ++
          [mark '=', .literal]) ++
      [mark ')', mark ';']

variable {fields : List String}

/-- A lookup is read up to its key, then the key, and then the rest. -/
theorem IsProper.read?_lookup (h : t.IsProper) (hfields : ∀ field ∈ fields, IsWord field)
    {comparison after : String} (hcomparison : IsPlain comparison) (hafter : IsPlain after)
    (hquote : after.toList.head? ≠ some '\x27') (key : String) :
    read? (t.use ++ t.selection (t.columns fields) ++ comparison ++ quoteLiteral key ++ after) =
      some ⟨shown (t.use ++ t.selection (t.columns fields) ++ comparison) ++ none :: shown after,
        [key]⟩ := by
  have hcolumns := h.isPlain_columns fun field hmem => (hfields field hmem).isPlain
  have hbefore := (h.isPlain_use.append (h.isPlain_selection hcolumns)).append hcomparison
  exact (reads_keyed hbefore hafter hquote key).read?

theorem tokensOf_equals : tokensOf "=" = [mark '='] := by decide

theorem tokens_semicolon : tokens (shown ";") = [mark ';'] := by decide

/-- A literal is in no word. -/
theorem tokens_literal (s : String) (rest : List (Option Char)) :
    tokens (shown s ++ none :: rest) = tokensOf s ++ .literal :: tokens rest :=
  tokens_append_of_start (by rfl)

theorem IsProper.tokens_lookup (h : t.IsProper) {comparison : String}
    (hstart : startsWord (shown comparison) = false) (columns : String)
    (rest : List (Option Char)) :
    tokens (shown (t.use ++ t.selection columns ++ comparison) ++ none :: rest) =
      t.useTokens ++ t.selectionTokens columns ++ tokensOf comparison ++
        .literal :: tokens rest := by
  have hliteral : startsWord (none :: rest) = false := rfl
  have hstart' := startsWord_append hstart hliteral
  rw [shown_append, shown_append, List.append_assoc, List.append_assoc, tokens_use h.scope,
    tokens_selection h.relation _ hstart', tokens_literal]
  simp

/-- What is outside of the keys of an upsert, with `UNION ALL` between the lookups. -/
theorem outsideOf_eq (writes : List FieldValues) :
    t.outsideOf fields "" writes = (shown " UNION ALL ").intercalate
      (writes.map fun values => shown (t.lookup fields values) ++ [none]) := by
  induction writes with
  | nil => rfl
  | cons values writes ih =>
      cases writes with
      | nil => simp [outsideOf, shown]
      | cons next writes =>
          simp only [outsideOf, List.map_cons, List.intercalate_cons_cons,
            String.empty_append] at ih ⊢
          rw [← ih]
          simp [shown]

/-- Outside of the literals of a statement the names are the words that they are in its text. -/
theorem IsProper.namesAreOutside (h : t.IsProper) (hfields : ∀ field ∈ fields, IsWord field) :
    t.NamesAreOutside fields where
  read key := by
    have hread : t.read key fields = t.use ++ t.selection (t.columns fields) ++ "=" ++
        quoteLiteral key ++ ";" := by
      simp [Target.read]
    refine ⟨_, hread ▸ h.read?_lookup hfields (isPlain_of_all (by decide))
      (isPlain_of_all (by decide)) (by decide) key, ?_⟩
    rw [h.tokens_lookup (by decide), tokensOf_equals, tokens_semicolon]
    simp
  scan start count := by
    have hscan : t.scan start count fields = t.use ++ t.selection (t.columns fields) ++ ">=" ++
        quoteLiteral start ++
          (" ORDER BY " ++ t.primaryKey ++ " LIMIT " ++ Text.decimal count ++ ";") := by
      simp [Target.scan, String.append_assoc]
    have hafter : IsPlain
        (" ORDER BY " ++ t.primaryKey ++ " LIMIT " ++ Text.decimal count ++ ";") :=
      ((((isPlain_of_all (by decide)).append h.primaryKey.isPlain).append
        (isPlain_of_all (by decide))).append (isPlain_decimal count)).append
          (isPlain_of_all (by decide))
    have hequals : tokensOf ">=" = [mark '>', mark '='] := by decide
    refine ⟨_, hscan ▸ h.read?_lookup hfields (isPlain_of_all (by decide)) hafter (by simp) start,
      ?_⟩
    rw [h.tokens_lookup (by decide), hequals, ← tokensOf]
    simp
  delete key := by
    have hdelete : t.delete key = t.use ++ "DELETE FROM " ++ t.relation ++ " WHERE " ++
        t.primaryKey ++ "=" ++ quoteLiteral key ++ ";" := rfl
    have hbefore : IsPlain (t.use ++ "DELETE FROM " ++ t.relation ++ " WHERE " ++ t.primaryKey ++
        "=") :=
      ((((h.isPlain_use.append (isPlain_of_all (by decide))).append
        (isPlain_of_isValidName h.relation)).append (isPlain_of_all (by decide))).append
          h.primaryKey.isPlain).append (isPlain_of_all (by decide))
    refine ⟨_, hdelete ▸ (reads_keyed hbefore (isPlain_of_all (by decide)) (by decide) key).read?,
      ?_⟩
    have hshown : shown (t.use ++ "DELETE FROM " ++ t.relation ++ " WHERE " ++ t.primaryKey ++
        "=") ++ none :: shown ";" = shown (t.use ++ "DELETE FROM " ++ t.relation ++ " WHERE ") ++
          (shown t.primaryKey ++ (shown "=" ++ none :: shown ";")) := by
      simp
    refine (congrArg tokens hshown).trans ?_
    rw [tokens_deleteFrom h.scope h.relation, tokens_append_of_start (by rfl), tokens_literal,
      tokensOf_equals, tokens_semicolon]
    simp [tokensOf]
  update writes := by
    refine ⟨_, (h.reads_upsertProjections hfields writes).read?, ?_⟩
    have hlookup (values : FieldValues) : tokens (shown (t.lookup fields values) ++ [none]) =
        t.selectionTokens (t.columns (fields.map (updatedColumn values))) ++
          [mark '=', .literal] := by
      have hstart : startsWord (shown "=" ++ [none]) = false := by decide
      rw [lookup, shown_append, List.append_assoc, tokens_selection h.relation _ hstart,
        tokens_literal, tokensOf_equals]
      rfl
    rw [outsideOf_eq]
    refine (tokens_upsertInto h.scope h.relation _).trans ?_
    simp [Function.comp_def, hlookup]

end Target

/-! ## Questions to the catalog -/

/-- The tokens of a name between single quotes. -/
def quotedTokens (name : String) : List Token :=
  [mark '\x27', word name, mark '\x27']

/-- A name stands between single quotes as it is. -/
theorem quoteLiteral_of_isValidName {name : String} (h : isValidName name = true) :
    quoteLiteral name = "\x27" ++ name ++ "\x27" := by
  have hchars : ∀ c ∈ name.toList, quoteChar c = [c] := by
    intro c hc
    have hword := isAlphanum_of_isValidName h c hc
    have hplain : (c == '\\' || c == '\x27') = false := by
      by_contra hquoted
      rw [Bool.not_eq_false, Bool.or_eq_true, beq_iff_eq, beq_iff_eq] at hquoted
      rcases hquoted with rfl | rfl <;> exact absurd hword (by decide)
    rw [quoteChar, hplain]
    rfl
  have hbody : name.toList.flatMap quoteChar = name.toList := by
    rw [List.flatMap_congr hchars, List.flatMap_singleton']
  rw [← String.toList_inj, quoteLiteral, quoteChars, hbody]
  simp

theorem tokens_append_quoteLiteral {name : String} (h : isValidName name = true)
    (s rest : List (Option Char)) :
    tokens (s ++ (shown (quoteLiteral name) ++ rest)) =
      tokens s ++ (quotedTokens name ++ tokens rest) := by
  have hquote : tokens (shown "\x27") = [mark '\x27'] := by decide
  rw [quoteLiteral_of_isValidName h, shown_append, shown_append, List.append_assoc,
    List.append_assoc, tokens_append_of_start (by rfl), tokens_append_of_end (by decide),
    tokens_name_append h (by rfl), tokens_append_of_end (by decide), hquote]
  rfl

/-- Two names between single quotes are one word each, whatever is around the quotes. -/
theorem tokensOf_quoted {scope relation : String} (hscope : isValidName scope = true)
    (hrelation : isValidName relation = true) (before between after : String) :
    tokensOf (before ++ quoteLiteral scope ++ between ++ quoteLiteral relation ++ after) =
      tokensOf before ++ quotedTokens scope ++ tokensOf between ++ quotedTokens relation ++
        tokensOf after := by
  simp only [tokensOf, shown_append, List.append_assoc]
  rw [tokens_append_quoteLiteral hscope, tokens_append_quoteLiteral hrelation]

end SqlppBench.Sqlpp

namespace SqlppBench.Catalog.RelationName

open Sqlpp

/-- The names are words in the questions about a relation, too, there between the quotes of
literals. -/
structure NamesAreWords (r : RelationName) : Prop where
  primaryKey : tokensOf r.primaryKeyStatement = tokensOf
    "SELECT VALUE InternalDetails.PrimaryKey FROM Metadata.\x60Dataset\x60 WHERE DataverseName=" ++
      quotedTokens r.scope ++ tokensOf " AND DatasetName=" ++ quotedTokens r.relation ++
      tokensOf ";"
  fields : tokensOf r.fieldsStatement =
    tokensOf ("SELECT VALUE dt.Derived.Record.Fields FROM Metadata.\x60Dataset\x60 ds, " ++
        "Metadata.\x60Datatype\x60 dt WHERE ds.DataverseName=") ++
      quotedTokens r.scope ++ tokensOf " AND ds.DatasetName=" ++ quotedTokens r.relation ++
      tokensOf " AND dt.DataverseName=ds.DataverseName AND dt.DatatypeName=ds.DatatypeName;"

theorem namesAreWords {r : RelationName} (hscope : isValidName r.scope = true)
    (hrelation : isValidName r.relation = true) : r.NamesAreWords where
  primaryKey := tokensOf_quoted hscope hrelation _ " AND DatasetName=" ";"
  fields := tokensOf_quoted hscope hrelation _ " AND ds.DatasetName=" _

end SqlppBench.Catalog.RelationName
