import SqlppBench.Proofs.Json.Records
import SqlppBench.Proofs.Json.Skipping
import SqlppBench.Schema

/-! # Descriptions of fields

How the catalog may write the description of a field: as an object that gives the name once and the
type at most once, or as a list of the name and the type, which may be left out. A description is
taken exactly if it is written so (`takes_reader`, `givesBefore_of_isDescription`).

A description is not the same as a value of some shape. A member that has a meaning may be given
once only, where a value keeps the last of two members with one name; and what stands in a member
without meaning is passed over, though it may be no value at all, such as a number out of range.
-/

namespace SqlppBench.FieldInfo

open Json

/-! ## The grammar -/

/-- What a member of a description holds: a text, or anything. -/
inductive Content where
  | text (s : String)
  | any

/-- The texts of what a member holds. -/
def IsContent (t : List Char) : Content → Prop
  | .text s => IsString t s
  | .any => IsSkipped .value t

/-- What the members of a name hold. -/
def contentsOf (name : String) (ms : List (String × Content)) : List Content :=
  (ms.filter fun m => m.1 = name).map Prod.snd

/-- The members of an object describe a field: its name is given once and its type at most once, as
texts, and what the other members hold has no meaning. -/
structure Describes (ms : List (String × Content)) (f : FieldInfo) : Prop where
  name : contentsOf "FieldName" ms = [.text f.name]
  type : contentsOf "FieldType" ms = [.text f.type] ∨
    contentsOf "FieldType" ms = [] ∧ f.type = ""
  others : ∀ m ∈ ms, m.1 ≠ "FieldName" → m.1 ≠ "FieldType" → m.2 = .any

/-- The texts of a description. -/
inductive IsDescription : List Char → FieldInfo → Prop
  | object {s : List Char} {ms : List (String × Content)} {f : FieldInfo} :
      Listed '\x7d' (IsMember IsContent) true s ms → Describes ms f →
      IsDescription ('\x7b' :: s) f
  | list {s : List Char} {name type : String} : Listed ']' IsString true s [name, type] →
      IsDescription ('[' :: s) ⟨name, type⟩
  | listNamed {s : List Char} {name : String} : Listed ']' IsString true s [name] →
      IsDescription ('[' :: s) ⟨name, ""⟩

theorem IsDescription.opens {t : List Char} {f : FieldInfo} (h : IsDescription t f) : Opens t := by
  cases h with
  | object _ _ => exact ⟨'\x7b', _, rfl, by decide⟩
  | list _ => exact ⟨'[', _, rfl, by decide⟩
  | listNamed _ => exact ⟨'[', _, rfl, by decide⟩

/-! ## Members -/

/-- A text joins what is known of a field, where nothing was known. -/
def joinText : Option String → Content → Option (Option String)
  | none, .text s => some (some s)
  | _, _ => none

/-- A member joins a draft. -/
def join (d : Draft) (m : String × Content) : Option Draft :=
  if m.1 = "FieldName" then (joinText d.name m.2).map fun name => { d with name }
  else if m.1 = "FieldType" then (joinText d.type m.2).map fun type => { d with type }
  else match m.2 with
    | .any => some d
    | .text _ => none

/-- A text joins what is known exactly if nothing was known and it is one. -/
theorem joinText_eq_some_iff {known : Option String} {content : Content} {o : Option String} :
    joinText known content = some o ↔ known = none ∧ ∃ s, content = .text s ∧ o = some s := by
  cases known <;> cases content <;> simp [joinText, eq_comm]

/-- What is known of a field after its contents have joined it, one after the other. -/
theorem contents_of_joinText {known o o' : Option String} {content : Content}
    {contents : List Content} (h : joinText known content = some o) :
    known.toList.map .text ++ content :: contents = o'.toList.map .text ↔
      o.toList.map .text ++ contents = o'.toList.map .text := by
  obtain ⟨rfl, s, rfl, rfl⟩ := joinText_eq_some_iff.1 h
  exact Iff.rfl

/-- What does not join is one thing too many, or no text. -/
theorem contents_ne_of_joinText {known o : Option String} {content : Content}
    {contents : List Content} (h : joinText known content = none) :
    known.toList.map .text ++ content :: contents ≠ o.toList.map .text := by
  cases known <;> cases content <;> cases o <;> simp [joinText] at h ⊢

theorem contentsOf_cons_self (name : String) (content : Content) (ms : List (String × Content)) :
    contentsOf name ((name, content) :: ms) = content :: contentsOf name ms := by
  simp [contentsOf]

theorem contentsOf_cons_of_ne {name name' : String} (h : name' ≠ name) (content : Content)
    (ms : List (String × Content)) :
    contentsOf name ((name', content) :: ms) = contentsOf name ms := by
  simp [contentsOf, h]

theorem toList_map_text_inj {o o' : Option String} :
    o.toList.map Content.text = o'.toList.map .text ↔ o = o' := by
  cases o <;> cases o' <;> simp

/-- Members join a draft exactly if each of the two names comes once at most, the draft counted, and
the members without meaning hold anything. -/
theorem foldlM_join_eq_some_iff {ms : List (String × Content)} {d d' : Draft} :
    ms.foldlM join d = some d' ↔
      d.name.toList.map .text ++ contentsOf "FieldName" ms = d'.name.toList.map .text ∧
      d.type.toList.map .text ++ contentsOf "FieldType" ms = d'.type.toList.map .text ∧
      ∀ m ∈ ms, m.1 ≠ "FieldName" → m.1 ≠ "FieldType" → m.2 = .any := by
  induction ms generalizing d with
  | nil =>
      obtain ⟨name, type⟩ := d
      obtain ⟨name', type'⟩ := d'
      simp [contentsOf, toList_map_text_inj]
  | cons m ms ih =>
      obtain ⟨name, content⟩ := m
      rw [List.foldlM_cons, List.forall_mem_cons]
      by_cases hname : name = "FieldName"
      · subst hname
        rw [contentsOf_cons_self, contentsOf_cons_of_ne (by decide), join, if_pos rfl]
        cases hjoin : joinText d.name content with
        | none => simp [contents_ne_of_joinText hjoin]
        | some o =>
            rw [contents_of_joinText hjoin]
            refine ih.trans ?_
            simp
      by_cases htype : name = "FieldType"
      · subst htype
        rw [contentsOf_cons_self, contentsOf_cons_of_ne (by decide), join, if_neg hname,
          if_pos rfl]
        cases hjoin : joinText d.type content with
        | none => simp [contents_ne_of_joinText hjoin]
        | some o =>
            rw [contents_of_joinText hjoin]
            refine ih.trans ?_
            simp
      · rw [contentsOf_cons_of_ne hname, contentsOf_cons_of_ne htype, join, if_neg hname,
          if_neg htype]
        cases content with
        | text s => simp [hname, htype]
        | any => exact ih.trans (by simp)

/-- The members that join the empty draft and finish it are those that describe the field. -/
theorem describes_iff {ms : List (String × Content)} {f : FieldInfo} :
    Describes ms f ↔ ∃ d, ms.foldlM join reader.empty = some d ∧ reader.finish d = .ok f := by
  have hfinish (d : Draft) : reader.finish d = .ok f ↔
      d.name = some f.name ∧ f.type = d.type.getD "" := by
    obtain ⟨_ | name, type⟩ := d
    · exact iff_of_false nofun nofun
    · obtain ⟨name', type'⟩ := f
      simp [reader, required, bind, Except.bind, pure, Except.pure, eq_comm]
  simp only [hfinish, foldlM_join_eq_some_iff]
  constructor
  · rintro ⟨hname, htype, hothers⟩
    rcases htype with htype | ⟨htype, hnone⟩
    · exact ⟨⟨some f.name, some f.type⟩,
        ⟨by simp [reader, hname], by simp [reader, htype], hothers⟩, rfl, rfl⟩
    · exact ⟨⟨some f.name, none⟩,
        ⟨by simp [reader, hname], by simp [reader, htype], hothers⟩, rfl, hnone⟩
  · rintro ⟨⟨name, type⟩, ⟨hname, htype, hothers⟩, rfl, hgiven⟩
    refine ⟨by simpa [reader] using hname, ?_, hothers⟩
    cases type with
    | none => exact .inr ⟨by simpa [reader] using htype, hgiven⟩
    | some type => exact .inl (by simpa [reader, hgiven] using htype)

/-! ## The reader -/

theorem takesMembers_reader : TakesMembers IsContent reader.member join := by
  intro name d c d' c' hread
  have htext {seen : Option String} {put : String → Draft}
      (hread : field name seen anyText put c = .ok (d', c')) :
      ∃ ws ws' u s, IsSpaces ws ∧ IsSpaces ws' ∧ IsString u s ∧
        c.rest = ws ++ ':' :: (ws' ++ u ++ c'.rest) ∧ seen = none ∧ d' = put s := by
    obtain ⟨hseen, c₁, s, hcolon, hs, rfl⟩ := field_eq_ok hread
    obtain ⟨ws, hws, hc⟩ := exists_of_colon hcolon
    obtain ⟨_, hc₁, ws', u, rfl, hws', hu⟩ := takes_anyText hs
    exact ⟨ws, ws', u, s, hws, hws', hu, by rw [hc, hc₁], hseen, rfl⟩
  simp only [reader] at hread
  split at hread
  · rename_i hname
    obtain ⟨ws, ws', u, s, hws, hws', hu, hc, hseen, rfl⟩ := htext hread
    exact ⟨ws, ws', u, .text s, hws, hws', hu, hc, by simp [join, hname, hseen, joinText]⟩
  split at hread
  · rename_i hname htype
    obtain ⟨ws, ws', u, s, hws, hws', hu, hc, hseen, rfl⟩ := htext hread
    exact ⟨ws, ws', u, .text s, hws, hws', hu, hc, by simp [join, htype, hseen, joinText]⟩
  · rename_i hname htype
    obtain ⟨c₁, hcolon, hskip⟩ := bind_eq_ok_iff.1 hread
    obtain ⟨c₂, hskip, heq⟩ := bind_eq_ok_iff.1 hskip
    cases heq
    obtain ⟨ws, hws, hc⟩ := exists_of_colon hcolon
    obtain ⟨ws', u, hws', hc₁, hu⟩ := exists_of_skipValue hskip
    exact ⟨ws, ws', u, .any, hws, hws', hu, by rw [hc, hc₁, List.append_assoc],
      by simp [join, hname, htype]⟩

/-- A text that joins is read from behind its name. -/
theorem readsBehind_field {name : String} {seen o : Option String} {content : Content}
    {put : String → Draft} (state : Option String → Draft) (hput : ∀ s, state (some s) = put s)
    (h : joinText seen content = some o) :
    ReadsBehind IsContent (field name seen anyText put) content (state o) := by
  obtain ⟨rfl, s, rfl, rfl⟩ := joinText_eq_some_iff.1 h
  intro ws ws' u hws hws' hu p rest hrest
  obtain ⟨p₁, hcolon⟩ := colon_append hws (ws' ++ u ++ rest) p
  obtain ⟨p₂, hread⟩ := givesBefore_anyText hws' hu p₁ rest hrest
  refine ⟨p₂, ?_⟩
  rw [List.append_assoc, List.cons_append, field, if_neg (by simp)]
  simp only [hcolon, hread, bind, Except.bind, pure, Except.pure, hput]

/-- What a member without meaning holds is passed over. -/
theorem readsBehind_ignored (d : Draft) : ReadsBehind IsContent (ignored d) .any d := by
  intro ws ws' u hws hws' hu p rest hrest
  obtain ⟨p₁, hcolon⟩ := colon_append hws (ws' ++ (u ++ rest)) p
  obtain ⟨p₂, hskip⟩ := skipValue_append hws' hu hrest p₁
  refine ⟨p₂, ?_⟩
  rw [List.append_assoc, List.cons_append, List.append_assoc, ignored]
  simp only [hcolon, hskip, bind, Except.bind, pure, Except.pure]

/-- A member that joins is read. -/
theorem readsBehind_member {name : String} {content : Content} {d d' : Draft}
    (h : join d (name, content) = some d') :
    ReadsBehind IsContent (reader.member name d) content d' := by
  simp only [reader]
  by_cases hname : name = "FieldName"
  · rw [join, if_pos hname] at h
    obtain ⟨o, ho, rfl⟩ := Option.map_eq_some_iff.1 h
    simp only [if_pos hname]
    exact readsBehind_field (fun name => { d with name }) (fun _ => rfl) ho
  by_cases htype : name = "FieldType"
  · rw [join, if_neg hname, if_pos htype] at h
    obtain ⟨o, ho, rfl⟩ := Option.map_eq_some_iff.1 h
    simp only [if_neg hname, if_pos htype]
    exact readsBehind_field (fun type => { d with type }) (fun _ => rfl) ho
  · rw [join, if_neg hname, if_neg htype] at h
    simp only [if_neg hname, if_neg htype]
    cases content with
    | text s => cases h
    | any =>
        cases h
        exact readsBehind_ignored d

theorem readsMembers_reader {ms : List (String × Content)} {d d' : Draft}
    (h : ms.foldlM join d = some d') : ReadsMembers IsContent reader.member d ms d' := by
  induction ms generalizing d with
  | nil =>
      cases h
      exact .nil
  | cons m ms ih =>
      rw [List.foldlM_cons] at h
      obtain ⟨d₁, hjoin, hothers⟩ := Option.bind_eq_some_iff.1 h
      exact .cons (readsBehind_member hjoin) (ih hothers)

/-- The next item of a list is read if there is one. -/
theorem nextField_eq_ok_iff {first : Bool} {c c' : Cursor} {o : Option String} :
    nextField anyText first c = .ok (o, c') ↔
      (nextItem first c = .ok none ∧ o = none ∧ c' = c) ∨
        ∃ c₁ s, nextItem first c = .ok (some c₁) ∧ anyText c₁ = .ok (s, c') ∧ o = some s := by
  constructor
  · intro h
    obtain ⟨_ | c₁, hnext, hread⟩ := bind_eq_ok_iff.1 h
    · cases hread
      exact .inl ⟨hnext, rfl, rfl⟩
    · obtain ⟨⟨s, c₂⟩, hs, heq⟩ := bind_eq_ok_iff.1 hread
      cases heq
      exact .inr ⟨c₁, s, hnext, hs, rfl⟩
  · rintro (⟨hnext, rfl, rfl⟩ | ⟨c₁, s, hnext, hs, rfl⟩)
    · simp only [nextField, hnext, bind, Except.bind, pure, Except.pure]
    · simp only [nextField, hnext, hs, bind, Except.bind, pure, Except.pure]

/-- The first items of a list are read as the fields of a draft. -/
theorem listed_eq_ok_iff {c c' : Cursor} {d : Draft} :
    reader.listed c = .ok (d, c') ↔
      ∃ c₁, nextField anyText true c = .ok (d.name, c₁) ∧
        nextField anyText false c₁ = .ok (d.type, c') := by
  constructor
  · intro h
    obtain ⟨⟨name, c₁⟩, hname, h⟩ := bind_eq_ok_iff.1 h
    obtain ⟨⟨type, c₂⟩, htype, heq⟩ := bind_eq_ok_iff.1 h
    cases heq
    exact ⟨c₁, hname, htype⟩
  · rintro ⟨c₁, hname, htype⟩
    simp only [reader, hname, htype, bind, Except.bind, pure, Except.pure]

theorem finishListed_eq_ok_iff {d : Draft} {f : FieldInfo} :
    reader.finishListed d = .ok f ↔ d.name = some f.name ∧ f.type = d.type.getD "" := by
  obtain ⟨_ | name, type⟩ := d
  · exact iff_of_false nofun nofun
  · obtain ⟨name', type'⟩ := f
    simp [reader, listedField, bind, Except.bind, pure, Except.pure, eq_comm]

/-- A list that is closed behind the fields of a description holds two texts, or one text, which is
then the name. -/
theorem closed_eq_ok_iff {c c' : Cursor} {f : FieldInfo} :
    (∃ d c₁, reader.listed c = .ok (d, c₁) ∧ reader.finishListed d = .ok f ∧
        closeList c₁ = .ok c') ↔
      items anyText true c 3 = .ok ([f.name, f.type], c') ∨
        items anyText true c 3 = .ok ([f.name], c') ∧ f.type = "" := by
  simp only [listed_eq_ok_iff, finishListed_eq_ok_iff, nextField_eq_ok_iff, items_eq_ok_cons_iff]
  constructor
  · rintro ⟨⟨name, type⟩, c₁, ⟨c₂, hname, htype⟩, ⟨hgiven, hf⟩, hclose⟩
    dsimp only at hname htype hgiven hf
    obtain rfl := hgiven
    rcases hname with ⟨-, hnone, -⟩ | ⟨c₃, s, hnext, hread, heq⟩
    · exact nomatch hnone
    obtain rfl := Option.some.inj heq
    rcases htype with ⟨-, rfl, rfl⟩ | ⟨c₄, s', hnext', hread', rfl⟩
    · exact .inr ⟨⟨c₃, _, hnext, hread, items_of_closeList hclose 1⟩, hf⟩
    · obtain rfl : f.type = s' := hf
      exact .inl ⟨c₃, _, hnext, hread, c₄, _, hnext', hread', items_of_closeList hclose 0⟩
  · rintro (⟨c₁, c₂, hnext, hread, c₃, c₄, hnext', hread', hend⟩ |
      ⟨⟨c₁, c₂, hnext, hread, hend⟩, htype⟩)
    · obtain ⟨-, hclose⟩ := closeList_of_items hend
      exact ⟨⟨some f.name, some f.type⟩, c₄, ⟨c₂, .inr ⟨c₁, _, hnext, hread, rfl⟩,
        .inr ⟨c₃, _, hnext', hread', rfl⟩⟩, ⟨rfl, rfl⟩, hclose⟩
    · obtain ⟨hnone, hclose⟩ := closeList_of_items hend
      exact ⟨⟨some f.name, none⟩, c₂, ⟨c₂, .inr ⟨c₁, _, hnext, hread, rfl⟩,
        .inl ⟨hnone, rfl, rfl⟩⟩, ⟨rfl, htype⟩, hclose⟩

theorem takes_reader : Takes (record reader) (Spaced IsDescription) := by
  intro s p f c h
  obtain ⟨ws, hws, hs, -⟩ := exists_skipSpaces ⟨s, p⟩
  suffices ∃ t, (⟨s, p⟩ : Cursor).skipSpaces.rest = t ++ c.rest ∧ IsDescription t f by
    obtain ⟨t, ht, hdescription⟩ := this
    exact ⟨ws ++ t, by rw [List.append_assoc, ← ht]; exact hs, ws, t, rfl, hws, hdescription⟩
  rw [record] at h
  dsimp only at h
  generalize (⟨s, p⟩ : Cursor).skipSpaces = d at h
  split at h
  · rename_i u hopen
    obtain ⟨⟨draft, c₁⟩, hmembers, hfinish⟩ := bind_eq_ok_iff.1 h
    dsimp only at hfinish
    split at hfinish
    · rename_i hf
      cases hfinish
      obtain ⟨x, ms, hx, hlisted, hjoins⟩ := listed_of_members takesMembers_reader hmembers
      rw [rest_skip_one hopen] at hx
      obtain rfl : u = x ++ c.rest := hx
      exact ⟨'\x7b' :: x, hopen, .object hlisted (describes_iff.2 ⟨draft, hjoins, hf⟩)⟩
    · cases hfinish
  · rename_i u hopen
    obtain ⟨⟨draft, c₁⟩, hitems, hfinish⟩ := bind_eq_ok_iff.1 h
    dsimp only at hfinish
    split at hfinish
    · rename_i hf
      obtain ⟨c₂, hclose, heq⟩ := bind_eq_ok_iff.1 hfinish
      cases heq
      rcases closed_eq_ok_iff.1 ⟨draft, c₁, hitems, hf, hclose⟩ with hread | ⟨hread, htype⟩
      · obtain ⟨x, hx, hlisted⟩ := listed_of_items takes_anyText hread
        exact ⟨'[' :: x, by rw [hopen, ← rest_skip_one hopen, hx]; rfl, .list hlisted⟩
      · obtain ⟨x, hx, hlisted⟩ := listed_of_items takes_anyText hread
        obtain ⟨name, type⟩ := f
        obtain rfl : type = "" := htype
        exact ⟨'[' :: x, by rw [hopen, ← rest_skip_one hopen, hx]; rfl, .listNamed hlisted⟩
    · cases hfinish
  · exact absurd h (unexpected_ne_ok _ _ _)

/-- A description that is written as an object is read. -/
theorem givesBefore_object {s : List Char} {ms : List (String × Content)} {f : FieldInfo}
    (hlisted : Listed '\x7d' (IsMember IsContent) true s ms) (hf : Describes ms f) :
    GivesBefore EndsNumeral (record reader) ('\x7b' :: s) f := by
  intro p rest _
  obtain ⟨draft, hjoins, hfinish⟩ := describes_iff.1 hf
  have hlength := hlisted.length_lt fun _ _ hm => hm.opens
  obtain ⟨p', hmembers⟩ := members_of_listed hlisted (readsMembers_reader hjoins) rest
    (p.afterAll ['\x7b']) (show ms.length < (s ++ rest).length + 2 by
      rw [List.length_append]
      omega)
  have hread : members reader.member true reader.empty
      ((⟨'\x7b' :: (s ++ rest), p⟩ : Cursor).skip 1) (⟨'\x7b' :: (s ++ rest), p⟩ : Cursor).steps =
        .ok (draft, ⟨rest, p'⟩) := hmembers
  refine ⟨p', ?_⟩
  rw [List.cons_append, record]
  simp only [skipSpaces_cons (c := '\x7b') (by decide), hread, hfinish, bind, Except.bind, pure,
    Except.pure]

/-- A description that is written as a list is read. -/
theorem givesBefore_list {s : List Char} {f : FieldInfo}
    (h : ∀ rest p, ∃ p', items anyText true ⟨s ++ rest, p⟩ 3 =
        .ok ([f.name, f.type], ⟨rest, p'⟩) ∨
      items anyText true ⟨s ++ rest, p⟩ 3 = .ok ([f.name], ⟨rest, p'⟩) ∧ f.type = "") :
    GivesBefore EndsNumeral (record reader) ('[' :: s) f := by
  intro p rest _
  obtain ⟨p', hitems⟩ := h rest (p.afterAll ['['])
  obtain ⟨draft, c, hlisted, hfinish, hclose⟩ := closed_eq_ok_iff.2 hitems
  have hread : reader.listed ((⟨'[' :: (s ++ rest), p⟩ : Cursor).skip 1) = .ok (draft, c) := hlisted
  refine ⟨p', ?_⟩
  rw [List.cons_append, record]
  simp only [skipSpaces_cons (c := '[') (by decide), hread, hfinish, hclose, bind, Except.bind,
    pure, Except.pure]

theorem givesBefore_reader {t : List Char} {f : FieldInfo} (h : IsDescription t f) :
    GivesBefore EndsNumeral (record reader) t f := by
  have hreads (t : List Char) (text : String) (ht : IsString t text) :
      GivesBefore EndsNumeral anyText t text := givesBefore_anyText isSpaces_nil ht
  have hopens (t : List Char) (text : String) (ht : IsString t text) : Opens t :=
    opens_of_isString ht
  cases h with
  | object hlisted hf => exact givesBefore_object hlisted hf
  | list hlisted =>
      refine givesBefore_list fun rest p => ?_
      obtain ⟨p', hitems⟩ := items_of_listed hreads hopens hlisted rest p (Nat.lt_succ_self 2)
      exact ⟨p', .inl hitems⟩
  | listNamed hlisted =>
      refine givesBefore_list fun rest p => ?_
      obtain ⟨p', hitems⟩ := items_of_listed hreads hopens hlisted rest p
        (show 1 < 3 by decide)
      exact ⟨p', .inr ⟨hitems, rfl⟩⟩

/-- A text is read as a list of descriptions exactly if it is one. -/
theorem listOfJson_eq_ok_iff {s : String} {fields : List FieldInfo} :
    listOfJson s = .ok fields ↔ IsWholeList IsDescription s fields :=
  readAll_list_eq_ok_iff takes_reader (fun _ _ => givesBefore_reader) fun _ _ => IsDescription.opens

end SqlppBench.FieldInfo
