import SqlppBench.Connector.ServiceMessage
import SqlppBench.Proofs.Json.Paths

/-! # The message in a value

An object within a value may have a message: a string under the name `msg` (`MessageAt`). The search
goes through the value in the order of the paths that lead to its objects, an object before what it
holds, so it finds the message at the least of these paths (`find?_eq_some_iff`). Which message that
is depends on the value alone, not on the text that it was read from.
-/

namespace SqlppBench

namespace Json.Value

open ServiceMessage

variable {v x : Value} {s : Step} {path : List Step} {m : String}

/-- An object at the end of a path has a message of its own. -/
def MessageAt (v : Value) (path : List Step) (m : String) : Prop :=
  v.at? (path ++ [.member memberName]) = some (.string m)

/-- The message is the only member of its name within the value, however deep. -/
def OnlyMessage (v : Value) (m : String) : Prop :=
  ∃ path, v.MessageAt path m ∧
    ∀ path' x, v.at? (path' ++ [.member memberName]) = some x → path' = path

/-- The message comes before all others within the value. -/
def FirstMessage (v : Value) (m : String) : Prop :=
  ∃ path, v.MessageAt path m ∧
    ∀ path' m', v.MessageAt path' m' → path' = path ∨ PathBefore path path'

theorem messageAt_cons_iff :
    v.MessageAt (s :: path) m ↔ ∃ x, v.step? s = some x ∧ x.MessageAt path m :=
  at?_cons_eq_some_iff

/-- The only message is the first one. -/
theorem OnlyMessage.first (h : v.OnlyMessage m) : v.FirstMessage m := by
  obtain ⟨path, hpath, honly⟩ := h
  exact ⟨path, hpath, fun path' m' h' => .inl (honly path' (.string m') h')⟩

/-- No two messages are the first one. -/
theorem FirstMessage.unique {m' : String} (h : v.FirstMessage m) (h' : v.FirstMessage m') :
    m = m' := by
  obtain ⟨path, hpath, hleast⟩ := h
  obtain ⟨path', hpath', hleast'⟩ := h'
  have hsame : path' = path := by
    rcases hleast path' m' hpath' with rfl | hbefore
    · rfl
    · rcases hleast' path m hpath with rfl | hbefore'
      · rfl
      · exact absurd hbefore' hbefore.asymm
  rw [hsame, MessageAt, hpath] at hpath'
  cases hpath'
  rfl

/-! ## The search in a value -/

/-- The message of an object itself. -/
def own? : Value → Option String
  | .object members =>
    match Members.get? memberName members with
    | some (.string m) => some m
    | _ => none
  | _ => none

theorem own?_eq_some_iff : v.own? = some m ↔ v.MessageAt [] m := by
  rw [MessageAt, List.nil_append, at?_cons_eq_some_iff]
  simp only [at?, Option.some.injEq, exists_eq_right]
  cases v with
  | object members =>
      rw [own?, step?]
      cases Members.get? memberName members with
      | none => simp
      | some x => cases x <;> simp
  | null | bool | number | string | array => simp [own?, step?]

theorem findItem?_eq_findSome? (items : List Value) : findItem? items = items.findSome? find? := by
  induction items with
  | nil => rfl
  | cons x items ih =>
      rw [findItem?, List.findSome?_cons, ih]
      cases find? x <;> rfl

theorem findMember?_eq_findSome? (members : List (String × Value)) :
    findMember? members = members.findSome? fun m => find? m.2 := by
  induction members with
  | nil => rfl
  | cons m members ih =>
      rw [findMember?, List.findSome?_cons, ih]
      cases find? m.2 <;> rfl

/-- An object's own message is found, or else the first one within what the value holds. -/
theorem find?_eq (v : Value) :
    find? v = v.own?.or (v.children.findSome? fun child => find? child.2) := by
  cases v with
  | object members =>
      rw [find?, own?, children, List.findSome?_map, findMember?_eq_findSome?]
      cases Members.get? memberName members with
      | none => rfl
      | some x => cases x <;> rfl
  | array items =>
      have hown : (array items).own? = none := rfl
      have hitems := congrArg (List.findSome? find?) (List.zipIdx_map_fst 0 items)
      rw [List.findSome?_map] at hitems
      rw [hown, find?, children, List.findSome?_map, findItem?_eq_findSome?, Option.none_or,
        ← hitems]
      rfl
  | null | bool | number | string => rfl

/-- An object's own message comes before all others. -/
theorem firstMessage_of_own (h : v.own? = some m) : v.FirstMessage m := by
  refine ⟨[], own?_eq_some_iff.1 h, fun path' m' _ => ?_⟩
  -- every other path is longer than none at all
  cases path' with
  | nil => exact .inl rfl
  | cons s path' => exact .inr List.Lex.nil

/-- Without one, the first message within the first thing that has any comes before all others. -/
theorem firstMessage_of_child (h : v.IsOrdered) (hown : v.own? = none)
    {earlier later : List (Step × Value)} (hchildren : v.children = earlier ++ (s, x) :: later)
    (hearlier : ∀ child ∈ earlier, ∀ path m, ¬ child.2.MessageAt path m)
    (hx : x.FirstMessage m) : v.FirstMessage m := by
  obtain ⟨path, hpath, hleast⟩ := hx
  have hstep : v.step? s = some x := (mem_children_iff h).1 (by simp [hchildren])
  refine ⟨s :: path, messageAt_cons_iff.2 ⟨x, hstep, hpath⟩, fun path' m' hpath' => ?_⟩
  rcases path' with _ | ⟨s', path'⟩
  · rw [own?_eq_some_iff.2 hpath'] at hown
    cases hown
  obtain ⟨x', hstep', hrest'⟩ := messageAt_cons_iff.1 hpath'
  have hmem' := (mem_children_iff h).2 hstep'
  have hordered := pairwise_children h
  rw [hchildren] at hmem' hordered
  rcases List.mem_append.1 hmem' with hbefore | hbehind
  · exact absurd hrest' (hearlier _ hbefore path' m')
  rcases List.mem_cons.1 hbehind with heq | hlater
  · -- both paths take the same step, so they are compared behind it
    cases heq
    rcases hleast path' m' hrest' with rfl | hpathBefore
    · exact .inl rfl
    · exact .inr (List.Lex.cons hpathBefore)
  · have hs := (List.pairwise_cons.1 (List.pairwise_append.1 hordered).2.1).1 _ hlater
    exact .inr (List.Lex.rel hs)

/-- A value has no message if it has none of its own and nothing that it holds has one. -/
theorem not_messageAt_of_children (h : v.IsOrdered) (hown : v.own? = none)
    (hchildren : ∀ child ∈ v.children, ∀ path m, ¬ child.2.MessageAt path m) (path : List Step)
    (m : String) : ¬ v.MessageAt path m := by
  intro hpath
  cases path with
  | nil =>
      rw [own?_eq_some_iff.2 hpath] at hown
      cases hown
  | cons s path =>
      obtain ⟨x, hstep, hrest⟩ := messageAt_cons_iff.1 hpath
      exact hchildren (s, x) ((mem_children_iff h).2 hstep) path m hrest

/-- What is found is the first message, and if nothing is found there is none. -/
theorem find?_spec (h : v.IsOrdered) :
    (∀ m, find? v = some m → v.FirstMessage m) ∧
      (find? v = none → ∀ path m, ¬ v.MessageAt path m) := by
  induction v using induction_on_steps with
  | h v ih =>
  have hchild (child : Step × Value) (hmem : child ∈ v.children) :=
    have hstep := (mem_children_iff h).1 hmem
    ih child.1 child.2 hstep (h.step hstep)
  rw [find?_eq]
  constructor
  · intro m hm
    rcases Option.or_eq_some_iff.1 hm with hown | ⟨hown, hsome⟩
    · exact firstMessage_of_own hown
    · obtain ⟨earlier, child, later, hchildren, hfind, hearlier⟩ :=
        List.findSome?_eq_some_iff.1 hsome
      refine firstMessage_of_child h hown hchildren (fun other hother => ?_) ?_
      · exact (hchild other (by simp [hchildren, hother])).2 (hearlier other hother)
      · exact (hchild child (by simp [hchildren])).1 m hfind
  · intro hnone
    obtain ⟨hown, hchildren⟩ := Option.or_eq_none_iff.1 hnone
    refine not_messageAt_of_children h hown fun child hmem => ?_
    exact (hchild child hmem).2 (List.findSome?_eq_none_iff.1 hchildren child hmem)

/-- The message that is found is the first one. -/
theorem find?_eq_some_iff (h : v.IsOrdered) : find? v = some m ↔ v.FirstMessage m := by
  obtain ⟨hsome, hnone⟩ := find?_spec h
  constructor
  · exact hsome m
  · intro hfirst
    cases hfind : find? v with
    | some m' => rw [(hsome m' hfind).unique hfirst]
    | none =>
        obtain ⟨path, hpath, -⟩ := hfirst
        exact absurd hpath (hnone hfind path m)

/-- Where there are messages, one of them is the first. -/
theorem MessageAt.exists_first (hpath : v.MessageAt path m) (h : v.IsOrdered) :
    ∃ m', v.FirstMessage m' := by
  cases hfind : find? v with
  | none => exact absurd hpath ((find?_spec h).2 hfind path m)
  | some m' => exact ⟨m', (find?_eq_some_iff h).1 hfind⟩

end Json.Value

end SqlppBench
