import Mathlib.Data.List.Lex
import SqlppBench.Proofs.Json.Grammar
import SqlppBench.Proofs.Members

/-! # Paths into values

A path leads from a value to one within it, through members by their names and through items by
their places (`Value.at?`). Paths are compared step by step, names by their bytes; a path comes
before those that it begins. In a value that was read from a text, the members of every object are
in the order of their names (`isOrdered_of_parse`), so what a value holds is listed in the order of
the steps that lead to it (`Value.pairwise_children`).
-/

namespace SqlppBench.Json

/-- A step from a value to one that it holds. -/
inductive Step where
  | member (name : String)
  | item (index : Nat)
deriving DecidableEq

namespace Step

/-- Members are in the order of the bytes of their names, items in that of their places. -/
def Before : Step → Step → Prop
  | .member name, .member other => Utf8.encode name < Utf8.encode other
  | .item index, .item other => index < other
  | _, _ => False

theorem Before.asymm {s s' : Step} (h : s.Before s') : ¬ s'.Before s := by
  cases s <;> cases s'
  · exact List.lt_asymm h
  · exact h.elim
  · exact h.elim
  · exact Nat.lt_asymm h

instance : Std.Asymm Before := ⟨fun _ _ => Before.asymm⟩

end Step

/-- A path comes before another one if it is shorter and begins it, or takes an earlier step where
they part. -/
def PathBefore (path path' : List Step) : Prop :=
  List.Lex Step.Before path path'

theorem PathBefore.asymm {path path' : List Step} (h : PathBefore path path') :
    ¬ PathBefore path' path :=
  Std.Asymm.asymm (r := List.Lex Step.Before) path path' h

namespace Value

variable {v x : Value} {s : Step}

/-- The value that a step leads to. -/
def step? : Value → Step → Option Value
  | .object members, .member name => Members.get? name members
  | .array items, .item index => items[index]?
  | _, _ => none

/-- The value that a path leads to. -/
def at? (v : Value) : List Step → Option Value
  | [] => some v
  | s :: path => (v.step? s).bind (at? · path)

theorem at?_cons_eq_some_iff {path : List Step} :
    v.at? (s :: path) = some x ↔ ∃ u, v.step? s = some u ∧ u.at? path = some x := by
  rw [at?, Option.bind_eq_some_iff]

/-- What a value holds, and the steps that lead there. -/
def children : Value → List (Step × Value)
  | .object members => members.map fun m => (.member m.1, m.2)
  | .array items => items.zipIdx.map fun item => (.item item.2, item.1)
  | _ => []

/-- The members of every object within are in the order of their names. -/
def IsOrdered (v : Value) : Prop :=
  ∀ path members, v.at? path = some (.object members) → Members.Ascending members

theorem IsOrdered.step (h : v.IsOrdered) (hstep : v.step? s = some x) : x.IsOrdered :=
  fun path members hat => h (s :: path) members (at?_cons_eq_some_iff.2 ⟨x, hstep, hat⟩)

/-- A step leads to one of the things that a value holds. -/
theorem mem_children_iff (h : v.IsOrdered) : (s, x) ∈ v.children ↔ v.step? s = some x := by
  cases v with
  | object members =>
      have hmembers : Members.Ascending members := h [] members rfl
      rw [children, List.mem_map]
      constructor
      · rintro ⟨⟨name, u⟩, hmem, heq⟩
        cases heq
        exact (Members.mem_iff_get? hmembers).1 hmem
      · intro hstep
        cases s with
        | member name => exact ⟨(name, x), (Members.mem_iff_get? hmembers).2 hstep, rfl⟩
        | item index => cases hstep
  | array items =>
      rw [children, List.mem_map]
      constructor
      · rintro ⟨⟨u, index⟩, hmem, heq⟩
        cases heq
        exact List.mem_zipIdx_iff_getElem?.1 hmem
      · intro hstep
        cases s with
        | member name => cases hstep
        | item index => exact ⟨(x, index), List.mem_zipIdx_iff_getElem?.2 hstep, rfl⟩
  | null | bool | number | string => simp [children, step?]

/-- What a value holds is in the order of the steps. -/
theorem pairwise_children (h : v.IsOrdered) :
    v.children.Pairwise fun child child' => child.1.Before child'.1 := by
  cases v with
  | object members =>
      have hmembers : Members.Ascending members := h [] members rfl
      exact List.pairwise_map.2 (hmembers.imp fun hlt => Utf8.encode_lt hlt)
  | array items =>
      have hplaces : (items.zipIdx.map Prod.snd).Pairwise (· < ·) := by
        rw [List.zipIdx_map_snd]
        exact List.pairwise_lt_range'
      exact List.pairwise_map.2 ((List.pairwise_map.1 hplaces).imp fun hlt => hlt)
  | null | bool | number | string => exact List.Pairwise.nil

/-- What a value holds is smaller. -/
theorem sizeOf_lt_of_step (h : v.step? s = some x) : sizeOf x < sizeOf v := by
  cases v with
  | object members =>
      cases s with
      | member name =>
          have hmem := List.sizeOf_lt_of_mem (Members.mem_of_get? h)
          simp only [Prod.mk.sizeOf_spec, object.sizeOf_spec] at hmem ⊢
          omega
      | item index => cases h
  | array items =>
      cases s with
      | member name => cases h
      | item index =>
          have hmem := List.sizeOf_lt_of_mem (List.mem_of_getElem? h)
          rw [array.sizeOf_spec]
          omega
  | null | bool | number | string => cases s <;> cases h

/-- What holds of a value if it holds of all that the value holds, holds of every value. -/
theorem induction_on_steps {motive : Value → Prop}
    (h : ∀ v, (∀ s x, v.step? s = some x → motive x) → motive v) (v : Value) : motive v := by
  induction hn : sizeOf v using Nat.strongRecOn generalizing v with
  | ind n ih =>
      refine h v fun s x hstep => ih (sizeOf x) ?_ x rfl
      rw [← hn]
      exact sizeOf_lt_of_step hstep

end Value

/-! ## Values that are read -/

/-- Each item of a listing has a text of its kind. -/
theorem Listed.exists_kind {α : Type} {closing : Char} {kind : List Char → α → Prop} {first : Bool}
    {t : List Char} {as : List α} (h : Listed closing kind first t as) :
    ∀ a ∈ as, ∃ u, kind u a := by
  induction h with
  | close _ => simp
  | first _ ht _ ih | next _ _ ht _ ih =>
      intro b hb
      rcases List.mem_cons.1 hb with rfl | hb
      · exact ⟨_, ht⟩
      · exact ih b hb

/-- What a value holds has a text that nests less deep. -/
theorem exists_isText_of_step {depth : Nat} {t : List Char} {v x : Value} {s : Step}
    (h : IsText depth t v) (hstep : v.step? s = some x) :
    ∃ depth' u, depth = depth' + 1 ∧ IsText depth' u x := by
  have plain {t : List Char} (hplain : IsPlain t v) : v.step? s = none := by
    cases hplain <;> cases s <;> rfl
  cases depth with
  | zero =>
      rw [plain h] at hstep
      cases hstep
  | succ depth =>
      refine ⟨depth, ?_⟩
      rcases h with hplain | hnested
      · rw [plain hplain] at hstep
        cases hstep
      cases hnested with
      | array hlisted =>
          cases s with
          | member name => cases hstep
          | item index =>
              obtain ⟨u, hu⟩ := hlisted.exists_kind x (List.mem_of_getElem? hstep)
              exact ⟨u, rfl, hu⟩
      | object hlisted =>
          cases s with
          | item index => cases hstep
          | member name =>
              have hmem := Members.mem_of_mem_ofList (Members.mem_of_get? hstep)
              obtain ⟨u, hu⟩ := hlisted.exists_kind _ hmem
              cases hu with
              | intro _ _ _ hvalue => exact ⟨_, rfl, hvalue⟩

/-- A value that has a text has its members in order. -/
theorem isOrdered_of_isText {depth : Nat} {t : List Char} {v : Value} (h : IsText depth t v) :
    v.IsOrdered := by
  intro path members hat
  induction path generalizing depth t v with
  | nil =>
      obtain rfl : v = .object members := Option.some.inj hat
      have plain {t : List Char} : ¬ IsPlain t (.object members) := nofun
      cases depth with
      | zero => exact absurd h plain
      | succ depth =>
          rcases h with hplain | hnested
          · exact absurd hplain plain
          · cases hnested
            exact Members.ascending_ofList _
  | cons s path ih =>
      obtain ⟨x, hstep, hrest⟩ := Value.at?_cons_eq_some_iff.1 hat
      obtain ⟨depth', u, -, hu⟩ := exists_isText_of_step h hstep
      exact ih hu hrest

/-- A value that was read has its members in order. -/
theorem isOrdered_of_parse {s : String} {v : Value} (h : parse s = .ok v) : v.IsOrdered := by
  obtain ⟨ws, t, ws', -, -, -, ht⟩ := parse_eq_ok_iff.1 h
  exact isOrdered_of_isText ht

end SqlppBench.Json
