import Mathlib.Data.List.Induction
import Mathlib.Data.List.Sort
import Mathlib.Data.String.Basic
import SqlppBench.Json.Value

/-! # Members in the order of their names

Members that are put in their places stay in ascending order, so each name is there once
(`ascending_insert`). A list in this order is determined by the values under its names
(`eq_of_get?`), and of several members of one name the last one is kept (`get?_ofList`).
-/

namespace SqlppBench.Members

variable {α : Type} {members members' : List (String × α)} {name : String} {a : α}

/-- The names are in ascending order, each of them once. -/
def Ascending (members : List (String × α)) : Prop :=
  members.Pairwise fun m m' => m.1 < m'.1

/-- The value of the last member of a name. -/
def last? (name : String) (members : List (String × α)) : Option α :=
  members.reverse.lookup name

theorem mem_insert {m : String × α} (h : m ∈ insert name a members) :
    m = (name, a) ∨ m ∈ members := by
  induction members with
  | nil => exact .inl (List.mem_singleton.1 h)
  | cons other rest ih =>
      unfold insert at h
      split at h
      · exact List.mem_cons.1 h
      · split at h
        · rcases List.mem_cons.1 h with rfl | hrest
          · exact .inl rfl
          · exact .inr (List.mem_cons_of_mem other hrest)
        · rcases List.mem_cons.1 h with rfl | hrest
          · exact .inr (List.mem_cons_self ..)
          · exact (ih hrest).imp_right (List.mem_cons_of_mem other)

/-- The last member is put in its place after all others. -/
theorem ofList_concat (members : List (String × α)) (m : String × α) :
    ofList (members ++ [m]) = insert m.1 m.2 (ofList members) :=
  List.foldl_concat ..

/-- A member that is kept was put in its place. -/
theorem mem_of_mem_ofList {m : String × α} (h : m ∈ ofList members) : m ∈ members := by
  induction members using List.reverseRecOn with
  | nil => exact h
  | append_singleton members other ih =>
      rw [ofList_concat] at h
      rcases mem_insert h with rfl | hmem
      · simp
      · exact List.mem_append_left _ (ih hmem)

/-- What is found under a name is a member. -/
theorem mem_of_get? (h : get? name members = some a) : (name, a) ∈ members := by
  induction members with
  | nil => cases h
  | cons m rest ih =>
      rw [get?] at h
      split at h
      · rename_i heq
        obtain rfl := Option.some.inj h
        rw [heq]
        exact List.mem_cons_self ..
      · exact List.mem_cons_of_mem m (ih h)

/-- A member that is put in its place leaves the members in order. -/
theorem ascending_insert (name : String) (a : α) (h : Ascending members) :
    Ascending (insert name a members) := by
  induction members with
  | nil => exact List.pairwise_singleton _ _
  | cons other rest ih =>
      obtain ⟨hother, hrest⟩ := List.pairwise_cons.1 h
      unfold insert
      split
      · rename_i hlt
        refine List.pairwise_cons.2 ⟨fun m hm => ?_, h⟩
        rcases List.mem_cons.1 hm with rfl | hm
        · exact hlt
        · exact lt_trans hlt (hother m hm)
      · rename_i hlt
        split
        · rename_i heq
          refine List.pairwise_cons.2 ⟨fun m hm => ?_, hrest⟩
          rw [heq]
          exact hother m hm
        · rename_i hne
          refine List.pairwise_cons.2 ⟨fun m hm => ?_, ih hrest⟩
          rcases mem_insert hm with rfl | hm
          · exact lt_of_le_of_ne (not_lt.1 hlt) (Ne.symm hne)
          · exact hother m hm

/-- Members that are put in place one after the other are in order. -/
theorem ascending_ofList (members : List (String × α)) : Ascending (ofList members) := by
  induction members using List.reverseRecOn with
  | nil => exact List.Pairwise.nil
  | append_singleton members m ih =>
      rw [ofList_concat]
      exact ascending_insert m.1 m.2 ih

/-- A member at the end is the last one of its name. -/
theorem last?_concat (name : String) (members : List (String × α)) (m : String × α) :
    last? name (members ++ [m]) = if name = m.1 then some m.2 else last? name members := by
  rw [last?, last?, List.reverse_append, List.reverse_singleton, List.singleton_append,
    List.lookup_cons]
  by_cases hname : name = m.1
  · simp [hname]
  · rw [if_neg hname, beq_false_of_ne hname]

/-- The last member of a name is the last of the later ones, if there is one among them. -/
theorem last?_append (name : String) (members later : List (String × α)) :
    last? name (members ++ later) = (last? name later).or (last? name members) := by
  rw [last?, List.reverse_append, List.lookup_append]
  rfl

/-- Where a name has members, one of them is the last. -/
theorem exists_last?_of_mem (h : (name, a) ∈ members) :
    ∃ b, last? name members = some b ∧ (name, b) ∈ members := by
  induction members using List.reverseRecOn with
  | nil => cases h
  | append_singleton members m ih =>
      rw [last?_concat]
      by_cases hname : name = m.1
      · exact ⟨m.2, if_pos hname, by simp [hname]⟩
      · have hmem : (name, a) ∈ members := by
          rcases List.mem_append.1 h with h | h
          · exact h
          · exact absurd (congrArg Prod.fst (List.mem_singleton.1 h)) hname
        obtain ⟨b, hlast, hmem⟩ := ih hmem
        exact ⟨b, by rw [if_neg hname, hlast], List.mem_append_left _ hmem⟩

/-- Among members that belong together under their names, so do the last of a name. -/
theorem last?_of_forall₂ {β : Type} {R : String × α → String × β → Prop}
    (same : ∀ m m', R m m' → m'.1 = m.1) {others : List (String × β)}
    (h : List.Forall₂ R members others) (hlast : last? name members = some a) :
    ∃ b, last? name others = some b ∧ R (name, a) (name, b) := by
  have hreverse := List.forall₂_reverse_iff.2 h
  unfold last? at hlast ⊢
  generalize members.reverse = backwards, others.reverse = backwards' at hreverse hlast ⊢
  induction hreverse with
  | nil => cases hlast
  | @cons m m' _ _ hm _ ih =>
      obtain ⟨other, b⟩ := m
      obtain ⟨other', c⟩ := m'
      obtain rfl : other' = other := same _ _ hm
      rw [List.lookup_cons] at hlast ⊢
      by_cases hname : name = other'
      · subst hname
        rw [beq_self_eq_true] at hlast ⊢
        obtain rfl := Option.some.inj hlast
        exact ⟨c, rfl, hm⟩
      · rw [beq_false_of_ne hname] at hlast ⊢
        exact ih hlast

/-- The last member of a name is the one that is kept. -/
theorem get?_ofList (name : String) (members : List (String × α)) :
    get? name (ofList members) = last? name members := by
  induction members using List.reverseRecOn with
  | nil => rfl
  | append_singleton members m ih => rw [ofList_concat, get?_insert, ih, last?_concat]

/-- In order, a member is there exactly if it is what is found under its name. -/
theorem mem_iff_get? (h : Ascending members) :
    (name, a) ∈ members ↔ get? name members = some a := by
  induction members with
  | nil => simp [get?]
  | cons m rest ih =>
      obtain ⟨other, b⟩ := m
      obtain ⟨hother, hrest⟩ := List.pairwise_cons.1 h
      rw [List.mem_cons, get?]
      split
      · rename_i heq
        subst heq
        -- the names that follow are greater
        have hlater : (name, a) ∉ rest := fun hmem => lt_irrefl name (hother _ hmem)
        simp [hlater, eq_comm]
      · rename_i hne
        simp [hne, ih hrest]

/-- Members in order are determined by the values under their names. -/
theorem eq_of_get? (h : Ascending members) (h' : Ascending members')
    (hget : ∀ name, get? name members = get? name members') : members = members' := by
  have hirrefl : Std.Irrefl fun m m' : String × α => m.1 < m'.1 := ⟨fun m => lt_irrefl m.1⟩
  have hantisymm : Std.Antisymm fun m m' : String × α => m.1 < m'.1 :=
    ⟨fun _ _ hlt hgt => absurd hlt (lt_asymm hgt)⟩
  refine List.Pairwise.eq_of_mem_iff h h' fun m => ?_
  rw [mem_iff_get? h, mem_iff_get? h', hget]

/-- The names are those under which something is found. -/
theorem mem_names_iff : name ∈ members.map Prod.fst ↔ ∃ a, get? name members = some a := by
  induction members with
  | nil => simp [get?]
  | cons m rest ih =>
      rw [List.map_cons, List.mem_cons, get?]
      split
      · rename_i heq
        simp [heq]
      · rename_i hne
        simp [hne, ih]

end SqlppBench.Members
