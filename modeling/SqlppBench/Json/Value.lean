import SqlppBench.Number

/-! # JSON values

An object that is read has its members in the order of their names, each name once: two texts with
the same members give the same value, in whatever order they list them. An object that is written
lists its members as they stand.
-/

namespace SqlppBench

/-! ## Lists of members -/

namespace Members

variable {α : Type}

/-- Puts a member in its place in the order of names, instead of an earlier one of the name. -/
def insert (name : String) (a : α) : List (String × α) → List (String × α)
  | [] => [(name, a)]
  | (other, b) :: rest =>
    if name < other then (name, a) :: (other, b) :: rest
    else if name = other then (name, a) :: rest
    else (other, b) :: insert name a rest

/-- The value under a name. -/
def get? (name : String) : List (String × α) → Option α
  | [] => none
  | (other, b) :: rest => if name = other then some b else get? name rest

/-- The members of a list in the order of their names; of two with one name the later one counts. -/
def ofList (members : List (String × α)) : List (String × α) :=
  members.foldl (fun kept (name, a) => insert name a kept) []

theorem get?_insert (name other : String) (a : α) (members : List (String × α)) :
    get? other (insert name a members) = if other = name then some a else get? other members := by
  induction members with
  | nil => by_cases h : other = name <;> simp [insert, get?, h]
  | cons m rest ih =>
    obtain ⟨key, b⟩ := m
    unfold insert
    split
    · by_cases h : other = name <;> simp [get?, h]
    · split
      · rename_i h
        subst h
        by_cases h : other = name <;> simp [get?, h]
      · rename_i hne
        by_cases h : other = key
        · subst h
          simp [get?, Ne.symm hne]
        · simp [get?, h, ih]

end Members

namespace Json

/-- A JSON value. -/
inductive Value where
  | null
  | bool (b : Bool)
  | number (n : Number)
  | string (s : String)
  | array (items : List Value)
  | object (members : List (String × Value))

end Json

end SqlppBench
