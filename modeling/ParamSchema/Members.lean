/-!
# Member lists

Keys with their values in order of insertion. Lookup is `List.lookup`.
-/

set_option autoImplicit false

namespace ParamSchema.Members

variable {α : Type}

def keys (members : List (String × α)) : List String := members.map Prod.fst

def contains (members : List (String × α)) (key : String) : Bool := (members.lookup key).isSome

/-- Sets a key: a present one keeps its position, a new one goes to the end. -/
def insert (key : String) (value : α) : List (String × α) → List (String × α)
  | [] => [(key, value)]
  | (k, v) :: rest => if k == key then (k, value) :: rest else (k, v) :: insert key value rest

theorem contains_eq_true_iff {members : List (String × α)} {key : String} :
    contains members key = true ↔ key ∈ keys members := by
  induction members with
  | nil => simp [contains, keys]
  | cons member rest ih =>
    obtain ⟨k, v⟩ := member
    by_cases hKey : key = k
    · subst hKey
      simp [contains, keys]
    · have hBeq : (key == k) = false := by simpa using hKey
      have hRest : contains ((k, v) :: rest) key = contains rest key := by
        simp [contains, List.lookup_cons, hBeq]
      simp [hRest, ih, keys, hKey]

end ParamSchema.Members
