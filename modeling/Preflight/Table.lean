/-!
# Tables

A table gives values to names and keeps the names in the order they were first given one.
`lookup_put` says what a table holds after a change, `map_fst_put` and `getElem?_put` that its order stays.
-/

namespace Preflight

abbrev Table (α : Type) := List (String × α)

namespace Table

variable {α : Type}

/-- Gives a name a value: in its place if it is known, else at the end. -/
def put : List (String × α) → String → α → List (String × α)
  | [], name, value => [(name, value)]
  | (n, v) :: rest, name, value =>
    if n = name then (n, value) :: rest else (n, v) :: put rest name value

theorem lookup_put (table : List (String × α)) (name n : String) (value : α) :
    (put table name value).lookup n = if n = name then some value else table.lookup n := by
  induction table with
  | nil =>
    by_cases h : n = name
    · simp [put, h]
    · have : (n == name) = false := by simpa using h
      simp [put, List.lookup_cons, h, this]
  | cons m rest ih =>
    obtain ⟨k, v⟩ := m
    by_cases hk : k = name
    · subst hk
      by_cases h : n = k
      · simp [put, h]
      · have : (n == k) = false := by simpa using h
        simp [put, List.lookup_cons, h, this]
    · by_cases h : n = k
      · subst h
        simp [put, hk]
      · have : (n == k) = false := by simpa using h
        simp [put, hk, List.lookup_cons, this, ih]

theorem mem_put {table : List (String × α)} {name : String} {value : α} {m : String × α}
    (h : m ∈ put table name value) : m = (name, value) ∨ m ∈ table := by
  induction table with
  | nil => simpa [put] using h
  | cons first rest ih =>
    obtain ⟨k, v⟩ := first
    by_cases hk : k = name
    · simp only [put, hk, if_true, List.mem_cons] at h
      rcases h with rfl | h
      · exact .inl rfl
      · exact .inr (List.mem_cons_of_mem _ h)
    · simp only [put, hk, if_false, List.mem_cons] at h
      rcases h with rfl | h
      · exact .inr List.mem_cons_self
      · exact (ih h).imp id (List.mem_cons_of_mem _)

/-- A change keeps the names in their order; a new one is the last. -/
theorem map_fst_put (table : List (String × α)) (name : String) (value : α) :
    (put table name value).map (·.1) =
      if name ∈ table.map (·.1) then table.map (·.1) else table.map (·.1) ++ [name] := by
  induction table with
  | nil => simp [put]
  | cons first rest ih =>
    obtain ⟨k, v⟩ := first
    by_cases hk : k = name
    · simp [put, hk]
    · by_cases hm : name ∈ rest.map (·.1)
      · simp [put, hk, ih, hm]
      · simp [put, hk, ih, hm, Ne.symm hk]

/-- A change leaves what stands at a place there, unless it is the name that is given another value. -/
theorem getElem?_put {table : List (String × α)} {i : Nat} {m : String × α} (h : table[i]? = some m)
    (name : String) (value : α) : (put table name value)[i]? = some m ∨
      m.1 = name ∧ table.lookup name = some m.2 ∧ (put table name value)[i]? = some (name, value) := by
  induction table generalizing i with
  | nil => simp at h
  | cons first rest ih =>
    obtain ⟨k, v⟩ := first
    by_cases hk : k = name
    · subst hk
      cases i with
      | zero =>
        obtain rfl : (k, v) = m := by simpa using h
        simp [put]
      | succ i =>
        left
        simpa [put] using h
    · cases i with
      | zero =>
        left
        simpa [put, hk] using h
      | succ i =>
        have hne : (name == k) = false := by simpa using Ne.symm hk
        simpa [put, hk, List.lookup_cons, hne] using ih (by simpa using h)

def erase (table : List (String × α)) (name : String) : List (String × α) :=
  table.filter (·.1 != name)

end Table

end Preflight
