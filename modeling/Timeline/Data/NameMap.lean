/-!
# Maps keyed by name

A `NameMap` holds values under names, sorted by name (in the order of code
points, which is the order of their UTF-8 bytes), each name at most once.
Inserting under a name that is present replaces its value, so the last write
wins; iteration follows the names' order.
-/

namespace Timeline

/-- Inserts an entry into a list sorted by name, replacing an entry of that name. -/
def insertSorted {α : Type} (k : String) (v : α) : List (String × α) → List (String × α)
  | [] => [(k, v)]
  | (k', v') :: rest =>
    if k < k' then (k, v) :: (k', v') :: rest
    else if k = k' then (k, v) :: rest
    else (k', v') :: insertSorted k v rest

/-- Values by name, sorted by name. -/
structure NameMap (α : Type) where
  entries : List (String × α) := []
  deriving DecidableEq, Repr

namespace NameMap

variable {α : Type}

/-- The map without entries. -/
def empty : NameMap α := {}

/-- Writes a value under a name. -/
def insert (m : NameMap α) (k : String) (v : α) : NameMap α :=
  ⟨insertSorted k v m.entries⟩

/-- The value under a name. -/
def get? (m : NameMap α) (k : String) : Option α :=
  (m.entries.find? (·.1 == k)).map (·.2)

/-- Removes the entry of a name. -/
def erase (m : NameMap α) (k : String) : NameMap α :=
  ⟨m.entries.filter (·.1 != k)⟩

/-- Whether a name has a value. -/
def contains (m : NameMap α) (k : String) : Bool :=
  (m.get? k).isSome

/-- The number of names with a value. -/
def size (m : NameMap α) : Nat :=
  m.entries.length

/-- Whether no name has a value. -/
def isEmpty (m : NameMap α) : Bool :=
  m.entries.isEmpty

/-- The names, in order. -/
def keys (m : NameMap α) : List String :=
  m.entries.map (·.1)

/-- The map of a list of entries, written in order. -/
def ofList (entries : List (String × α)) : NameMap α :=
  entries.foldl (fun m (k, v) => m.insert k v) empty

/-! The lemmas below read a map through `get?` and hold of every list of
entries, sorted or not. -/

theorem find?_insertSorted (k k' : String) (v : α) (l : List (String × α)) :
    (insertSorted k v l).find? (·.1 == k') =
      if k = k' then some (k, v) else l.find? (·.1 == k') := by
  induction l with
  | nil => by_cases h : k = k' <;> simp [insertSorted, h]
  | cons e l ih =>
    obtain ⟨k₁, v₁⟩ := e
    -- the new entry goes in front, replaces the head, or goes further down
    by_cases hlt : k < k₁
    · by_cases h : k = k'
      · subst h
        simp [insertSorted, hlt]
      · simp [insertSorted, hlt, h]
    · by_cases heq : k = k₁
      · subst heq
        rw [insertSorted, if_neg hlt, if_pos rfl]
        by_cases h : k = k' <;> simp [h]
      · by_cases h : k₁ = k'
        · subst h
          simp [insertSorted, hlt, heq]
        · simp [insertSorted, hlt, heq, h, ih]

theorem mem_insertSorted {k : String} {v : α} {e : String × α} {l : List (String × α)}
    (h : e ∈ insertSorted k v l) : e ∈ l ∨ e = (k, v) := by
  fun_induction insertSorted k v l with
  | case1 => simp_all
  | case2 k₁ v₁ rest hlt =>
    rcases List.mem_cons.mp h with h | h
    · exact .inr h
    · exact .inl h
  | case3 v₁ rest hlt =>
    rcases List.mem_cons.mp h with h | h
    · exact .inr h
    · exact .inl (List.mem_cons_of_mem _ h)
  | case4 k₁ v₁ rest hlt heq ih =>
    rcases List.mem_cons.mp h with h | h
    · exact .inl (h ▸ List.mem_cons_self)
    · rcases ih h with h | h
      · exact .inl (List.mem_cons_of_mem _ h)
      · exact .inr h

@[simp] theorem get?_empty (k : String) : (empty : NameMap α).get? k = none := rfl

@[simp] theorem get?_insert (m : NameMap α) (k k' : String) (v : α) :
    (m.insert k v).get? k' = if k = k' then some v else m.get? k' := by
  simp only [get?, insert, find?_insertSorted]
  split <;> simp

theorem find?_filter_ne (k k' : String) (l : List (String × α)) :
    (l.filter (·.1 != k)).find? (·.1 == k') = if k = k' then none else l.find? (·.1 == k') := by
  induction l with
  | nil => simp
  | cons e l ih =>
    by_cases he : e.1 = k
    · by_cases h : k = k' <;> simp_all
    · by_cases he' : e.1 = k'
      · have hne : k ≠ k' := fun h => he (he'.trans h.symm)
        simp_all
      · simp_all

@[simp] theorem get?_erase (m : NameMap α) (k k' : String) :
    (m.erase k).get? k' = if k = k' then none else m.get? k' := by
  simp only [get?, erase, find?_filter_ne]
  split <;> simp

theorem mem_keys (m : NameMap α) (k : String) : k ∈ m.keys ↔ (m.get? k).isSome := by
  simp [keys, get?, List.find?_isSome]

theorem mem_entries_insert {m : NameMap α} {k : String} {v : α} {e : String × α}
    (h : e ∈ (m.insert k v).entries) : e ∈ m.entries ∨ e = (k, v) :=
  mem_insertSorted h

end NameMap

end Timeline
