/-!
# Tables sorted by key

A table maps texts to values and is listed in the order of its keys, code
point by code point. It is held as the list of its entries: `insert` keeps
the list sorted and free of repeated keys, so two tables with the same
entries are the same list.
-/


namespace WorkflowCanvas

/-- Entries in the order of their keys. -/
abbrev Table (α : Type) := List (String × α)

namespace Table

variable {α β : Type}

/-- The value at a key. -/
def get? (t : Table α) (k : String) : Option α := (List.find? (fun e => e.1 == k) t).map (·.2)

/-- The table has a value at the key. -/
def contains (t : Table α) (k : String) : Bool := (get? t k).isSome

/-- Writes a value at a key, over the one that stood there. -/
def insert (t : Table α) (k : String) (v : α) : Table α :=
  match t with
  | [] => [(k, v)]
  | (k', v') :: rest =>
    if k < k' then (k, v) :: (k', v') :: rest
    else if k = k' then (k, v) :: rest
    else (k', v') :: insert rest k v

/-- Writes entries one after the other. -/
def insertAll (t : Table α) (entries : List (String × α)) : Table α :=
  entries.foldl (fun t e => insert t e.1 e.2) t

/-- The table of a list of entries, the last one of a key winning. -/
def ofList (entries : List (String × α)) : Table α := insertAll [] entries

/-- Writes an optional value; an absent one changes nothing. -/
def insertSome (t : Table α) (k : String) : Option α → Table α
  | some v => insert t k v
  | none => t

/-- Takes the value at a key away. -/
def erase (t : Table α) (k : String) : Table α := List.filter (fun e => e.1 != k) t

/-- The keys in order. -/
def keys (t : Table α) : List String := List.map (·.1) t

/-- Applies a function to every value. -/
def mapValues (f : α → β) (t : Table α) : Table β := List.map (fun e => (e.1, f e.2)) t

/-- A value just written is found. -/
theorem get?_insert_self (t : Table α) (k : String) (v : α) : get? (insert t k v) k = some v := by
  induction t with
  | nil => simp [insert, get?]
  | cons e rest ih =>
    obtain ⟨k', v'⟩ := e
    unfold insert
    split
    · simp [get?]
    · split
      · simp [get?]
      · rename_i hne
        have hk : (k' == k) = false := by simpa using Ne.symm hne
        simpa [get?, List.find?, hk] using ih

/-- Writing at one key leaves the value at another. -/
theorem get?_insert_of_ne (t : Table α) {k j : String} (v : α) (h : j ≠ k) :
    get? (insert t k v) j = get? t j := by
  have hkj : (k == j) = false := by simpa using Ne.symm h
  induction t with
  | nil => simp [insert, get?, hkj]
  | cons e rest ih =>
    obtain ⟨k', v'⟩ := e
    unfold insert
    split
    · simp [get?, List.find?, hkj]
    · split
      · rename_i heq
        subst heq
        simp [get?, List.find?, hkj]
      · simp only [get?, List.find?] at ih ⊢
        split <;> simp_all

end Table

end WorkflowCanvas
