import WorkflowCanvas.Failure
import WorkflowCanvas.Json.Printer
import WorkflowCanvas.Operation.Basic
/-!
# The registry of operations

Descriptors in the order in which they were registered, no two with the
same id, and the position of each id among them. An id is registered as it
is or not at all: blank ids, ids with blanks around them and ids already
present are rejected, and nothing that is registered is ever replaced.
Listings go through the descriptors, and lookups by id through the
positions; a registry carries the proof that the two are in step.
-/


namespace WorkflowCanvas

open Operation (Descriptor Kind)

/-- Where nothing is registered, no id leads anywhere. -/
theorem Registry.indexed_nil (id : String) (i : Nat) :
    Table.get? ([] : Table Nat) id = some i ↔
      (([] : List Descriptor)[i]?).map (·.id) = some id := by
  rw [List.getElem?_nil]
  exact iff_of_false (fun h => nomatch h) fun h => nomatch h

/-- Registered operations. -/
structure Registry where
  /-- The descriptors in order of registration. -/
  entries : List Descriptor := []
  /-- The position of each id. -/
  index : Table Nat := []
  /-- The index leads from an id to where it stands, and from nothing else
  anywhere. -/
  indexed : ∀ id i, index.get? id = some i ↔ (entries[i]?).map (·.id) = some id := by
    exact Registry.indexed_nil
deriving DecidableEq

namespace Registry

/-- The descriptor with an id. -/
def find? (r : Registry) (id : String) : Option Descriptor :=
  (r.index.get? id).bind fun i => r.entries[i]?

/-- An id is registered. -/
def contains (r : Registry) (id : String) : Bool := r.index.contains id

/-- The descriptor with an id, or why there is none. -/
def get (r : Registry) (id : String) : Except Failure Descriptor :=
  match r.find? id with
  | some d => .ok d
  | none => .error (.operationNotFound id)

/-- Behind the others there is room for a new id. -/
theorem indexed_push (r : Registry) {d : Descriptor} (hnew : ¬ r.contains d.id = true)
    (id : String) (i : Nat) : (r.index.insert d.id r.entries.length).get? id = some i ↔
      ((r.entries ++ [d])[i]?).map (·.id) = some id := by
  have hnone : r.index.get? d.id = none := Option.not_isSome_iff_eq_none.1 hnew
  by_cases hi : i = r.entries.length
  · subst hi
    rw [List.getElem?_concat_length, Option.map_some, Option.some_inj]
    by_cases hid : id = d.id
    · rw [hid, Table.get?_insert_self]
      exact iff_of_true rfl rfl
    · -- no other id leads behind the end
      rw [Table.get?_insert_of_ne _ _ hid, r.indexed, List.getElem?_eq_none (Nat.le_refl _)]
      exact iff_of_false (fun h => nomatch h) fun h => hid h.symm
  · -- at another position nothing changes
    have hold : (r.entries ++ [d])[i]? = r.entries[i]? := by
      rcases Nat.lt_or_gt_of_ne hi with hlt | hgt
      · exact List.getElem?_append_left hlt
      · have hend : (r.entries ++ [d]).length ≤ i := by rwa [List.length_append]
        rw [List.getElem?_eq_none hend, List.getElem?_eq_none (Nat.le_of_lt hgt)]
    rw [hold, ← r.indexed]
    by_cases hid : id = d.id
    · rw [hid, Table.get?_insert_self, hnone, Option.some_inj]
      exact iff_of_false (Ne.symm hi) fun h => nomatch h
    · rw [Table.get?_insert_of_ne _ _ hid]

/-- The registry with one more descriptor. -/
def push (r : Registry) (d : Descriptor) (hnew : ¬ r.contains d.id = true) : Registry where
  entries := r.entries ++ [d]
  index := r.index.insert d.id r.entries.length
  indexed := r.indexed_push hnew

/-- Registers a descriptor. -/
def register (r : Registry) (d : Descriptor) : Except Failure Registry :=
  let trimmed := Text.trim d.id
  if trimmed = "" then .error .blankOperationId
  else if trimmed ≠ d.id then .error (.paddedOperationId d.id)
  else if h : r.contains d.id then .error (.duplicateOperation d.id)
  else .ok (r.push d h)

/-- Registers descriptors one after the other, leaving out those that are
rejected. -/
def registerAll (r : Registry) : List Descriptor → Registry
  | [] => r
  | d :: rest =>
    match r.register d with
    | .ok r => registerAll r rest
    | .error _ => registerAll r rest

/-- The number of operations. -/
def size (r : Registry) : Nat := r.entries.length

/-- The operations of a category. -/
def inCategory (r : Registry) (category : String) : List Descriptor :=
  r.entries.filter fun d => d.category == category

/-- The operations of a kind. -/
def ofKind (r : Registry) (kind : Kind) : List Descriptor :=
  r.entries.filter fun d => d.kind == kind

/-- How many descriptors have each value of a property, for the values
that occur. -/
def tally (entries : List Descriptor) (property : Descriptor → String) : Table Nat :=
  entries.foldl
    (fun t d => t.insert (property d) ((t.get? (property d)).getD 0 + 1)) ([] : Table Nat)

/-- Counts over a registry. -/
structure Stats where
  total : Nat
  byKind : Table Nat
  byCategory : Table Nat
deriving BEq, DecidableEq

/-- The counts over a registry. -/
def stats (r : Registry) : Stats where
  total := r.size
  byKind := tally r.entries fun d => d.kind.label
  byCategory := tally r.entries fun d => d.category

/-- The document of counts. -/
def Stats.toDocument (s : Stats) : Document :=
  let count (n : Nat) : Document := .int n
  .obj [("total", count s.total), ("byKind", Document.table count s.byKind),
        ("byCategory", Document.table count s.byCategory)]

/-- All descriptors as a text. -/
def describe (r : Registry) : String := (Document.list Descriptor.toDocument r.entries).pretty

end Registry

end WorkflowCanvas
