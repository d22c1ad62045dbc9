/-!
# Keyed lists

A finite map as the list of its entries in the order in which the keys first appeared. `find?` is
the view: what an entry's change does to every look-up is stated beside the operation.
-/

namespace SignIn

/-- A finite map as a list of entries. -/
abbrev Keyed (κ α : Type) := List (κ × α)

namespace Keyed

variable {κ α : Type} [DecidableEq κ]

def find? (k : κ) : Keyed κ α → Option α
  | [] => none
  | (k', v) :: rest => if k' = k then some v else find? k rest

/-- Gives a key a value: in its place if the key is there, else at the end. -/
def put (k : κ) (v : α) : Keyed κ α → Keyed κ α
  | [] => [(k, v)]
  | (k', w) :: rest => if k' = k then (k', v) :: rest else (k', w) :: put k v rest

def drop (k : κ) (m : Keyed κ α) : Keyed κ α :=
  m.filter fun e => e.1 ≠ k

/-- Entries given one after the other, of which the last of a key counts. -/
def ofEntries (entries : List (κ × α)) : Keyed κ α :=
  entries.foldl (fun m (k, v) => put k v m) []

/-- Nothing is found where nothing is kept. -/
@[simp] theorem find?_nil (k : κ) : find? k ([] : Keyed κ α) = none := rfl

/-- A look-up after `put` finds the new value under its key and the old ones elsewhere. -/
theorem find?_put (m : Keyed κ α) (k k' : κ) (v : α) :
    find? k' (put k v m) = if k = k' then some v else find? k' m := by
  induction m with
  | nil => by_cases h : k = k' <;> simp [put, find?, h]
  | cons e rest ih =>
    obtain ⟨j, w⟩ := e
    by_cases hj : j = k
    · subst hj
      by_cases h : j = k' <;> simp [put, find?, h]
    · by_cases h : j = k'
      · subst h
        simp [put, find?, hj, Ne.symm hj]
      · simp [put, find?, hj, h, ih]

/-- What was put under a key is found there. -/
@[simp] theorem find?_put_self (m : Keyed κ α) (k : κ) (v : α) :
    find? k (put k v m) = some v := by
  simp [find?_put]

/-- A look-up after `drop` finds nothing under the key and the old values elsewhere. -/
theorem find?_drop (m : Keyed κ α) (k k' : κ) :
    find? k' (drop k m) = if k = k' then none else find? k' m := by
  induction m with
  | nil => simp [drop]
  | cons e rest ih =>
    obtain ⟨j, w⟩ := e
    have ih : find? k' (rest.filter fun e => e.1 ≠ k) = if k = k' then none else find? k' rest := ih
    by_cases hj : j = k
    · subst hj
      by_cases h : j = k'
      · simpa [drop, h] using ih
      · simpa [drop, find?, h] using ih
    · by_cases h : j = k'
      · subst h
        simp [drop, find?, hj, Ne.symm hj]
      · simpa [drop, find?, hj, h] using ih

/-- A dropped key is no longer found. -/
@[simp] theorem find?_drop_self (m : Keyed κ α) (k : κ) : find? k (drop k m) = none := by
  simp [find?_drop]

end Keyed

end SignIn
