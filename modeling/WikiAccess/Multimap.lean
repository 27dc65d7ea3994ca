/-!
# Lists of values kept under keys

Two tables of this library give each key a list that only ever grows at its end:
the revisions of a page, and the permissions granted to a principal.  Both are a
`Multimap`.  The view of a multimap is `valuesOf`, and `valuesOf_push` says what
`push` does to it, so that nothing else depends on how the entries are arranged.
-/

namespace WikiAccess

/-- For each key, its values in the order in which they were pushed. -/
structure Multimap (κ ν : Type) where
  entries : List (κ × List ν)
  deriving Repr

namespace Multimap

variable {κ ν : Type} [DecidableEq κ]

def empty : Multimap κ ν := ⟨[]⟩

/-- The values under `key`, none when the key was never pushed to. -/
def valuesOf (m : Multimap κ ν) (key : κ) : List ν :=
  (m.entries.lookup key).getD []

/-- Append `value` to the entry of `key`, opening the entry at the end when
there is none. -/
def pushEntry (key : κ) (value : ν) : List (κ × List ν) → List (κ × List ν)
  | [] => [(key, [value])]
  | (k, values) :: rest =>
    if k = key then (k, values ++ [value]) :: rest
    else (k, values) :: pushEntry key value rest

/-- Append `value` to the values of `key`. -/
def push (m : Multimap κ ν) (key : κ) (value : ν) : Multimap κ ν :=
  ⟨pushEntry key value m.entries⟩

/-- An entry under another key does not matter to a lookup. -/
theorem lookup_entry_of_ne {k other : κ} (h : other ≠ k) (values : List ν)
    (rest : List (κ × List ν)) :
    ((k, values) :: rest).lookup other = rest.lookup other := by
  rw [List.lookup_cons, beq_false_of_ne h]

theorem lookup_pushEntry (key : κ) (value : ν) (entries : List (κ × List ν)) (other : κ) :
    ((pushEntry key value entries).lookup other).getD [] =
      (entries.lookup other).getD [] ++ if other = key then [value] else [] := by
  induction entries with
  | nil =>
    by_cases h : other = key
    · simp [pushEntry, h]
    · simp [pushEntry, h, lookup_entry_of_ne h]
  | cons entry rest ih =>
    obtain ⟨k, values⟩ := entry
    by_cases hk : k = key
    · subst hk
      by_cases h : other = k
      · simp [pushEntry, h]
      · simp [pushEntry, h, lookup_entry_of_ne h]
    · by_cases h : other = k
      · subst h
        simp [pushEntry, hk]
      · simpa [pushEntry, hk, lookup_entry_of_ne h] using ih

/-- Pushing adds the value at the end of the list of its key and leaves the list
of every other key alone. -/
theorem valuesOf_push (m : Multimap κ ν) (key : κ) (value : ν) (other : κ) :
    (m.push key value).valuesOf other =
      m.valuesOf other ++ if other = key then [value] else [] :=
  lookup_pushEntry key value m.entries other

@[simp]
theorem valuesOf_push_self (m : Multimap κ ν) (key : κ) (value : ν) :
    (m.push key value).valuesOf key = m.valuesOf key ++ [value] := by
  simp [valuesOf_push]

end Multimap
end WikiAccess
