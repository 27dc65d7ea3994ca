/-!
# Texts put together from parts

What follows from two texts being equal that were put together in the same way.  A part of
which the rest is known can be told, and so can the parts on both sides of a separator, as
long as the separator is known to be the first one or the last one in the text.
-/

namespace WikiAccess
namespace Text

theorem append_left_cancel {before text other : String} (h : before ++ text = before ++ other) :
    text = other := by
  have hchars := congrArg String.toList h
  rw [String.toList_append, String.toList_append] at hchars
  exact String.toList_inj.mp (List.append_cancel_left hchars)

theorem append_right_cancel {text other after : String} (h : text ++ after = other ++ after) :
    text = other := by
  have hchars := congrArg String.toList h
  rw [String.toList_append, String.toList_append] at hchars
  exact String.toList_inj.mp (List.append_cancel_right hchars)

/-- Texts of which neither begin begins the other differ, however they go on. -/
theorem append_ne_append {first second : String} (hfirst : ¬ first.toList <+: second.toList)
    (hsecond : ¬ second.toList <+: first.toList) (rest other : String) :
    first ++ rest ≠ second ++ other := by
  intro h
  rw [← String.toList_inj, String.toList_append, String.toList_append] at h
  have hprefix : first.toList <+: second.toList ++ other.toList := ⟨rest.toList, h⟩
  exact (List.prefix_or_prefix_of_prefix hprefix (List.prefix_append _ _)).elim hfirst hsecond

theorem take_append {n : Nat} {first : String} (rest : String) (h : n ≤ first.toList.length) :
    (first ++ rest).toList.take n = first.toList.take n := by
  rw [String.toList_append, List.take_append_of_le_length h]

theorem getLast?_append {last : String} (first : String) (h : last.toList ≠ []) :
    (first ++ last).toList.getLast? = last.toList.getLast? := by
  rw [String.toList_append, List.getLast?_append, List.getLast?_eq_some_getLast h, Option.some_or]

/-! ## Texts around a separator -/

section Separator

variable {α : Type} {separator : α} {before other after rest : List α}

/-- The longer of two parts before a separator would contain it. -/
theorem eq_or_mem_of_append_eq (h : before ++ separator :: after = other ++ separator :: rest) :
    (before = other ∧ after = rest) ∨ (separator ∈ before ∧ separator ∈ rest) ∨
      (separator ∈ other ∧ separator ∈ after) := by
  rcases List.append_eq_append_iff.mp h with ⟨between, hother, hrest⟩ | ⟨between, hbefore, hafter⟩
  · cases between with
    | nil => exact .inl ⟨by simpa using hother.symm, (List.cons.inj hrest).2⟩
    | cons first between =>
      obtain ⟨rfl, rfl⟩ := List.cons.inj hrest
      exact .inr (.inr ⟨by simp [hother], by simp⟩)
  · cases between with
    | nil => exact .inl ⟨by simpa using hbefore, (List.cons.inj hafter).2.symm⟩
    | cons first between =>
      obtain ⟨rfl, rfl⟩ := List.cons.inj hafter
      exact .inr (.inl ⟨by simp [hbefore], by simp⟩)

end Separator

section Colon

variable {before other after rest : String}

theorem eq_or_colon_mem_of_append_eq (h : before ++ ":" ++ after = other ++ ":" ++ rest) :
    (before = other ∧ after = rest) ∨ (':' ∈ before.toList ∧ ':' ∈ rest.toList) ∨
      (':' ∈ other.toList ∧ ':' ∈ after.toList) := by
  have hlist (first second : String) :
      (first ++ ":" ++ second).toList = first.toList ++ ':' :: second.toList := by simp
  rw [← String.toList_inj, hlist, hlist] at h
  simpa only [String.toList_inj] using eq_or_mem_of_append_eq h

/-- The first colon of a text tells what is before it and what is after it. -/
theorem eq_of_first_colon (hbefore : ':' ∉ before.toList) (hother : ':' ∉ other.toList)
    (h : before ++ ":" ++ after = other ++ ":" ++ rest) : before = other ∧ after = rest := by
  rcases eq_or_colon_mem_of_append_eq h with heq | ⟨hmem, -⟩ | ⟨hmem, -⟩
  · exact heq
  · exact absurd hmem hbefore
  · exact absurd hmem hother

/-- The last colon of a text tells what is before it and what is after it. -/
theorem eq_of_last_colon (hafter : ':' ∉ after.toList) (hrest : ':' ∉ rest.toList)
    (h : before ++ ":" ++ after = other ++ ":" ++ rest) : before = other ∧ after = rest := by
  rcases eq_or_colon_mem_of_append_eq h with heq | ⟨-, hmem⟩ | ⟨-, hmem⟩
  · exact heq
  · exact absurd hmem hrest
  · exact absurd hmem hafter

end Colon

end Text
end WikiAccess
