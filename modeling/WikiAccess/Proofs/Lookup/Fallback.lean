import WikiAccess.Proofs.Lookup.Find
import WikiAccess.Proofs.Store.History

/-!
# Which names are read to find a page

A name that shows nothing is not looked up.  Every other name is read as it is, and its other
number is read after it exactly when there is no page of the name itself and plurals are
matched.  The last answer is what the search comes to (`conclusion`).

`find_follows_fallback` says this for every store, and for a memory store what follows for
the singular and the plural of a word.  They lead to the same pages, each preferring its own.
-/

namespace WikiAccess
namespace PageIndex

/-- What a search comes to when this is the answer to its last read. -/
def conclusion (raw : String) : Except StoreError (Option Page) → Except LookupError Page
  | .error cause => .error (.store cause)
  | .ok none => .error (.pageNotFound raw)
  | .ok (some page) => .ok page

theorem conclusion_ok_eq_error_iff {raw : String} {found : Option Page} :
    (∃ error, conclusion raw (.ok found) = .error error) ↔ found = none := by
  cases found <;> simp [conclusion]

variable {index : PageIndex} {raw : String}

section NotBlank

variable (hblank : Text.isBlankText raw = false)

include hblank

/-- Unless the store has no page of the exact name, its answer to it is the only one. -/
theorem find_of_exact_answer (h : index.store.newest ⟨raw⟩ ≠ .ok none) :
    (index.find raw).reads = [⟨raw⟩] ∧
      (index.find raw).result = conclusion raw (index.store.newest ⟨raw⟩) := by
  rw [find_of_not_blank hblank]
  cases hexact : index.store.newest ⟨raw⟩ with
  | error cause => exact ⟨rfl, rfl⟩
  | ok found =>
    cases found with
    | none => exact absurd hexact h
    | some page => exact ⟨rfl, rfl⟩

/-- The other number is read when there is no page of the exact name, and decides. -/
theorem find_of_other_answer (hexact : index.store.newest ⟨raw⟩ = .ok none) {other : PageName}
    (h : index.variant? raw = some other) :
    (index.find raw).reads = [⟨raw⟩, other] ∧
      (index.find raw).result = conclusion raw (index.store.newest other) := by
  simp only [find_of_not_blank hblank, hexact, h]
  cases hother : index.store.newest other with
  | error cause => exact ⟨rfl, rfl⟩
  | ok found => cases found <;> exact ⟨rfl, rfl⟩

/-- A store that answers has the page of the exact name or that of its other number. -/
theorem result_find_of_answers {other : PageName} (hvariant : index.variant? raw = some other)
    {own fallback : Option Page} (hown : index.store.newest ⟨raw⟩ = .ok own)
    (hfallback : index.store.newest other = .ok fallback) :
    (index.find raw).result = conclusion raw (.ok (own.or fallback)) := by
  cases own with
  | some page =>
    have hexact : index.store.newest ⟨raw⟩ ≠ .ok none := by
      rw [hown]
      simp
    rw [(find_of_exact_answer hblank hexact).2, hown, Option.some_or]
  | none => rw [(find_of_other_answer hblank hown hvariant).2, hfallback, Option.none_or]

end NotBlank

/-- What ends in `s` is not blank. -/
theorem isBlankText_append_s (singular : String) : Text.isBlankText (singular ++ "s") = false :=
  Text.isBlankText_eq_false_iff.mpr ⟨'s', by simp, by decide⟩

/-- Finding a page follows its fallback exactly.

* A blank name is not found, and nothing is read.
* The store is first read for the name as it is.  A page or a failure there is the result,
  and nothing else is read.
* When there is no such page, a second name is read exactly if plurals are matched and the
  first is not the single letter `s`.  It is the name in its other number, and the answer
  decides in the same way.  Without one the first name is not found.
* The message of a failure is that of the store.

In a memory store that is not poisoned, with plurals matched, a singular and its plural fail
together, when there is a page of neither.  Otherwise each leads to its own page if there is
one, and to that of the other if not. -/
theorem find_follows_fallback :
    (∀ (index : PageIndex) (raw : String),
      let run := index.find raw
      let own := index.store.newest ⟨raw⟩
      ((∀ c ∈ raw.toList, Text.isBlank c = true) →
        run.reads = [] ∧ run.result = .error (.pageNotFound raw)) ∧
      ((∃ c ∈ raw.toList, Text.isBlank c = false) →
        (own ≠ .ok none → run.reads = [⟨raw⟩] ∧ run.result = conclusion raw own) ∧
        (own = .ok none → ¬ (index.matchesPlurals = true ∧ raw ≠ "s") →
          run.reads = [⟨raw⟩] ∧ run.result = .error (.pageNotFound raw)) ∧
        (own = .ok none → index.matchesPlurals = true → raw ≠ "s" →
          ∃ other, IsOtherNumber raw other ∧ run.reads = [⟨raw⟩, other] ∧
            run.result = conclusion raw (index.store.newest other)))) ∧
    (∀ raw cause error, conclusion raw (.error cause) = .error error →
      error.message = cause.message) ∧
    (∀ (memory : MemoryStore) (singular : String), memory.poisoned = false →
      (∃ c ∈ singular.toList, Text.isBlank c = false) →
      (∀ shorter, singular ≠ shorter ++ "s") →
      let plural := singular ++ "s"
      let found (raw : String) := (PageIndex.find ⟨memory.toPageStore, true⟩ raw).result
      ∃ one many, memory.newest ⟨singular⟩ = .ok one ∧ memory.newest ⟨plural⟩ = .ok many ∧
        found singular = conclusion singular (.ok (one.or many)) ∧
        found plural = conclusion plural (.ok (many.or one)) ∧
        ((∃ error, found singular = .error error) ↔ one = none ∧ many = none) ∧
        ((∃ error, found plural = .error error) ↔ one = none ∧ many = none)) := by
  refine ⟨?_, ?_, ?_⟩
  · intro index raw run own
    refine ⟨?_, ?_⟩
    · intro hblank
      have hrun : run = _ := find_of_blank (List.all_eq_true.mpr hblank)
      rw [hrun]
      exact ⟨rfl, rfl⟩
    · intro hvisible
      have hblank := Text.isBlankText_eq_false_iff.mpr hvisible
      refine ⟨find_of_exact_answer hblank, ?_, ?_⟩
      · intro hexact hsingle
        have hrun : run = _ := find_of_no_variant hblank hexact (variant?_eq_none hsingle)
        rw [hrun]
        exact ⟨rfl, rfl⟩
      · intro hexact hplurals hraw
        obtain ⟨other, hother⟩ := exists_isOtherNumber_iff.mpr hraw
        exact ⟨other, hother,
          find_of_other_answer hblank hexact (variant?_eq_some_iff.mpr ⟨hplurals, hother⟩)⟩
  · intro raw cause error h
    cases h
    rfl
  · intro memory singular hpoisoned hvisible hsingular plural found
    have hone := MemoryStore.newest_of_not_poisoned hpoisoned ⟨singular⟩
    have hmany := MemoryStore.newest_of_not_poisoned hpoisoned ⟨plural⟩
    have hne : singular ≠ "" := by
      rintro rfl
      simp at hvisible
    have hfoundOne : found singular = _ :=
      result_find_of_answers (Text.isBlankText_eq_false_iff.mpr hvisible)
        (variant?_eq_some_iff.mpr ⟨rfl, .inr ⟨rfl, hsingular⟩⟩) hone hmany
    have hfoundMany : found plural = _ :=
      result_find_of_answers (isBlankText_append_s singular)
        (variant?_eq_some_iff.mpr ⟨rfl, .inl ⟨rfl, hne⟩⟩) hmany hone
    refine ⟨_, _, hone, hmany, hfoundOne, hfoundMany, ?_, ?_⟩
    · rw [hfoundOne, conclusion_ok_eq_error_iff, Option.or_eq_none_iff]
    · rw [hfoundMany, conclusion_ok_eq_error_iff, Option.or_eq_none_iff, and_comm]

end PageIndex
end WikiAccess
