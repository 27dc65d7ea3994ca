import WikiAccess.Proofs.Lookup.Fallback
import WikiAccess.Store.Memory

/-!
# Valid names among those that are read

Untrusted text makes a name when it shows a character.  A name that someone typed is looked up
only then, and its plural shows an `s` of its own.  Its singular is made without a second look
at what is left, and nothing but blank characters may be left.

`reads_valid_iff` says that this is the only way to a read of a name that could not have been
typed.  `reads_blank_singular` is a search that takes it.
-/

namespace WikiAccess

namespace PageIndex

variable {index : PageIndex} {raw : String} {name : PageName}

/-! ## The names that are read -/

theorem reads_of_absent (hblank : Text.isBlankText raw = false)
    (hexact : index.store.newest ⟨raw⟩ = .ok none) :
    (index.find raw).reads = ⟨raw⟩ :: (index.variant? raw).toList := by
  cases hvariant : index.variant? raw with
  | none =>
    rw [find_of_no_variant hblank hexact hvariant]
    rfl
  | some other => exact (find_of_other_answer hblank hexact hvariant).1

/-- The name as it was typed is read unless it is blank, and its other number when there is no
page of that name. -/
theorem mem_reads_find_iff :
    name ∈ (index.find raw).reads ↔
      Text.isBlankText raw = false ∧
        (name = ⟨raw⟩ ∨
          index.store.newest ⟨raw⟩ = .ok none ∧ index.variant? raw = some name) := by
  cases hblank : Text.isBlankText raw with
  | true =>
    rw [find_of_blank hblank]
    simp [Run.reads]
  | false =>
    by_cases hexact : index.store.newest ⟨raw⟩ = .ok none
    · rw [reads_of_absent hblank hexact]
      simp [hexact]
    · rw [(find_of_exact_answer hblank hexact).1]
      simp [hexact]

/-! ## Blank singulars -/

/-- The search falls back to a name that shows nothing: plurals are matched, there is no page of
the typed name, and without its final `s` that name is blank but not empty. -/
structure FallsBackToBlank (index : PageIndex) (raw : String) (singular : PageName) : Prop where
  matches_plurals : index.matchesPlurals = true
  absent : index.store.newest ⟨raw⟩ = .ok none
  plural : raw = singular.text ++ "s"
  ne_empty : singular.text ≠ ""
  blank : ∀ c ∈ singular.text.toList, Text.isBlank c = true

/-- A plural shows its final `s`, so that only a singular can be blank. -/
theorem eq_append_s_of_isOtherNumber (hother : IsOtherNumber raw name) (h : ¬ name.Shows) :
    raw = name.text ++ "s" ∧ name.text ≠ "" := by
  rcases hother with hsingular | ⟨hplural, -⟩
  · exact hsingular
  · refine absurd (Name.shows_iff.mpr ?_) h
    rw [hplural]
    exact isBlankText_append_s raw

section FallsBackToBlank

variable (h : index.FallsBackToBlank raw name)

include h

theorem FallsBackToBlank.isBlankText_eq_false : Text.isBlankText raw = false := by
  rw [h.plural]
  exact isBlankText_append_s name.text

theorem FallsBackToBlank.variant?_eq_some : index.variant? raw = some name :=
  variant?_eq_some_iff.mpr ⟨h.matches_plurals, .inl ⟨h.plural, h.ne_empty⟩⟩

theorem FallsBackToBlank.not_shows : ¬ name.Shows := Name.not_shows_iff.mpr h.blank

end FallsBackToBlank

/-- A name that shows nothing is read exactly as a blank singular. -/
theorem mem_reads_not_shows_iff :
    name ∈ (index.find raw).reads ∧ ¬ name.Shows ↔ index.FallsBackToBlank raw name := by
  rw [mem_reads_find_iff]
  constructor
  · rintro ⟨⟨hblank, hexact | ⟨habsent, hvariant⟩⟩, hshows⟩
    · subst hexact
      exact absurd (Name.shows_iff.mpr hblank) hshows
    · obtain ⟨hplurals, hother⟩ := variant?_eq_some_iff.mp hvariant
      obtain ⟨hplural, hne⟩ := eq_append_s_of_isOtherNumber hother hshows
      exact ⟨hplurals, habsent, hplural, hne, Name.not_shows_iff.mp hshows⟩
  · intro h
    exact ⟨⟨h.isBlankText_eq_false, .inr ⟨h.absent, h.variant?_eq_some⟩⟩, h.not_shows⟩

/-- Every name that is read could have been typed, unless the search falls back to a blank
singular.  It then reads two names, the typed one and that singular, which is refused when it
is typed itself. -/
theorem reads_valid_iff (index : PageIndex) (raw : String) :
    ((∀ name ∈ (index.find raw).reads,
        Name.parse .page name.text = .ok name ∧
          ∃ c ∈ name.text.toList, Text.isBlank c = false) ↔
      ∀ singular, ¬ index.FallsBackToBlank raw singular) ∧
    (∀ singular, index.FallsBackToBlank raw singular →
      (index.find raw).reads = [⟨raw⟩, singular] ∧
        Name.parse .page singular.text = .error ⟨.page⟩) := by
  constructor
  · constructor
    · intro hvalid singular hblank
      obtain ⟨hread, hshows⟩ := mem_reads_not_shows_iff.mpr hblank
      exact hshows (hvalid singular hread).2
    · intro hnone name hread
      by_cases hshows : name.Shows
      · exact ⟨Name.parse_text_eq_ok_iff.mpr hshows, hshows⟩
      · exact absurd (mem_reads_not_shows_iff.mp ⟨hread, hshows⟩) (hnone name)
  · intro singular h
    refine ⟨?_, Name.parse_text_eq_error_iff.mpr h.not_shows⟩
    rw [reads_of_absent h.isBlankText_eq_false h.absent, h.variant?_eq_some]
    rfl

/-- In an empty store a search for a blank character and an `s` reads the name that is the blank
character alone. -/
theorem reads_blank_singular :
    let index : PageIndex := ⟨MemoryStore.empty.toPageStore, true⟩
    (index.find " s").reads = [⟨" s"⟩, ⟨" "⟩] ∧
      Name.parse .page " " = .error ⟨.page⟩ := by
  intro index
  have hreads : (index.find " s").reads = [⟨" s"⟩, ⟨" "⟩] := by decide
  have hblank : Text.isBlankText " " = true := by decide
  exact ⟨hreads, Name.parse_eq_error_iff.mpr ⟨hblank, rfl⟩⟩

end PageIndex
end WikiAccess
