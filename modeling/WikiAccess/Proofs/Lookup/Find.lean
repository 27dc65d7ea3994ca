import WikiAccess.Lookup

/-!
# What finding a page does

Finding the page that a typed name means reads the store at most twice.  `find_of_not_blank`
is the whole run by what the store answers: the result, the reads in their order, and the
entry of the log that says that the page was found under the name in the other number.
`result_find_eq_ok_iff` sums up when a page is found.
-/

namespace WikiAccess

/-! ## The other number -/

/-- One of the two texts is the other one with a final `s`.  The name is a singular for a
typed text that ends in `s` and a plural for every other, and no name is empty. -/
def IsOtherNumber (raw : String) (name : PageName) : Prop :=
  (raw = name.text ++ "s" ∧ name.text ≠ "") ∨
    (name.text = raw ++ "s" ∧ ∀ singular : String, raw ≠ singular ++ "s")

theorem getLast?_toList_eq_s_iff {raw : String} :
    raw.toList.getLast? = some 's' ↔ ∃ singular, raw = singular ++ "s" := by
  rw [List.getLast?_eq_some_iff]
  constructor
  · rintro ⟨letters, hraw⟩
    refine ⟨String.ofList letters, ?_⟩
    rw [← String.toList_inj, String.toList_append, String.toList_ofList, hraw]
    rfl
  · rintro ⟨singular, rfl⟩
    exact ⟨singular.toList, String.toList_append⟩

theorem otherNumber?_append_s {singular : String} (h : singular ≠ "") :
    otherNumber? (singular ++ "s") = some ⟨singular⟩ := by
  have hs : singular ++ "s" ≠ "s" := by
    intro heq
    have hlist := congrArg String.toList heq
    rw [String.toList_append] at hlist
    have hnil : singular.toList = [] := by simpa using hlist
    exact h (String.toList_eq_nil_iff.mp hnil)
  have hdrop : (singular ++ "s").toList.dropLast = singular.toList := by
    rw [String.toList_append]
    exact List.dropLast_concat
  rw [otherNumber?, if_pos (getLast?_toList_eq_s_iff.mpr ⟨singular, rfl⟩), if_neg hs, hdrop,
    String.ofList_toList]

theorem otherNumber?_of_singular {raw : String} (h : ∀ singular : String, raw ≠ singular ++ "s") :
    otherNumber? raw = some ⟨raw ++ "s"⟩ := by
  refine if_neg ?_
  rw [getLast?_toList_eq_s_iff]
  rintro ⟨singular, hraw⟩
  exact h singular hraw

theorem otherNumber?_eq_some_iff {raw : String} {name : PageName} :
    otherNumber? raw = some name ↔ IsOtherNumber raw name := by
  constructor
  · intro h
    by_cases hplural : ∃ singular, raw = singular ++ "s"
    · obtain ⟨singular, rfl⟩ := hplural
      by_cases hempty : singular = ""
      · subst hempty
        cases h
      · rw [otherNumber?_append_s hempty, Option.some_inj] at h
        subst h
        exact .inl ⟨rfl, hempty⟩
    · have hsingular : ∀ singular : String, raw ≠ singular ++ "s" := not_exists.mp hplural
      rw [otherNumber?_of_singular hsingular, Option.some_inj] at h
      subst h
      exact .inr ⟨rfl, hsingular⟩
  · rintro (⟨rfl, hempty⟩ | ⟨htext, hsingular⟩)
    · exact otherNumber?_append_s hempty
    · rw [otherNumber?_of_singular hsingular, ← htext]

/-- Only the single letter `s` has no other number. -/
theorem exists_isOtherNumber_iff {raw : String} : (∃ name, IsOtherNumber raw name) ↔ raw ≠ "s" := by
  constructor
  · rintro ⟨name, hother⟩ rfl
    have hnone : otherNumber? "s" = none := by decide
    rw [otherNumber?_eq_some_iff.mpr hother] at hnone
    cases hnone
  · intro hraw
    by_cases hplural : ∃ singular, raw = singular ++ "s"
    · obtain ⟨singular, rfl⟩ := hplural
      refine ⟨⟨singular⟩, .inl ⟨rfl, ?_⟩⟩
      rintro rfl
      exact hraw rfl
    · exact ⟨⟨raw ++ "s"⟩, .inr ⟨rfl, not_exists.mp hplural⟩⟩

/-! ## The cases of a search -/

namespace PageIndex

variable {index : PageIndex} {raw : String}

theorem variant?_eq_some_iff {variant : PageName} :
    index.variant? raw = some variant ↔
      index.matchesPlurals = true ∧ IsOtherNumber raw variant := by
  rw [← otherNumber?_eq_some_iff, variant?]
  cases index.matchesPlurals <;> simp

theorem variant?_eq_none (h : ¬ (index.matchesPlurals = true ∧ raw ≠ "s")) :
    index.variant? raw = none := by
  rw [Option.eq_none_iff_forall_ne_some]
  intro variant hvariant
  obtain ⟨hplurals, hother⟩ := variant?_eq_some_iff.mp hvariant
  exact h ⟨hplurals, exists_isOtherNumber_iff.mp ⟨variant, hother⟩⟩

theorem find_of_blank (h : Text.isBlankText raw = true) :
    index.find raw = ⟨[], .error (.pageNotFound raw)⟩ := by
  simp only [find, Name.parse_eq_error_iff.mpr ⟨h, rfl⟩]
  rfl

section NotBlank

variable (hblank : Text.isBlankText raw = false)

include hblank

/-- The whole run, by what the store answers under the two names. -/
theorem find_of_not_blank :
    index.find raw =
      match index.store.newest ⟨raw⟩ with
      | .error cause => ⟨[.read ⟨raw⟩], .error (.store cause)⟩
      | .ok (some page) => ⟨[.read ⟨raw⟩], .ok page⟩
      | .ok none =>
        match index.variant? raw with
        | none => ⟨[.read ⟨raw⟩], .error (.pageNotFound raw)⟩
        | some variant =>
          match index.store.newest variant with
          | .error cause => ⟨[.read ⟨raw⟩, .read variant], .error (.store cause)⟩
          | .ok none => ⟨[.read ⟨raw⟩, .read variant], .error (.pageNotFound raw)⟩
          | .ok (some page) =>
            ⟨[.read ⟨raw⟩, .read variant, .logged (.variantFound raw page.name)], .ok page⟩ := by
  simp only [find, Name.parse_eq_ok_iff.mpr ⟨hblank, rfl⟩]
  cases hexact : index.store.newest ⟨raw⟩ with
  | error cause => rw [PageStore.mapError_read_of_error hexact, Run.bind_error]
  | ok found =>
    rw [PageStore.mapError_read_of_ok hexact, Run.bind_ok]
    cases found with
    | some page => rfl
    | none =>
      cases index.variant? raw with
      | none => rfl
      | some variant =>
        cases hother : index.store.newest variant with
        | error cause =>
          simp only [PageStore.mapError_read_of_error hother, Run.bind_error, hother]
          rfl
        | ok found =>
          simp only [PageStore.mapError_read_of_ok hother, Run.bind_ok, hother]
          cases found <;> rfl

theorem find_of_no_variant (hexact : index.store.newest ⟨raw⟩ = .ok none)
    (h : index.variant? raw = none) :
    index.find raw = ⟨[.read ⟨raw⟩], .error (.pageNotFound raw)⟩ := by
  rw [find_of_not_blank hblank, hexact, h]

end NotBlank

/-- A page is found under the exact name, or under the variant when there is none under the
exact name. -/
theorem result_find_eq_ok_iff {page : Page} :
    (index.find raw).result = .ok page ↔
      Text.isBlankText raw = false ∧
        (index.store.newest ⟨raw⟩ = .ok (some page) ∨
          (index.store.newest ⟨raw⟩ = .ok none ∧
            ∃ variant, index.variant? raw = some variant ∧
              index.store.newest variant = .ok (some page))) := by
  constructor
  · intro h
    cases hblank : Text.isBlankText raw with
    | true =>
      rw [find_of_blank hblank] at h
      cases h
    | false =>
      rw [find_of_not_blank hblank] at h
      refine ⟨rfl, ?_⟩
      cases hexact : index.store.newest ⟨raw⟩ with
      | error cause =>
        rw [hexact] at h
        cases h
      | ok found =>
        rw [hexact] at h
        cases found with
        | some exact =>
          cases h
          exact .inl rfl
        | none =>
          refine .inr ⟨rfl, ?_⟩
          cases hvariant : index.variant? raw with
          | none =>
            rw [hvariant] at h
            cases h
          | some variant =>
            refine ⟨variant, rfl, ?_⟩
            rw [hvariant] at h
            cases hother : index.store.newest variant with
            | error cause =>
              simp only [hother] at h
              cases h
            | ok found =>
              simp only [hother] at h
              cases found with
              | none => cases h
              | some other =>
                cases h
                rfl
  · rintro ⟨hblank, hexact | ⟨hexact, variant, hvariant, hother⟩⟩
    · rw [find_of_not_blank hblank, hexact]
    · simp only [find_of_not_blank hblank, hexact, hvariant, hother]

end PageIndex
end WikiAccess
