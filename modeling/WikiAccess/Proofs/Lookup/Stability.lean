import WikiAccess.Proofs.Evaluation.Superseded
import WikiAccess.Proofs.Lookup.Find

/-!
# Finding pages while they are saved

In a store that saves have built up, what a typed name finds hangs on two counts only: how
often the exact name was saved, and how often its other number was.  Counts never fall, so a
name that finds a page goes on finding one.  The main statement, `find_stable_under_saves`,
says which one it finds after any further saves, and how long the page that was found first
can be edited.
-/

namespace WikiAccess
namespace PageIndex

/-- The index of the store that saves have built up. -/
def ofSaves (saves : List Save) (matchesPlurals : Bool) : PageIndex :=
  ⟨(MemoryStore.ofSaves saves).toPageStore, matchesPlurals⟩

variable {saves : List Save} {matchesPlurals : Bool} {raw : String} {page : Page}

/-- A page that is found is the exact one, or the exact name was never saved. -/
theorem of_result_find_ofSaves
    (h : ((ofSaves saves matchesPlurals).find raw).result = .ok page) :
    Text.isBlankText raw = false ∧
      (page.name = ⟨raw⟩ ∨
        timesSaved ⟨raw⟩ saves = 0 ∧ matchesPlurals = true ∧ IsOtherNumber raw page.name) ∧
      1 ≤ timesSaved page.name saves ∧ page.version = ⟨timesSaved page.name saves⟩ := by
  obtain ⟨hblank, hexact | ⟨hunsaved, variant, hvariant, hfound⟩⟩ := result_find_eq_ok_iff.mp h
  · obtain ⟨hname, hsaved, hversion⟩ := MemoryStore.newest_ofSaves_eq_some hexact
    rw [← hname] at hsaved hversion
    exact ⟨hblank, .inl hname, hsaved, hversion⟩
  · obtain ⟨rfl, hsaved, hversion⟩ := MemoryStore.newest_ofSaves_eq_some hfound
    obtain ⟨hplurals, hother⟩ := variant?_eq_some_iff.mp hvariant
    refine ⟨hblank, .inr ⟨?_, hplurals, hother⟩, hsaved, hversion⟩
    by_contra hne
    obtain ⟨exact, hexact⟩ :=
      MemoryStore.newest_ofSaves_of_saved (Nat.one_le_iff_ne_zero.mpr hne)
    cases hunsaved.symm.trans hexact

section NotBlank

variable (hblank : Text.isBlankText raw = false)

include hblank

theorem exists_find_ofSaves_of_saved (h : 1 ≤ timesSaved ⟨raw⟩ saves) :
    ∃ found, ((ofSaves saves matchesPlurals).find raw).result = .ok found ∧
      found.name = ⟨raw⟩ := by
  obtain ⟨found, hfound⟩ := MemoryStore.newest_ofSaves_of_saved h
  refine ⟨found, ?_, (MemoryStore.newest_ofSaves_eq_some hfound).1⟩
  exact result_find_eq_ok_iff.mpr ⟨hblank, .inl hfound⟩

theorem exists_find_ofSaves_of_unsaved {variant : PageName}
    (hunsaved : timesSaved ⟨raw⟩ saves = 0) (hplurals : matchesPlurals = true)
    (hother : IsOtherNumber raw variant) (h : 1 ≤ timesSaved variant saves) :
    ∃ found, ((ofSaves saves matchesPlurals).find raw).result = .ok found ∧
      found.name = variant := by
  obtain ⟨found, hfound⟩ := MemoryStore.newest_ofSaves_of_saved h
  refine ⟨found, ?_, (MemoryStore.newest_ofSaves_eq_some hfound).1⟩
  have hexact := MemoryStore.newest_ofSaves_of_unsaved hunsaved
  have hvariant : (ofSaves saves matchesPlurals).variant? raw = some variant :=
    variant?_eq_some_iff.mpr ⟨hplurals, hother⟩
  exact result_find_eq_ok_iff.mpr ⟨hblank, .inr ⟨hexact, variant, hvariant, hfound⟩⟩

end NotBlank

/-- A name that finds a page finds one after any further saves: the exact one from its first
save on, and until then the same one. -/
theorem exists_find_after_saves
    (h : ((ofSaves saves matchesPlurals).find raw).result = .ok page) (later : List Save) :
    ∃ found, ((ofSaves (saves ++ later) matchesPlurals).find raw).result = .ok found ∧
      found.name = if timesSaved ⟨raw⟩ (saves ++ later) = 0 then page.name else ⟨raw⟩ := by
  obtain ⟨hblank, hname, hsaved, -⟩ := of_result_find_ofSaves h
  have hkept : 1 ≤ timesSaved page.name (saves ++ later) :=
    Nat.le_trans hsaved (timesSaved_mono page.name (List.prefix_append saves later))
  -- While the exact name is unsaved, what was found before was its other number.
  by_cases hunsaved : timesSaved ⟨raw⟩ (saves ++ later) = 0
  · rw [if_pos hunsaved]
    rcases hname with hexact | ⟨-, hplurals, hother⟩
    · rw [hexact] at hkept
      omega
    · exact exists_find_ofSaves_of_unsaved hblank hunsaved hplurals hother hkept
  · rw [if_neg hunsaved]
    exact exists_find_ofSaves_of_saved hblank (Nat.one_le_iff_ne_zero.mpr hunsaved)

/-- The newest revision can be edited until the next save of its name, and no longer. -/
theorem resolve_edit_after_saves {context : Context} (hpage : context.page? = some page)
    (hsaved : 1 ≤ timesSaved page.name saves)
    (hversion : page.version = ⟨timesSaved page.name saves⟩) (later : List Save) :
    (context.resolve (MemoryStore.ofSaves (saves ++ later)).toPageStore "edit").result =
      .ok (if timesSaved page.name later = 0 then
        .check (.page context.application page.name .edit)
      else .stale ⟨page.name, page.version,
        some ⟨timesSaved page.name saves + timesSaved page.name later⟩⟩) := by
  have hpinned : page.version ≠ .latest := hversion ▸ PageVersion.natCast_ne_latest _
  have hnewest : newestVersion page.name (saves ++ later) =
      some ⟨timesSaved page.name saves + timesSaved page.name later⟩ := by
    rw [newestVersion_eq_some_iff, timesSaved_append]
    exact ⟨by omega, rfl⟩
  rw [result_resolve_edit_ofSaves hpage hpinned, hnewest, hversion]
  by_cases hlater : timesSaved page.name later = 0
  · rw [if_pos hlater, hlater]
    exact congrArg Except.ok (if_pos rfl)
  · have hne : some (⟨timesSaved page.name saves + timesSaved page.name later⟩ : PageVersion) ≠
        some ⟨timesSaved page.name saves⟩ := by
      intro heq
      have hordinal := congrArg PageVersion.ordinal (Option.some_inj.mp heq)
      dsimp only at hordinal
      omega
    rw [if_neg hlater, if_neg hne]

/-- What a typed name finds is the newest revision, of that name or of its other number, and
it is editable until its next save.

After any further saves the name finds a page again.  Once the exact name was saved that is
the exact one for good, and before that it is the one found first; its version is the number
of its saves, and while the name stays the same it does not fall. -/
theorem find_stable_under_saves
    (h : ((ofSaves saves matchesPlurals).find raw).result = .ok page) :
    (page.name = ⟨raw⟩ ∨ matchesPlurals = true ∧ IsOtherNumber raw page.name) ∧
    1 ≤ timesSaved page.name saves ∧ page.version = ⟨timesSaved page.name saves⟩ ∧
    page.version ≠ .latest ∧
    (∀ context : Context, context.page? = some page → ∀ later,
      (context.resolve (MemoryStore.ofSaves (saves ++ later)).toPageStore "edit").result =
        .ok (if timesSaved page.name later = 0 then
          .check (.page context.application page.name .edit)
        else .stale ⟨page.name, page.version,
          some ⟨timesSaved page.name saves + timesSaved page.name later⟩⟩)) ∧
    (∀ later, ∃ found,
      ((ofSaves (saves ++ later) matchesPlurals).find raw).result = .ok found ∧
      (found.name = if timesSaved ⟨raw⟩ (saves ++ later) = 0 then page.name else ⟨raw⟩) ∧
      (page.name = ⟨raw⟩ → found.name = ⟨raw⟩) ∧
      found.version = ⟨timesSaved found.name (saves ++ later)⟩ ∧
      (found.name = page.name → page.version.ordinal ≤ found.version.ordinal)) := by
  obtain ⟨-, hname, hsaved, hversion⟩ := of_result_find_ofSaves h
  have hpinned : page.version ≠ .latest := hversion ▸ PageVersion.natCast_ne_latest _
  refine ⟨hname.imp_right And.right, hsaved, hversion, hpinned, ?_, ?_⟩
  · intro context hpage later
    exact resolve_edit_after_saves hpage hsaved hversion later
  · intro later
    obtain ⟨found, hfound, hchosen⟩ := exists_find_after_saves h later
    obtain ⟨-, -, -, hnumber⟩ := of_result_find_ofSaves hfound
    refine ⟨found, hfound, hchosen, ?_, hnumber, ?_⟩
    · intro hexact
      rw [hchosen, hexact, ite_self]
    · intro hsame
      rw [hversion, hnumber, hsame]
      exact Int.ofNat_le.mpr (timesSaved_mono page.name (List.prefix_append saves later))

/-- "Pages" finds the second revision of "Page", editable whatever else is saved and stale
after the next save of "Page", until "Pages" is saved itself. -/
theorem find_stable_under_saves_switch :
    let page : PageName := ⟨"Page"⟩
    let plural : PageName := ⟨"Pages"⟩
    let saves : List Save := [⟨page, none⟩, ⟨page, some "alice"⟩]
    let found : Page := ⟨page, ⟨2⟩, some "alice"⟩
    let context : Context := ⟨.anonymous .nil, ⟨"Wiki"⟩, .page found⟩
    let edit (later : List Save) :=
      (context.resolve (MemoryStore.ofSaves (saves ++ later)).toPageStore "edit").result
    ((ofSaves saves true).find "Pages").result = .ok found ∧
      edit [⟨⟨"Main"⟩, none⟩] = .ok (.check (.page ⟨"Wiki"⟩ page .edit)) ∧
      edit [⟨page, none⟩] = .ok (.stale ⟨page, ⟨2⟩, some ⟨3⟩⟩) ∧
      ∃ again, ((ofSaves (saves ++ [⟨plural, none⟩]) true).find "Pages").result = .ok again ∧
        again.name = plural ∧ again.version = ⟨1⟩ := by
  intro page plural saves found context edit
  have hfound : ((ofSaves saves true).find "Pages").result = .ok found := by decide
  obtain ⟨-, -, -, -, hedit, hafter⟩ := find_stable_under_saves hfound
  obtain ⟨again, hagain, hname, -, hversion, -⟩ := hafter [⟨plural, none⟩]
  have hplural : again.name = plural := hname
  rw [hplural] at hversion
  exact ⟨hfound, hedit context rfl [⟨⟨"Main"⟩, none⟩], hedit context rfl [⟨page, none⟩],
    again, hagain, hplural, hversion⟩

end PageIndex
end WikiAccess
