import WikiAccess.Proofs.Store.History

/-!
# Stores that were only saved to

A store that saves alone have built up answers every read, and the newest revision
of a name carries the number of the saves of that name.
-/

namespace WikiAccess

structure Save where
  name : PageName
  author : Option String
  deriving DecidableEq, Repr

def Save.operation (save : Save) : MemoryStore.Operation := .save save.name save.author

/-- How many of the saves are of `name`. -/
def timesSaved (name : PageName) (saves : List Save) : Nat :=
  saves.countP fun save => save.name = name

theorem timesSaved_append (name : PageName) (saves more : List Save) :
    timesSaved name (saves ++ more) = timesSaved name saves + timesSaved name more :=
  List.countP_append

theorem timesSaved_mono (name : PageName) {saves later : List Save}
    (h : saves <+: later) : timesSaved name saves ≤ timesSaved name later := by
  obtain ⟨more, rfl⟩ := h
  rw [timesSaved_append]
  exact Nat.le_add_right _ _

/-- The version that the newest revision of a name has after saves, if the name was
saved at all. -/
def newestVersion (name : PageName) (saves : List Save) : Option PageVersion :=
  if 1 ≤ timesSaved name saves then some ⟨timesSaved name saves⟩ else none

theorem newestVersion_eq_some_iff {name : PageName} {saves : List Save}
    {version : PageVersion} :
    newestVersion name saves = some version ↔
      1 ≤ timesSaved name saves ∧ version = ⟨timesSaved name saves⟩ := by
  unfold newestVersion
  by_cases h : 1 ≤ timesSaved name saves
  · rw [if_pos h, Option.some_inj]
    exact ⟨fun heq => ⟨h, heq.symm⟩, fun heq => heq.2.symm⟩
  · rw [if_neg h]
    exact ⟨nofun, fun heq => absurd heq.1 h⟩

namespace MemoryStore

/-- The store that saves build up from nothing. -/
def ofSaves (saves : List Save) : MemoryStore :=
  empty.after (saves.map Save.operation)

theorem poison_not_mem_operations (saves : List Save) :
    .poison ∉ saves.map Save.operation := by
  intro h
  obtain ⟨save, -, hsave⟩ := List.mem_map.mp h
  cases hsave

theorem poisoned_ofSaves (saves : List Save) : (ofSaves saves).poisoned = false :=
  poisoned_after rfl (poison_not_mem_operations saves)

theorem numbered_ofSaves (saves : List Save) : (ofSaves saves).Numbered :=
  numbered_after numbered_empty _

theorem length_authors_operations (name : PageName) (saves : List Save) :
    (authors name (saves.map Save.operation)).length = timesSaved name saves := by
  unfold authors timesSaved
  induction saves with
  | nil => rfl
  | cons save rest ih =>
    rw [List.map_cons, List.filterMap_cons, List.countP_cons, ← ih]
    by_cases h : save.name = name <;> simp [Save.operation, author?, h]

theorem length_history_ofSaves (saves : List Save) (name : PageName) :
    ((ofSaves saves).history name).length = timesSaved name saves := by
  rw [ofSaves, history_after_empty, returned_eq_mapIdx (poison_not_mem_operations saves),
    List.length_mapIdx, length_authors_operations]

theorem version_newest_ofSaves (saves : List Save) (name : PageName) :
    ∃ newest, (ofSaves saves).newest name = .ok newest ∧
      newest.map Page.version = newestVersion name saves := by
  obtain ⟨newest, hnewest, hversion⟩ :=
    version_newest_of_numbered (poisoned_ofSaves saves) (numbered_ofSaves saves) name
  refine ⟨newest, hnewest, ?_⟩
  rw [hversion, newestVersion, ← length_history_ofSaves]
  by_cases h : (ofSaves saves).history name = []
  · rw [if_pos h, h]
    rfl
  · have hpos : 1 ≤ ((ofSaves saves).history name).length := List.length_pos_iff.mpr h
    rw [if_neg h, if_pos hpos]

/-- What a read finds after saves is numbered by the saves of its own name. -/
theorem newest_ofSaves_eq_some {saves : List Save} {name : PageName} {page : Page}
    (h : (ofSaves saves).newest name = .ok (some page)) :
    page.name = name ∧ 1 ≤ timesSaved name saves ∧ page.version = ⟨timesSaved name saves⟩ := by
  rw [newest_of_not_poisoned (poisoned_ofSaves saves), Except.ok.injEq] at h
  obtain ⟨older, hhistory⟩ := List.getLast?_eq_some_iff.mp h
  have hlength := length_history_ofSaves saves name
  rw [hhistory, List.length_append, List.length_singleton] at hlength
  have hnumbered := numbered_ofSaves saves name older.length page
    (by rw [hhistory, List.getElem?_concat_length])
  refine ⟨hnumbered.1, by omega, ?_⟩
  rw [hnumbered.2, ← hlength]
  rfl

theorem newest_ofSaves_of_saved {saves : List Save} {name : PageName}
    (h : 1 ≤ timesSaved name saves) : ∃ page, (ofSaves saves).newest name = .ok (some page) := by
  rw [← length_history_ofSaves] at h
  obtain ⟨page, hpage⟩ := List.getLast?_isSome.mpr (List.ne_nil_of_length_pos h)
    |> Option.isSome_iff_exists.mp
  exact ⟨page, by rw [newest_of_not_poisoned (poisoned_ofSaves saves), hpage]⟩

theorem newest_ofSaves_of_unsaved {saves : List Save} {name : PageName}
    (h : timesSaved name saves = 0) : (ofSaves saves).newest name = .ok none := by
  rw [← length_history_ofSaves, List.length_eq_zero_iff] at h
  rw [newest_of_not_poisoned (poisoned_ofSaves saves), h]
  rfl

end MemoryStore
end WikiAccess
