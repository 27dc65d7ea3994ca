import WikiAccess.Store.Memory

/-!
# What a memory store answers over a run

A run is any list of operations on a memory store, performed in order.  Its
transcript pairs each operation with its answer.  The main statement,
`refines_log_of_saves`, says that before its lock is poisoned a store answers from
the log of its saves alone, name by name, and after that it answers nothing any
more.

`save` numbers a revision by the last element of a history, and `revision` looks a
number up among all of them.  The two agree through one invariant, `Numbered`: the
revision at each place of a history carries the number of that place.  Every
operation keeps it, and so does every run.
-/

namespace WikiAccess
namespace MemoryStore

/-! ## Runs -/

inductive Operation where
  | save (name : PageName) (author : Option String)
  | newest (name : PageName)
  | revision (name : PageName) (version : PageVersion)
  | poison
  deriving DecidableEq, Repr

/-- The answer to an operation that did not fail. -/
inductive Answer where
  | saved (page : Page)
  | found (page : Option Page)
  | poisoned
  deriving DecidableEq, Repr

def Operation.subject? : Operation → Option PageName
  | .save name _ => some name
  | .newest name => some name
  | .revision name _ => some name
  | .poison => none

/-- The answer to an operation and the store after it, which a failure leaves as it
was. -/
def perform (store : MemoryStore) : Operation → Except StoreError Answer × MemoryStore
  | .save name author =>
    match store.save name author with
    | .ok (page, after) => (.ok (.saved page), after)
    | .error error => (.error error, store)
  | .newest name => ((store.newest name).map .found, store)
  | .revision name version => ((store.revision name version).map .found, store)
  | .poison =>
    match store.poison with
    | .ok after => (.ok .poisoned, after)
    | .error error => (.error error, store)

def after (store : MemoryStore) (operations : List Operation) : MemoryStore :=
  operations.foldl (fun store operation => (store.perform operation).2) store

/-- The operations of a run with their answers. -/
def transcript (store : MemoryStore) :
    List Operation → List (Operation × Except StoreError Answer)
  | [] => []
  | operation :: rest =>
    (operation, (store.perform operation).1) ::
      transcript (store.perform operation).2 rest

/-- The page that an operation returned, if it was a save of `name`. -/
def returned? (name : PageName) : Operation × Except StoreError Answer → Option Page
  | (.save saved _, .ok (.saved page)) => if saved = name then some page else none
  | _ => none

/-- The pages that the saves of `name` returned, in order. -/
def returned (name : PageName)
    (transcript : List (Operation × Except StoreError Answer)) : List Page :=
  transcript.filterMap (returned? name)

def author? (name : PageName) : Operation → Option (Option String)
  | .save saved author => if saved = name then some author else none
  | _ => none

/-- The authors that the saves of `name` were given, in order. -/
def authors (name : PageName) (operations : List Operation) : List (Option String) :=
  operations.filterMap (author? name)

theorem returned_cons (name : PageName) (entry : Operation × Except StoreError Answer)
    (rest : List (Operation × Except StoreError Answer)) :
    returned name (entry :: rest) = (returned? name entry).toList ++ returned name rest := by
  unfold returned
  rw [List.filterMap_cons]
  cases returned? name entry <;> rfl

theorem returned?_save_of_ne {name saved : PageName} (h : saved ≠ name)
    (author : Option String) (answer : Except StoreError Answer) :
    returned? name (.save saved author, answer) = none := by
  unfold returned?
  split
  · next heq =>
    cases heq
    exact if_neg h
  · rfl

/-! ## One operation -/

theorem perform_of_poisoned {store : MemoryStore} (h : store.poisoned = true)
    (operation : Operation) : store.perform operation = (.error lockPoisoned, store) := by
  cases operation <;>
    simp [perform, save, newest, revision, poison, access, h, Except.map]

theorem perform_save {store : MemoryStore} (h : store.poisoned = false) (name : PageName)
    (author : Option String) :
    store.perform (.save name author) =
      (.ok (.saved (store.nextRevision name author)),
        { store with
          histories := store.histories.push name (store.nextRevision name author) }) := by
  simp [perform, save, access, h]

theorem perform_poison {store : MemoryStore} (h : store.poisoned = false) :
    store.perform .poison = (.ok .poisoned, { store with poisoned := true }) := by
  simp [perform, poison, access, h]

theorem poisoned_perform (store : MemoryStore) (operation : Operation) :
    (store.perform operation).2.poisoned =
      (store.poisoned || decide (operation = .poison)) := by
  cases h : store.poisoned with
  | true => rw [perform_of_poisoned h, h, Bool.true_or]
  | false =>
    cases operation with
    | save name author => simp [perform_save h, h]
    | newest name => simp [perform, h]
    | revision name version => simp [perform, h]
    | poison => simp [perform_poison h]

theorem poisoned_perform_of_ne {store : MemoryStore} (h : store.poisoned = false)
    {operation : Operation} (hne : operation ≠ .poison) :
    (store.perform operation).2.poisoned = false := by
  rw [poisoned_perform, h, decide_eq_false hne]
  rfl

/-- An operation adds to the history of a name the page that it returned, if it was
a save of that name, and changes nothing else. -/
theorem history_perform (store : MemoryStore) (operation : Operation) (name : PageName) :
    (store.perform operation).2.history name =
      store.history name ++
        (returned? name (operation, (store.perform operation).1)).toList := by
  cases h : store.poisoned with
  | true =>
    rw [perform_of_poisoned h]
    cases operation <;> simp [returned?]
  | false =>
    cases operation with
    | save saved author =>
      rw [perform_save h]
      show (store.histories.push saved _).valuesOf name = _
      rw [Multimap.valuesOf_push]
      by_cases hname : name = saved
      · simp [returned?, hname, history]
      · simp [returned?, hname, Ne.symm hname, history]
    | newest name => simp [perform, returned?]
    | revision name version => simp [perform, returned?]
    | poison =>
      rw [perform_poison h]
      exact (List.append_nil _).symm

/-! ## The numbers of a history -/

/-- The page at each place of a list is the revision of `name` with the number of
that place, counted from one. -/
def IsNumbered (name : PageName) (pages : List Page) : Prop :=
  ∀ (i : Nat) (page : Page), pages[i]? = some page →
    page.name = name ∧ page.version = ⟨i + 1⟩

theorem isNumbered_concat {name : PageName} {pages : List Page} (h : IsNumbered name pages)
    (author : Option String) :
    IsNumbered name (pages ++ [⟨name, ⟨pages.length + 1⟩, author⟩]) := by
  intro i page hpage
  rcases Nat.lt_trichotomy i pages.length with hi | hi | hi
  · rw [List.getElem?_append_left hi] at hpage
    exact h i page hpage
  · subst hi
    rw [List.getElem?_concat_length, Option.some_inj] at hpage
    subst hpage
    exact ⟨rfl, rfl⟩
  · have hlength : (pages ++ [(⟨name, ⟨pages.length + 1⟩, author⟩ : Page)]).length ≤ i := by
      rw [List.length_append, List.length_singleton]
      omega
    rw [List.getElem?_eq_none hlength] at hpage
    cases hpage

theorem version_getLast?_of_isNumbered {name : PageName} {pages : List Page}
    (h : IsNumbered name pages) :
    pages.getLast?.map Page.version = if pages = [] then none else some ⟨pages.length⟩ := by
  rcases List.eq_nil_or_concat pages with rfl | ⟨older, page, hconcat⟩
  · rfl
  · rw [List.concat_eq_append] at hconcat
    subst hconcat
    have hversion := (h older.length page List.getElem?_concat_length).2
    simp [hversion]

theorem eq_mapIdx_of_isNumbered {name : PageName} {pages : List Page}
    (h : IsNumbered name pages) :
    pages = (pages.map Page.author).mapIdx fun i author => ⟨name, ⟨i + 1⟩, author⟩ := by
  refine List.ext_getElem? ?_
  intro i
  rw [List.getElem?_mapIdx, List.getElem?_map]
  cases hpage : pages[i]? with
  | none => rfl
  | some page =>
    obtain ⟨hname, hversion⟩ := h i page hpage
    exact congrArg some (Page.ext hname hversion rfl)

/-- Looking a version up by its number is looking up the place of that number. -/
theorem find?_version_of_isNumbered {name : PageName} {pages : List Page}
    (h : IsNumbered name pages) (version : PageVersion) :
    (pages.find? fun page => page.version == version) =
      if 1 ≤ version.ordinal ∧ version.ordinal ≤ pages.length then
        pages[(version.ordinal - 1).toNat]?
      else none := by
  by_cases hv : 1 ≤ version.ordinal ∧ version.ordinal ≤ pages.length
  · rw [if_pos hv]
    have hi : (version.ordinal - 1).toNat < pages.length := by omega
    rw [List.getElem?_eq_getElem hi]
    refine List.find?_eq_some_iff_getElem.mpr ⟨?_, _, hi, rfl, ?_⟩
    · have hversion := (h _ _ (List.getElem?_eq_getElem hi)).2
      rw [hversion, beq_iff_eq]
      refine PageVersion.ext ?_
      show (((version.ordinal - 1).toNat : Nat) : Int) + 1 = version.ordinal
      omega
    · -- Numbers grow with the places, so no earlier page has this one.
      intro j hj
      have hversion := (h _ _ (List.getElem?_eq_getElem (Nat.lt_trans hj hi))).2
      rw [hversion, Bool.not_eq_true', beq_eq_false_iff_ne]
      intro heq
      have hordinal : ((j : Nat) : Int) + 1 = version.ordinal := congrArg PageVersion.ordinal heq
      omega
  · rw [if_neg hv]
    refine List.find?_eq_none.mpr ?_
    intro page hpage heq
    obtain ⟨i, hi⟩ := List.mem_iff_getElem?.mp hpage
    have hversion : page.version = version := eq_of_beq heq
    have hlt : i < pages.length := (List.getElem?_eq_some_iff.mp hi).1
    have hordinal : version.ordinal = (i : Int) + 1 := by
      rw [← hversion, (h i page hi).2]
    omega

def Numbered (store : MemoryStore) : Prop :=
  ∀ name, IsNumbered name (store.history name)

theorem numbered_empty : empty.Numbered := by
  intro name i page h
  cases h

theorem nextRevision_of_numbered {store : MemoryStore} (h : store.Numbered)
    (name : PageName) (author : Option String) :
    store.nextRevision name author =
      ⟨name, ⟨(store.history name).length + 1⟩, author⟩ := by
  have hversion := version_getLast?_of_isNumbered (h name)
  unfold nextRevision
  cases hlast : (store.history name).getLast? with
  | none =>
    rw [List.getLast?_eq_none_iff.mp hlast]
    rfl
  | some page =>
    have hne : store.history name ≠ [] := by
      intro hnil
      rw [hnil] at hlast
      cases hlast
    rw [hlast, if_neg hne, Option.map_some, Option.some_inj] at hversion
    simp [hversion]

theorem eq_of_returned? {store : MemoryStore} (h : store.Numbered) {operation : Operation}
    {name : PageName} {page : Page}
    (hpage : returned? name (operation, (store.perform operation).1) = some page) :
    ∃ author, operation = .save name author ∧
      page = ⟨name, ⟨(store.history name).length + 1⟩, author⟩ := by
  cases hpoisoned : store.poisoned with
  | true =>
    rw [perform_of_poisoned hpoisoned] at hpage
    cases operation <;> simp [returned?] at hpage
  | false =>
    cases operation with
    | save saved author =>
      rw [perform_save hpoisoned] at hpage
      by_cases hname : saved = name
      · subst hname
        simp only [returned?, if_pos, Option.some_inj] at hpage
        exact ⟨author, rfl, hpage ▸ nextRevision_of_numbered h saved author⟩
      · simp [returned?, hname] at hpage
    | newest name => simp [returned?] at hpage
    | revision name version => simp [returned?] at hpage
    | poison => simp [returned?] at hpage

theorem numbered_perform {store : MemoryStore} (h : store.Numbered)
    (operation : Operation) : (store.perform operation).2.Numbered := by
  intro name
  rw [history_perform]
  cases hpage : returned? name (operation, (store.perform operation).1) with
  | none => simpa using h name
  | some page =>
    obtain ⟨author, -, rfl⟩ := eq_of_returned? h hpage
    exact isNumbered_concat (h name) author

/-- An answer about a name depends on the history of that name alone. -/
theorem answer_congr {store other : MemoryStore} {operation : Operation} {name : PageName}
    (hsubject : operation.subject? = some name) (hpoisoned : other.poisoned = store.poisoned)
    (hhistory : other.history name = store.history name) :
    (other.perform operation).1 = (store.perform operation).1 := by
  cases operation with
  | save saved author =>
    obtain rfl : saved = name := Option.some_inj.mp hsubject
    have hnext : other.nextRevision saved author = store.nextRevision saved author := by
      unfold nextRevision
      rw [hhistory]
    cases h : store.poisoned with
    | true => rw [perform_of_poisoned h, perform_of_poisoned (hpoisoned.trans h)]
    | false => rw [perform_save h, perform_save (hpoisoned.trans h), hnext]
  | newest asked =>
    obtain rfl : asked = name := Option.some_inj.mp hsubject
    simp only [perform, newest, access, hpoisoned, hhistory]
  | revision asked version =>
    obtain rfl : asked = name := Option.some_inj.mp hsubject
    simp only [perform, revision, access, hpoisoned, hhistory]
  | poison => cases hsubject

theorem answer_perform_save_of_ne {operation : Operation} {name other : PageName}
    (hsubject : operation.subject? = some other) (hne : other ≠ name)
    (store : MemoryStore) (author : Option String) :
    ((store.perform (.save name author)).2.perform operation).1 =
      (store.perform operation).1 := by
  refine answer_congr hsubject ?_ ?_
  · simp [poisoned_perform]
  · rw [history_perform, returned?_save_of_ne (Ne.symm hne)]
    exact List.append_nil _

/-! ## Whole runs -/

theorem after_append (store : MemoryStore) (operations later : List Operation) :
    store.after (operations ++ later) = (store.after operations).after later :=
  List.foldl_append

theorem history_after (store : MemoryStore) (operations : List Operation)
    (name : PageName) :
    (store.after operations).history name =
      store.history name ++ returned name (store.transcript operations) := by
  induction operations generalizing store with
  | nil => exact (List.append_nil _).symm
  | cons operation rest ih =>
    show ((store.perform operation).2.after rest).history name = _
    rw [ih, history_perform, transcript, returned_cons, List.append_assoc]

theorem numbered_after {store : MemoryStore} (h : store.Numbered)
    (operations : List Operation) : (store.after operations).Numbered := by
  induction operations generalizing store with
  | nil => exact h
  | cons operation rest ih => exact ih (numbered_perform h operation)

/-- A revision that a run has added to a history was saved during it. -/
theorem mem_history_after {store : MemoryStore} (h : store.Numbered)
    {operations : List Operation} {name : PageName} {page : Page}
    (hpage : page ∈ (store.after operations).history name) :
    page ∈ store.history name ∨ .save name page.author ∈ operations := by
  induction operations generalizing store with
  | nil => exact .inl hpage
  | cons operation rest ih =>
    rcases ih (numbered_perform h operation) hpage with hstep | hrest
    · rw [history_perform, List.mem_append, Option.mem_toList] at hstep
      rcases hstep with hbefore | hreturned
      · exact .inl hbefore
      · obtain ⟨author, rfl, rfl⟩ := eq_of_returned? h hreturned
        exact .inr List.mem_cons_self
    · exact .inr (List.mem_cons_of_mem _ hrest)

theorem poisoned_after {store : MemoryStore} (h : store.poisoned = false)
    {operations : List Operation} (hpoison : .poison ∉ operations) :
    (store.after operations).poisoned = false := by
  induction operations generalizing store with
  | nil => exact h
  | cons operation rest ih =>
    rw [List.mem_cons, not_or] at hpoison
    exact ih (poisoned_perform_of_ne h (Ne.symm hpoison.1)) hpoison.2

theorem after_of_poisoned {store : MemoryStore} (h : store.poisoned = true)
    (operations : List Operation) :
    store.after operations = store ∧
      ∀ entry ∈ store.transcript operations, entry.2 = .error lockPoisoned := by
  induction operations with
  | nil => exact ⟨rfl, fun entry hentry => by cases hentry⟩
  | cons operation rest ih =>
    have hperform := perform_of_poisoned h operation
    refine ⟨?_, ?_⟩
    · show (store.perform operation).2.after rest = store
      rw [hperform]
      exact ih.1
    · intro entry hentry
      rw [transcript, hperform, List.mem_cons] at hentry
      rcases hentry with rfl | hentry
      · rfl
      · exact ih.2 entry hentry

/-- Until the lock is poisoned every save returns a page by the author it was
given. -/
theorem author_returned {store : MemoryStore} (h : store.poisoned = false)
    {operations : List Operation} (hpoison : .poison ∉ operations) (name : PageName) :
    (returned name (store.transcript operations)).map Page.author =
      authors name operations := by
  induction operations generalizing store with
  | nil => rfl
  | cons operation rest ih =>
    rw [List.mem_cons, not_or] at hpoison
    have hrest := ih (poisoned_perform_of_ne h (Ne.symm hpoison.1)) hpoison.2
    unfold returned authors at hrest ⊢
    cases operation with
    | save saved author =>
      rw [transcript, List.filterMap_cons, List.filterMap_cons, ← hrest, perform_save h]
      by_cases hname : saved = name <;> simp [returned?, author?, hname, nextRevision]
    | newest asked => exact hrest
    | revision asked version => exact hrest
    | poison => exact absurd rfl hpoison.1

theorem history_after_empty (operations : List Operation) (name : PageName) :
    (empty.after operations).history name =
      returned name (empty.transcript operations) := by
  rw [history_after]
  exact List.nil_append _

/-- The saves of a name return its revisions one after the other, each with the
next number and its own author. -/
theorem returned_eq_mapIdx {operations : List Operation} (hpoison : .poison ∉ operations)
    (name : PageName) :
    returned name (empty.transcript operations) =
      (authors name operations).mapIdx fun i author => ⟨name, ⟨i + 1⟩, author⟩ := by
  have hnumbered : IsNumbered name (returned name (empty.transcript operations)) := by
    rw [← history_after_empty]
    exact numbered_after numbered_empty operations name
  rw [eq_mapIdx_of_isNumbered hnumbered, author_returned rfl hpoison]

theorem newest_of_not_poisoned {store : MemoryStore} (h : store.poisoned = false)
    (name : PageName) : store.newest name = .ok (store.history name).getLast? := by
  simp [newest, access, h]

theorem revision_of_numbered {store : MemoryStore} (h : store.poisoned = false)
    (hnumbered : store.Numbered) (name : PageName) (version : PageVersion) :
    store.revision name version =
      .ok (if 1 ≤ version.ordinal ∧ version.ordinal ≤ (store.history name).length then
        (store.history name)[(version.ordinal - 1).toNat]?
      else none) := by
  rw [← find?_version_of_isNumbered (hnumbered name) version]
  simp [revision, access, h]

/-- A revision once found is found ever after, until the lock is poisoned. -/
theorem revision_after {store : MemoryStore} (h : store.poisoned = false)
    {later : List Operation} (hpoison : .poison ∉ later) {name : PageName}
    {version : PageVersion} {page : Page}
    (hpage : store.revision name version = .ok (some page)) :
    (store.after later).revision name version = .ok (some page) := by
  have hfind : ((store.history name).find? fun page => page.version == version) =
      some page := by
    simpa [revision, access, h] using hpage
  simp [revision, access, poisoned_after h hpoison, history_after, List.find?_append, hfind]

theorem version_newest_of_numbered {store : MemoryStore} (h : store.poisoned = false)
    (hnumbered : store.Numbered) (name : PageName) :
    ∃ newest, store.newest name = .ok newest ∧
      newest.map Page.version =
        if store.history name = [] then none
        else some ⟨(store.history name).length⟩ :=
  ⟨_, newest_of_not_poisoned h name, version_getLast?_of_isNumbered (hnumbered name)⟩

theorem after_poison (store : MemoryStore) :
    (store.after [.poison]).poisoned = true ∧
      ∀ name, (store.after [.poison]).history name = store.history name := by
  refine ⟨?_, ?_⟩
  · show (store.perform .poison).2.poisoned = true
    simp [poisoned_perform]
  · intro name
    show (store.perform .poison).2.history name = store.history name
    rw [history_perform]
    exact List.append_nil _

/-- A memory store refines the log of its saves.  Over every run without poisoning,
and for every name, with `given` the authors of the saves of that name and `pages`
what those saves returned:

* the `i`-th save returned the revision numbered `i` by its author, so numbers stay
  within a signed 64-bit word for as long as there are fewer than `2 ^ 63` saves;
* the newest revision is the page that the last save returned, if there was one;
* revision `v` is the page that the `v`-th save returned, and there is no other;
* a further save changes no answer about another name;
* a revision once found is never changed.

From a poisoning on every operation fails, and the histories stay as they were. -/
theorem refines_log_of_saves :
    (∀ operations : List Operation, .poison ∉ operations → ∀ name : PageName,
      let store := empty.after operations
      let given := authors name operations
      let pages := returned name (empty.transcript operations)
      pages = given.mapIdx (fun i author => ⟨name, ⟨i + 1⟩, author⟩) ∧
      (given.length ≤ 9223372036854775807 →
        ∀ page ∈ pages, page.version.ordinal ≤ 9223372036854775807) ∧
      store.newest name =
        .ok (if given.length = 0 then none else pages[given.length - 1]?) ∧
      (∀ version : PageVersion, store.revision name version =
        .ok (if 1 ≤ version.ordinal ∧ version.ordinal ≤ given.length then
          pages[(version.ordinal - 1).toNat]?
        else none)) ∧
      (∀ author operation other, operation.subject? = some other → other ≠ name →
        ((store.perform (.save name author)).2.perform operation).1 =
          (store.perform operation).1) ∧
      (∀ later, .poison ∉ later → ∀ version page,
        store.revision name version = .ok (some page) →
        (store.after later).revision name version = .ok (some page))) ∧
    (∀ before later : List Operation,
      let store := empty.after (before ++ [.poison])
      (∀ entry ∈ store.transcript later,
        entry.2 = .error (.unavailable "lock poisoned")) ∧
      ∀ name, (store.after later).history name = (empty.after before).history name) := by
  refine ⟨?_, ?_⟩
  · intro operations hpoison name store given pages
    have hstore : store.poisoned = false := poisoned_after rfl hpoison
    have hnumbered : store.Numbered := numbered_after numbered_empty operations
    have hhistory : store.history name = pages := history_after_empty operations name
    have hpages : pages = given.mapIdx fun i author => ⟨name, ⟨i + 1⟩, author⟩ :=
      returned_eq_mapIdx hpoison name
    have hlength : pages.length = given.length := by
      rw [hpages, List.length_mapIdx]
    refine ⟨hpages, ?_, ?_, ?_, ?_, ?_⟩
    · intro hgiven page hpage
      obtain ⟨i, hi⟩ := List.mem_iff_getElem?.mp hpage
      have hlt : i < pages.length := (List.getElem?_eq_some_iff.mp hi).1
      rw [← hhistory] at hi
      rw [(hnumbered name i page hi).2]
      show ((i : Nat) : Int) + 1 ≤ 9223372036854775807
      omega
    · rw [newest_of_not_poisoned hstore, hhistory, List.getLast?_eq_getElem?, hlength]
      by_cases hzero : given.length = 0
      · have hnil : pages = [] := List.eq_nil_of_length_eq_zero (hlength.trans hzero)
        rw [if_pos hzero, hnil]
        rfl
      · rw [if_neg hzero]
    · intro version
      rw [revision_of_numbered hstore hnumbered, hhistory, hlength]
    · intro author operation other hsubject hne
      exact answer_perform_save_of_ne hsubject hne store author
    · intro later hlater version page hpage
      exact revision_after hstore hlater hpage
  · intro before later store
    have hsplit : store = (empty.after before).after [.poison] := after_append _ _ _
    obtain ⟨hpoisoned, hhistory⟩ := after_poison (empty.after before)
    rw [← hsplit] at hpoisoned hhistory
    obtain ⟨hsame, hfails⟩ := after_of_poisoned hpoisoned later
    refine ⟨hfails, ?_⟩
    intro name
    rw [hsame]
    exact hhistory name

end MemoryStore
end WikiAccess
