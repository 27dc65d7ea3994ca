import WikiAccess.Proofs.Evaluation.Look
import WikiAccess.Proofs.Evaluation.Scan
import WikiAccess.Proofs.Store.Saves

/-!
# Superseded revisions

An evaluation holds no lock between its atoms, so others may save pages while it
runs.  Here the items of a scan are moments: an atom together with all the saves
that were made by the time it is looked at, and with an oracle of its own, since
what the oracle answers shall not matter.  With no saves in between such a scan is
an ordinary one (`scan_moments_of_no_saves`).

The main statement, `superseded_never_editable`, is that a pinned revision can be
edited exactly while it is the newest, by what the look at the very atom sees, and
that a revision once superseded stays so.
-/

namespace WikiAccess

/-- One step of an evaluation that others do not wait for: what they save before
the next atom is looked at, who is asked then, and the atom. -/
structure Turn where
  saves : List Save
  oracle : Oracle
  atom : Atom

/-- An atom when it is looked at, `saved` being all the saves so far. -/
structure Moment where
  saved : List Save
  oracle : Oracle
  atom : Atom

/-- The moments of the turns of an evaluation that begins after the saves `saved`. -/
def moments (saved : List Save) : List Turn → List Moment
  | [] => []
  | turn :: rest =>
    ⟨saved ++ turn.saves, turn.oracle, turn.atom⟩ :: moments (saved ++ turn.saves) rest

namespace Moment

def evaluator (moment : Moment) : Evaluator :=
  ⟨moment.oracle, (MemoryStore.ofSaves moment.saved).toPageStore⟩

def look (context : Context) (moment : Moment) : Run EvaluationError Outcome :=
  moment.evaluator.look context moment.atom

/-- The atom is refused as a stale edit of `page`, and nobody is asked. -/
structure Refused (context : Context) (page : Page) (moment : Moment) : Prop where
  asked : (moment.look context).asked = []
  result : (moment.look context).result =
    .ok ⟨moment.atom,
      .stale ⟨page.name, page.version, newestVersion page.name moment.saved⟩⟩

end Moment

/-! ## The moments of an evaluation -/

theorem getElem?_moments (saved : List Save) (turns : List Turn) (i : Nat) :
    (moments saved turns)[i]? =
      turns[i]?.map fun turn =>
        ⟨saved ++ (turns.take (i + 1)).flatMap Turn.saves, turn.oracle, turn.atom⟩ := by
  induction turns generalizing saved i with
  | nil => rfl
  | cons turn rest ih =>
    cases i with
    | zero => simp [moments]
    | succ i => simp [moments, ih]

theorem saved_prefix_of_le {saved : List Save} {turns : List Turn} {i j : Nat}
    {earlier later : Moment} (hle : i ≤ j) (hi : (moments saved turns)[i]? = some earlier)
    (hj : (moments saved turns)[j]? = some later) : earlier.saved <+: later.saved := by
  rw [getElem?_moments, Option.map_eq_some_iff] at hi hj
  obtain ⟨first, -, rfl⟩ := hi
  obtain ⟨second, -, rfl⟩ := hj
  obtain ⟨between, hbetween⟩ : turns.take (i + 1) <+: turns.take (j + 1) :=
    List.take_prefix_take_left (Nat.succ_le_succ hle)
  refine ⟨between.flatMap Turn.saves, ?_⟩
  rw [List.append_assoc, ← List.flatMap_append, hbetween]

theorem prefix_saved_of_mem {saved : List Save} {turns : List Turn} {moment : Moment}
    (h : moment ∈ moments saved turns) : saved <+: moment.saved := by
  obtain ⟨i, hi⟩ := List.mem_iff_getElem?.mp h
  rw [getElem?_moments, Option.map_eq_some_iff] at hi
  obtain ⟨turn, -, rfl⟩ := hi
  exact List.prefix_append _ _

theorem saved_prefix_of_mem {saved : List Save} {turns : List Turn} {moment : Moment}
    (h : moment ∈ moments saved turns) :
    moment.saved <+: saved ++ turns.flatMap Turn.saves := by
  obtain ⟨i, hi⟩ := List.mem_iff_getElem?.mp h
  rw [getElem?_moments, Option.map_eq_some_iff] at hi
  obtain ⟨turn, -, rfl⟩ := hi
  refine ⟨(turns.drop (i + 1)).flatMap Turn.saves, ?_⟩
  rw [List.append_assoc, ← List.flatMap_append, List.take_append_drop]

theorem scan_map {α β : Type} (look : β → Run EvaluationError Outcome) (f : α → β)
    (items : List α) : scan look (items.map f) = scan (fun item => look (f item)) items := by
  induction items with
  | nil => rfl
  | cons item rest ih => rw [List.map_cons, scan, scan, ih]

/-- A scan that nobody interrupts is the scan of an evaluation on one store. -/
theorem scan_moments_of_no_saves (context : Context) (saved : List Save) (oracle : Oracle)
    (atoms : List Atom) :
    scan (Moment.look context) (moments saved (atoms.map fun atom => ⟨[], oracle, atom⟩)) =
      scan (Evaluator.look ⟨oracle, (MemoryStore.ofSaves saved).toPageStore⟩ context)
        atoms := by
  have hmoments : moments saved (atoms.map fun atom => ⟨[], oracle, atom⟩) =
      atoms.map fun atom => ⟨saved, oracle, atom⟩ := by
    induction atoms with
    | nil => rfl
    | cons atom rest ih => rw [List.map_cons, moments, List.append_nil, ih, List.map_cons]
  rw [hmoments, scan_map]
  rfl

/-! ## Editing after saves -/

section Pinned

variable {context : Context} {page : Page} (hpage : context.page? = some page)
  (hpinned : page.version ≠ .latest)

include hpage hpinned

theorem result_resolve_edit_ofSaves (saves : List Save) :
    (context.resolve (MemoryStore.ofSaves saves).toPageStore "edit").result =
      .ok (if newestVersion page.name saves = some page.version then
        .check (.page context.application page.name .edit)
      else .stale ⟨page.name, page.version, newestVersion page.name saves⟩) := by
  obtain ⟨newest, hnewest, hversion⟩ :=
    MemoryStore.version_newest_ofSaves saves page.name
  rw [← hversion]
  exact Context.result_resolve_edit hpage hpinned hnewest

/-- Whoever is asked about editing a page is asked at an edit whose own read found
the pinned revision to be the newest. -/
theorem newestVersion_of_asked {moment : Moment} {session : Session}
    {application : ApplicationName} {name : PageName}
    (h : (session, .page application name .edit) ∈ (moment.look context).asked) :
    moment.atom.name = "edit" ∧ (moment.look context).reads = [page.name] ∧
      newestVersion page.name moment.saved = some page.version := by
  rw [Moment.look, Evaluator.asked_look, List.mem_map] at h
  obtain ⟨permission, hpermission, heq⟩ := h
  obtain rfl : permission = .page application name .edit := (Prod.mk.inj heq).2
  rw [Option.mem_toList, Evaluator.checked?_eq_some_iff] at hpermission
  have hname : moment.atom.name = "edit" :=
    (congrArg PageAction.text (Context.action_of_resolve hpermission)).symm
  refine ⟨hname, ?_, ?_⟩
  · rw [Moment.look, Evaluator.reads_look, hname, Context.reread?_edit hpage hpinned]
    rfl
  · rw [hname, Moment.evaluator, result_resolve_edit_ofSaves hpage hpinned] at hpermission
    by_cases hnewest : newestVersion page.name moment.saved = some page.version
    · exact hnewest
    · rw [if_neg hnewest] at hpermission
      cases hpermission

theorem refused_of_newestVersion_ne {moment : Moment} (hname : moment.atom.name = "edit")
    (hne : newestVersion page.name moment.saved ≠ some page.version) :
    moment.Refused context page := by
  have hresolve := result_resolve_edit_ofSaves hpage hpinned moment.saved
  rw [if_neg hne, ← hname] at hresolve
  refine ⟨?_, ?_⟩
  · rw [Moment.look, Evaluator.asked_look]
    have hchecked : moment.evaluator.checked? context moment.atom.name = none := by
      rw [Option.eq_none_iff_forall_ne_some]
      intro permission hpermission
      rw [Evaluator.checked?_eq_some_iff, Moment.evaluator, hresolve] at hpermission
      cases hpermission
    rw [hchecked]
    rfl
  · rw [Moment.look, Evaluator.result_look, Evaluator.result_judge, Evaluator.result_find,
      Moment.evaluator, hresolve]
    rfl

theorem refused_of_lt_timesSaved {moment : Moment} (hname : moment.atom.name = "edit")
    (hlt : page.version.ordinal < timesSaved page.name moment.saved) :
    moment.Refused context page := by
  refine refused_of_newestVersion_ne hpage hpinned hname ?_
  intro hnewest
  have hversion := (newestVersion_eq_some_iff.mp hnewest).2
  rw [hversion] at hlt
  exact Int.lt_irrefl _ hlt

/-- Histories number their revisions from one, so no revision with a number that is
not positive can be edited, whether or not the lock is poisoned. -/
theorem not_check_of_nonpos (hnonpos : page.version.ordinal ≤ 0) {store : MemoryStore}
    (hnumbered : store.Numbered) (permission : Permission) :
    (context.resolve store.toPageStore "edit").result ≠ .ok (.check permission) := by
  intro hcheck
  cases hpoisoned : store.poisoned with
  | true =>
    have hnewest : store.toPageStore.newest page.name = .error MemoryStore.lockPoisoned := by
      show MemoryStore.access _ _ = _
      rw [MemoryStore.access, if_pos hpoisoned]
    rw [Context.result_resolve_edit_of_error hpage hpinned hnewest] at hcheck
    cases hcheck
  | false =>
    obtain ⟨newest, hnewest, hversion⟩ :=
      MemoryStore.version_newest_of_numbered hpoisoned hnumbered page.name
    rw [Context.result_resolve_edit hpage hpinned hnewest, hversion] at hcheck
    have hne : (if store.history page.name = [] then none
        else some ⟨(store.history page.name).length⟩) ≠ some page.version := by
      split
      · exact (Option.some_ne_none _).symm
      · next hnil =>
        have hpos : 0 < (store.history page.name).length := List.length_pos_iff.mpr hnil
        intro heq
        have hordinal : ((store.history page.name).length : Int) = page.version.ordinal :=
          congrArg PageVersion.ordinal (Option.some_inj.mp heq)
        omega
    rw [if_neg hne] at hcheck
    cases hcheck

/-- A pinned revision is editable exactly while it is the newest.

After any saves, `count` of them of its name, the edit of a pinned revision comes to
a check when there is a save and its number is `count`, and is refused as stale
otherwise.  In a scan that others save between the atoms of, each with an oracle of
its own:

* the questions are those of the examined moments, and about editing a page there
  is one only at an edit whose own read found the pinned revision to be the newest;
* once a moment has seen more saves of the name than the number of the revision,
  every edit from there on is refused without asking, in the same evaluation and in
  every one that begins after it.

A number that is not positive is not editable in any state that a store can reach. -/
theorem superseded_never_editable :
    (∀ saves : List Save,
      let count := timesSaved page.name saves
      (context.resolve (MemoryStore.ofSaves saves).toPageStore "edit").result =
        .ok (if 1 ≤ count ∧ page.version = ⟨count⟩ then
          .check (.page context.application page.name .edit)
        else .stale ⟨page.name, page.version, if 1 ≤ count then some ⟨count⟩ else none⟩)) ∧
    (∀ (saved : List Save) (turns : List Turn),
      (scan (Moment.look context) (moments saved turns)).asked =
        (examined (Moment.look context) (moments saved turns)).flatMap
          (fun moment => (moment.look context).asked) ∧
      (∀ moment ∈ moments saved turns, ∀ session application name,
        (session, .page application name .edit) ∈ (moment.look context).asked →
        moment.atom.name = "edit" ∧ (moment.look context).reads = [page.name] ∧
          1 ≤ timesSaved page.name moment.saved ∧
          page.version = ⟨timesSaved page.name moment.saved⟩) ∧
      (∀ (i : Nat) (earlier : Moment), (moments saved turns)[i]? = some earlier →
        page.version.ordinal < timesSaved page.name earlier.saved →
        (∀ j ≥ i, ∀ later : Moment, (moments saved turns)[j]? = some later →
          later.atom.name = "edit" → later.Refused context page) ∧
        (∀ between again,
          ∀ later ∈ moments (saved ++ turns.flatMap Turn.saves ++ between) again,
          later.atom.name = "edit" → later.Refused context page))) ∧
    (page.version.ordinal ≤ 0 → ∀ operations permission,
      (context.resolve (MemoryStore.empty.after operations).toPageStore "edit").result ≠
        .ok (.check permission)) := by
  refine ⟨?_, ?_, ?_⟩
  · intro saves count
    have hresolve := result_resolve_edit_ofSaves hpage hpinned saves
    simp only [newestVersion_eq_some_iff] at hresolve
    exact hresolve
  · intro saved turns
    refine ⟨view_scan _ _ _, ?_, ?_⟩
    · intro moment _ session application name hasked
      obtain ⟨hname, hreads, hnewest⟩ := newestVersion_of_asked hpage hpinned hasked
      exact ⟨hname, hreads, newestVersion_eq_some_iff.mp hnewest⟩
    · intro i earlier hi hlt
      -- Saves are never undone, so whoever has seen as many refuses the edit as well.
      have hseen : ∀ later : Moment, earlier.saved <+: later.saved →
          later.atom.name = "edit" → later.Refused context page := by
        intro later hprefix hname
        refine refused_of_lt_timesSaved hpage hpinned hname (Int.lt_of_lt_of_le hlt ?_)
        exact Int.ofNat_le.mpr (timesSaved_mono page.name hprefix)
      refine ⟨?_, ?_⟩
      · intro j hle later hj
        exact hseen later (saved_prefix_of_le hle hi hj)
      · intro between again later hlater
        refine hseen later ?_
        have hall := saved_prefix_of_mem (List.mem_of_getElem? hi)
        exact (hall.trans (List.prefix_append _ between)).trans (prefix_saved_of_mem hlater)
  · intro hnonpos operations permission
    have hnumbered := MemoryStore.numbered_after MemoryStore.numbered_empty operations
    exact not_check_of_nonpos hpage hpinned hnonpos hnumbered permission

end Pinned

/-- The first revision of a page, before and after another client saves a second one
between two edits of a scan. -/
theorem superseded_never_editable_second_save :
    let page : Page := ⟨⟨"Main"⟩, ⟨1⟩, none⟩
    let context : Context := ⟨.anonymous .nil, ⟨"Wiki"⟩, .page page⟩
    let save : Save := ⟨⟨"Main"⟩, some "alice"⟩
    let edit : Atom := ⟨"edit", false⟩
    let turns : List Turn := [⟨[], .authenticatedOnly, edit⟩, ⟨[save], .authenticatedOnly, edit⟩]
    context.page? = some page ∧ page.version ≠ .latest ∧
      (context.resolve (MemoryStore.ofSaves [save]).toPageStore "edit").result =
        .ok (.check (.page ⟨"Wiki"⟩ ⟨"Main"⟩ .edit)) ∧
      (moments [save] turns)[1]? = some ⟨[save, save], .authenticatedOnly, edit⟩ ∧
      page.version.ordinal < timesSaved page.name [save, save] ∧
      Moment.Refused context page ⟨[save, save], .authenticatedOnly, edit⟩ := by
  intro page context save edit turns
  have hpinned : page.version ≠ .latest := by decide
  have hlt : page.version.ordinal < timesSaved page.name [save, save] := by decide
  have hpage : context.page? = some page := rfl
  obtain ⟨hresolve, hscan, -⟩ := superseded_never_editable hpage hpinned
  refine ⟨rfl, hpinned, hresolve [save], rfl, hlt, ?_⟩
  exact ((hscan [save] turns).2.2 1 _ rfl hlt).1 1 (Nat.le_refl 1) _ rfl rfl

end WikiAccess
