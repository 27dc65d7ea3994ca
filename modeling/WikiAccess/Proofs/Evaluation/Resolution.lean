import Mathlib.Logic.Function.Basic
import WikiAccess.Proofs.Evaluation.Look

/-!
# What a name comes to

Resolving a name goes by its kind and by what is at hand.  `resolve_agrees_with_kind` says
exactly when it fails for lack of a resource, when the store fails it, when it refuses and
when it comes to a check, and what that check carries.  The kind tells all names apart,
whereas in one context the names of group actions come to the same check, and no other
names do.
-/

namespace WikiAccess

/-! ## Names and kinds -/

namespace PermissionKind

/-- The name that denotes a kind. -/
def spelling : PermissionKind → String
  | .applicationWide action => action.name
  | .groupScoped .view => "viewGroup"
  | .groupScoped .edit => "editGroup"
  | .groupScoped .delete => "deleteGroup"
  | .administrative => "allPermission"
  | .pageScoped action => action.text

theorem spelling_ofName (name : String) : (ofName name).spelling = name := by
  unfold ofName
  cases hwiki : WikiAction.ofName? name with
  | some action => exact (WikiAction.ofName?_eq_some_iff.mp hwiki).symm
  | none =>
    dsimp only
    split <;> rfl

theorem ofName_injective : Function.Injective ofName :=
  Function.LeftInverse.injective spelling_ofName

/-- The names of the actions on groups. -/
def groupNames : List String := ["viewGroup", "editGroup", "deleteGroup"]

theorem mem_groupNames_iff {name : String} :
    name ∈ groupNames ↔ (ofName name).required = .group := by
  constructor
  · intro h
    have hall : ∀ name ∈ groupNames, (ofName name).required = .group := by decide
    exact hall name h
  · intro h
    cases hname : ofName name with
    | groupScoped action =>
      simpa [groupNames] using ofName_eq_groupScoped hname
    | _ =>
      rw [hname] at h
      cases h

end PermissionKind

/-- The store has a revision of the page, and the newest one has the page's version. -/
def PageStore.HasNewest (store : PageStore) (page : Page) : Prop :=
  ∃ found, store.newest page.name = .ok (some found) ∧ found.version = page.version

namespace Context

variable {context : Context} {store : PageStore} {name : String}

/-! ## What is at hand -/

/-- The resource at hand is of the kind that is required. -/
def Supplies (context : Context) : Requirement → Prop
  | .application => True
  | .group => ∃ group, context.resource = .group group
  | .page => ∃ page, context.resource = .page page

/-- The name is that of editing, and the page at hand is pinned to a version. -/
def EditsPinned (context : Context) (name : String) (page : Page) : Prop :=
  name = "edit" ∧ context.resource = .page page ∧ page.version ≠ .latest

/-- What a permission that a name comes to takes from the name and the context. -/
inductive Carries (context : Context) (name : String) : Permission → Prop
  | wiki {action : WikiAction} : action.name = name →
    Carries context name (.wiki context.application action)
  | all : name = "allPermission" → Carries context name (.all context.application)
  | group {group : GroupName} : name ∈ PermissionKind.groupNames →
    context.resource = .group group → Carries context name (.group group .view)
  | page {page : Page} : (PermissionKind.ofName name).required = .page →
    context.resource = .page page →
    Carries context name (.page context.application page.name ⟨name⟩)

theorem page?_eq_some_iff {page : Page} :
    context.page? = some page ↔ context.resource = .page page := by
  unfold page?
  cases context.resource <;> simp

theorem group?_eq_some_iff {group : GroupName} :
    context.group? = some group ↔ context.resource = .group group := by
  unfold group?
  cases context.resource <;> simp

theorem carries_of_checks {permission : Permission} (h : context.Checks name permission) :
    context.Carries name permission := by
  have hspelling := PermissionKind.spelling_ofName name
  cases h with
  | wiki hname =>
    rw [hname] at hspelling
    exact .wiki hspelling
  | administrative hname =>
    rw [hname] at hspelling
    exact .all hspelling.symm
  | group hname hgroup =>
    have hrequired : (PermissionKind.ofName name).required = .group := by rw [hname]; rfl
    exact .group (PermissionKind.mem_groupNames_iff.mpr hrequired)
      (group?_eq_some_iff.mp hgroup)
  | page hname hpage =>
    have hrequired : (PermissionKind.ofName name).required = .page := by rw [hname]; rfl
    exact .page hrequired (page?_eq_some_iff.mp hpage)

/-! ## Failing for lack of a resource -/

theorem resolve_of_not_supplies
    (h : ¬ context.Supplies (PermissionKind.ofName name).required) (store : PageStore) :
    context.resolve store name =
      Run.fail (.missingResource name (PermissionKind.ofName name).required) := by
  cases hname : PermissionKind.ofName name with
  | applicationWide action => exact absurd trivial (by rwa [hname] at h)
  | administrative => exact absurd trivial (by rwa [hname] at h)
  | groupScoped action =>
    have hgroup : context.group? = none := by
      rw [Option.eq_none_iff_forall_ne_some]
      rw [hname] at h
      exact fun group hgroup => h ⟨group, group?_eq_some_iff.mp hgroup⟩
    simp [resolve, hname, hgroup, PermissionKind.required]
  | pageScoped action =>
    have hpage : context.page? = none := by
      rw [Option.eq_none_iff_forall_ne_some]
      rw [hname] at h
      exact fun page hpage => h ⟨page, page?_eq_some_iff.mp hpage⟩
    simp [resolve, hname, hpage, PermissionKind.required]

/-! ## Editing the page at hand -/

theorem result_resolve_of_editsPinned {page : Page} (h : context.EditsPinned name page)
    {newest : Option Page} (hstore : store.newest page.name = .ok newest) :
    (context.resolve store name).result =
      .ok (if newest.map Page.version = some page.version then
        .check (.page context.application page.name .edit)
      else .stale ⟨page.name, page.version, newest.map Page.version⟩) := by
  obtain ⟨rfl, hpage, hpinned⟩ := h
  exact result_resolve_edit (page?_eq_some_iff.mpr hpage) hpinned hstore

theorem result_resolve_of_editsPinned_error {page : Page} (h : context.EditsPinned name page)
    {cause : StoreError} (hstore : store.newest page.name = .error cause) :
    (context.resolve store name).result = .error (.store cause) := by
  obtain ⟨rfl, hpage, hpinned⟩ := h
  exact result_resolve_edit_of_error (page?_eq_some_iff.mpr hpage) hpinned hstore

/-- With what it requires at hand, a name that edits no pinned revision comes to a check. -/
theorem resolve_of_supplies (h : context.Supplies (PermissionKind.ofName name).required)
    (hunpinned : ∀ page, ¬ context.EditsPinned name page) (store : PageStore) :
    ∃ permission, context.resolve store name = ⟨[], .ok (.check permission)⟩ := by
  cases hname : PermissionKind.ofName name with
  | applicationWide action => exact ⟨_, by simp [resolve, hname]; rfl⟩
  | administrative => exact ⟨_, by simp [resolve, hname]; rfl⟩
  | groupScoped action =>
    rw [hname] at h
    obtain ⟨group, hgroup⟩ := h
    exact ⟨_, by simp [resolve, hname, group?_eq_some_iff.mpr hgroup]; rfl⟩
  | pageScoped action =>
    rw [hname] at h
    obtain ⟨page, hpage⟩ := h
    obtain rfl := PermissionKind.ofName_eq_pageScoped hname
    have hneeds : needsNewest ⟨name⟩ page = false := by
      rw [Bool.eq_false_iff, Ne, needsNewest_iff]
      rintro ⟨hedit, hpinned⟩
      exact hunpinned page ⟨congrArg PageAction.text hedit, hpage, hpinned⟩
    refine ⟨.page context.application page.name ⟨name⟩, ?_⟩
    rw [resolve_of_pageScoped hname (page?_eq_some_iff.mpr hpage),
      resolveOnPage_of_not_needsNewest hneeds]

/-! ## The outcomes of resolving -/

theorem map_version_eq_iff {page : Page} {newest : Option Page}
    (hstore : store.newest page.name = .ok newest) :
    newest.map Page.version = some page.version ↔ store.HasNewest page := by
  rw [PageStore.HasNewest, Option.map_eq_some_iff, hstore]
  simp only [Except.ok.injEq]

theorem resolve_eq_missing_iff {permission : String} {resource : Requirement} :
    (context.resolve store name).result = .error (.missingResource permission resource) ↔
      ¬ context.Supplies (PermissionKind.ofName name).required ∧
        permission = name ∧ resource = (PermissionKind.ofName name).required := by
  constructor
  · intro h
    by_cases hsupplies : context.Supplies (PermissionKind.ofName name).required
    · exfalso
      by_cases hpinned : ∃ page, context.EditsPinned name page
      · obtain ⟨page, hpage⟩ := hpinned
        cases hstore : store.newest page.name with
        | error cause =>
          rw [result_resolve_of_editsPinned_error hpage hstore] at h
          cases h
        | ok newest =>
          rw [result_resolve_of_editsPinned hpage hstore] at h
          cases h
      · obtain ⟨checked, hrun⟩ := resolve_of_supplies hsupplies (not_exists.mp hpinned) store
        rw [hrun] at h
        cases h
    · rw [resolve_of_not_supplies hsupplies] at h
      cases h
      exact ⟨hsupplies, rfl, rfl⟩
  · rintro ⟨hsupplies, rfl, rfl⟩
    rw [resolve_of_not_supplies hsupplies]
    rfl

theorem resolve_eq_store_error_iff {cause : StoreError} :
    (context.resolve store name).result = .error (.store cause) ↔
      ∃ page, context.EditsPinned name page ∧ store.newest page.name = .error cause := by
  constructor
  · intro h
    obtain ⟨rfl, page, hpage, hpinned, hstore⟩ := storeError_of_resolve h
    exact ⟨page, ⟨rfl, page?_eq_some_iff.mp hpage, hpinned⟩, hstore⟩
  · rintro ⟨page, hpage, hstore⟩
    exact result_resolve_of_editsPinned_error hpage hstore

theorem resolve_eq_stale_iff {edit : StaleEdit} :
    (context.resolve store name).result = .ok (.stale edit) ↔
      ∃ page newest, context.EditsPinned name page ∧ store.newest page.name = .ok newest ∧
        newest.map Page.version ≠ some page.version ∧
        edit = ⟨page.name, page.version, newest.map Page.version⟩ := by
  constructor
  · intro h
    obtain ⟨rfl, page, newest, hpage, hpinned, hrest⟩ := stale_of_resolve h
    exact ⟨page, newest, ⟨rfl, page?_eq_some_iff.mp hpage, hpinned⟩, hrest⟩
  · rintro ⟨page, newest, hpage, hstore, hdiffers, rfl⟩
    rw [result_resolve_of_editsPinned hpage hstore, if_neg hdiffers]

theorem exists_check_iff :
    (∃ permission, (context.resolve store name).result = .ok (.check permission)) ↔
      context.Supplies (PermissionKind.ofName name).required ∧
        ∀ page, context.EditsPinned name page → store.HasNewest page := by
  constructor
  · rintro ⟨permission, h⟩
    refine ⟨?_, fun page hpage => ?_⟩
    · by_contra hsupplies
      rw [resolve_of_not_supplies hsupplies] at h
      cases h
    · cases hstore : store.newest page.name with
      | error cause =>
        rw [result_resolve_of_editsPinned_error hpage hstore] at h
        cases h
      | ok newest =>
        rw [← map_version_eq_iff hstore]
        by_contra hdiffers
        rw [result_resolve_of_editsPinned hpage hstore, if_neg hdiffers] at h
        cases h
  · rintro ⟨hsupplies, hnewest⟩
    by_cases hpinned : ∃ page, context.EditsPinned name page
    · obtain ⟨page, hpage⟩ := hpinned
      obtain ⟨found, hstore, hversion⟩ := hnewest page hpage
      refine ⟨.page context.application page.name .edit, ?_⟩
      rw [result_resolve_of_editsPinned hpage hstore, Option.map_some, if_pos (by rw [hversion])]
    · obtain ⟨permission, hrun⟩ := resolve_of_supplies hsupplies (not_exists.mp hpinned) store
      exact ⟨permission, by rw [hrun]⟩

/-- Only names of group actions share a check. -/
theorem mem_groupNames_of_checks {other : String} {permission : Permission}
    (h : context.Checks name permission) (hother : context.Checks other permission)
    (hne : name ≠ other) :
    name ∈ PermissionKind.groupNames ∧ other ∈ PermissionKind.groupNames := by
  have hkind : PermissionKind.ofName name ≠ PermissionKind.ofName other :=
    mt (fun hkinds => PermissionKind.ofName_injective hkinds) hne
  cases h with
  | wiki hname =>
    cases hother with
    | wiki hother => exact absurd (hname.trans hother.symm) hkind
  | administrative hname =>
    cases hother with
    | administrative hother => exact absurd (hname.trans hother.symm) hkind
  | group hname _ =>
    cases hother with
    | group hother _ =>
      simp only [PermissionKind.mem_groupNames_iff, hname, hother]
      exact ⟨rfl, rfl⟩
  | page _ _ =>
    generalize hpermission : Permission.page _ _ (PageAction.mk name) = permission at hother
    cases hother with
    | page _ _ =>
      obtain ⟨-, -, haction⟩ := Permission.page.inj hpermission
      exact absurd (congrArg PageAction.text haction) hne
    | _ => cases hpermission

/-- Resolving follows the kind of the name.  It fails for lack of a resource exactly when
the one that the kind requires is not at hand; it reads the store only for the edit of a
pinned revision, and fails or refuses as the answer says; in every other case it comes to a
check of what the name and the context give.  The session has no part in it.  Different
names have different kinds, and only those of group actions can come to the same check. -/
theorem resolve_agrees_with_kind :
    Function.Injective PermissionKind.ofName ∧
    ∀ (context : Context) (name : String) (store : PageStore),
      let required := (PermissionKind.ofName name).required
      let run := context.resolve store name
      (∀ permission resource, run.result = .error (.missingResource permission resource) ↔
        ¬ context.Supplies required ∧ permission = name ∧ resource = required) ∧
      (¬ context.Supplies required → run.reads = []) ∧
      (∀ cause, run.result = .error (.store cause) ↔
        ∃ page, context.EditsPinned name page ∧ store.newest page.name = .error cause) ∧
      (∀ edit, run.result = .ok (.stale edit) ↔
        ∃ page newest, context.EditsPinned name page ∧ store.newest page.name = .ok newest ∧
          newest.map Page.version ≠ some page.version ∧
          edit = ⟨page.name, page.version, newest.map Page.version⟩) ∧
      ((∃ permission, run.result = .ok (.check permission)) ↔
        context.Supplies required ∧
          ∀ page, context.EditsPinned name page → store.HasNewest page) ∧
      (∀ permission, run.result = .ok (.check permission) → context.Carries name permission) ∧
      (∀ session, (context.inSession session).resolve store name = run) ∧
      (∀ other permission, name ≠ other → run.result = .ok (.check permission) →
        (context.resolve store other).result = .ok (.check permission) →
        name ∈ PermissionKind.groupNames ∧ other ∈ PermissionKind.groupNames) := by
  refine ⟨PermissionKind.ofName_injective, fun context name store => ?_⟩
  refine ⟨fun _ _ => resolve_eq_missing_iff, ?_, fun _ => resolve_eq_store_error_iff,
    fun _ => resolve_eq_stale_iff, exists_check_iff,
    fun _ hcheck => carries_of_checks (checks_of_resolve hcheck),
    fun session => resolve_inSession context session store name, ?_⟩
  · intro hsupplies
    rw [resolve_of_not_supplies hsupplies]
    rfl
  · intro other permission hne hcheck hother
    exact mem_groupNames_of_checks (checks_of_resolve hcheck) (checks_of_resolve hother) hne

end Context

/-- What could be looked at had the resource at hand that it requires. -/
theorem Evaluator.supplies_of_look {evaluator : Evaluator} {context : Context} {atom : Atom}
    {outcome : Outcome} (h : (evaluator.look context atom).result = .ok outcome) :
    context.Supplies (PermissionKind.ofName atom.name).required := by
  by_contra hsupplies
  rw [result_look_eq, Context.resolve_of_not_supplies hsupplies] at h
  cases h

end WikiAccess
