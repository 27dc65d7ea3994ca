import WikiAccess.Evaluation.Evaluator

/-!
# What looking at one atom does

Looking at an atom resolves its name and, when the name comes to a check, asks
the oracle once.  Only the edit of a pinned revision reads the store, once and
under the name of the page at hand.

The lemmas go through the layers in turn (`resolveOnPage`, `resolve`, `find`,
`judge`, `look`) and state for each its result, and its effects but for the log, in
terms of the layer below, so that nothing above unfolds it.
-/

namespace WikiAccess
namespace Context

/-- The name under which a store is read to resolve a permission name.  There is
one only to edit a pinned revision, the name of the page at hand. -/
def reread? (context : Context) (name : String) : Option PageName :=
  context.page?.bind fun page =>
    if name = "edit" ∧ page.version ≠ .latest then some page.name else none

theorem needsNewest_iff (action : PageAction) (page : Page) :
    needsNewest action page = true ↔ action = .edit ∧ page.version ≠ .latest := by
  simp [needsNewest, PageVersion.isLatest]

/-! ## An action on the page at hand -/

theorem resolveOnPage_of_not_needsNewest {action : PageAction} {page : Page}
    (h : needsNewest action page = false) (context : Context) (store : PageStore) :
    context.resolveOnPage store action page =
      ⟨[], .ok (.check (.page context.application page.name action))⟩ := by
  unfold resolveOnPage
  rw [h]
  rfl

theorem resolveOnPage_of_error {action : PageAction} {page : Page} {store : PageStore}
    {error : StoreError} (h : needsNewest action page = true)
    (hstore : store.newest page.name = .error error) (context : Context) :
    context.resolveOnPage store action page =
      ⟨[.read page.name], .error (.store error)⟩ := by
  unfold resolveOnPage
  rw [if_pos h, PageStore.mapError_read_of_error hstore]
  rfl

/-- The edit of a pinned revision is checked when the store has that revision as
its newest, and refused otherwise. -/
theorem resolveOnPage_of_newest {action : PageAction} {page : Page} {store : PageStore}
    {newest : Option Page} (h : needsNewest action page = true)
    (hstore : store.newest page.name = .ok newest) (context : Context) :
    context.resolveOnPage store action page =
      if newest.map Page.version = some page.version then
        ⟨[.read page.name], .ok (.check (.page context.application page.name action))⟩
      else
        let edit : StaleEdit := ⟨page.name, page.version, newest.map Page.version⟩
        ⟨[.read page.name, .logged (.staleEdit edit)], .ok (.stale edit)⟩ := by
  unfold resolveOnPage
  rw [if_pos h, PageStore.mapError_read_of_ok hstore, Run.bind_ok]
  by_cases hv : newest.map Page.version = some page.version
  · simp [staleEdit?, hv]
  · simp [staleEdit?, hv, Run.note]

/-- Apart from the log, an action on a page reads the store if it needs to know the
newest revision, and does nothing else. -/
theorem view_resolveOnPage {γ : Type} {see : Effect → Option γ} (hsee : Run.BlindToLog see)
    (context : Context) (store : PageStore) (action : PageAction) (page : Page) :
    (context.resolveOnPage store action page).view see =
      if needsNewest action page then (see (.read page.name)).toList else [] := by
  cases h : needsNewest action page with
  | false =>
    rw [resolveOnPage_of_not_needsNewest h]
    rfl
  | true =>
    rw [if_pos rfl]
    cases hstore : store.newest page.name with
    | error error =>
      rw [resolveOnPage_of_error h hstore, Run.view, List.filterMap_cons]
      cases see (.read page.name) <;> rfl
    | ok newest =>
      rw [resolveOnPage_of_newest h hstore]
      split
      · rw [Run.view, List.filterMap_cons]
        cases see (.read page.name) <;> rfl
      · rw [Run.view, List.filterMap_cons, List.filterMap_cons, hsee]
        cases see (.read page.name) <;> rfl

/-! ## Resolving a name -/

/-- The same application and resource, in another session. -/
def inSession (context : Context) (session : Session) : Context := { context with session }

theorem resolve_inSession (context : Context) (session : Session) (store : PageStore)
    (name : String) :
    (context.inSession session).resolve store name = context.resolve store name := rfl

theorem resolve_of_pageScoped {name : String} {action : PageAction} {context : Context}
    {page : Page} (hname : PermissionKind.ofName name = .pageScoped action)
    (hpage : context.page? = some page) (store : PageStore) :
    context.resolve store name = context.resolveOnPage store action page := by
  simp only [resolve, hname, hpage]

theorem permission_of_resolveOnPage {context : Context} {store : PageStore}
    {action : PageAction} {page : Page} {permission : Permission}
    (h : (context.resolveOnPage store action page).result = .ok (.check permission)) :
    permission = .page context.application page.name action := by
  cases hneeds : needsNewest action page with
  | false =>
    rw [resolveOnPage_of_not_needsNewest hneeds] at h
    cases h
    rfl
  | true =>
    cases hstore : store.newest page.name with
    | error error =>
      rw [resolveOnPage_of_error hneeds hstore] at h
      cases h
    | ok newest =>
      rw [resolveOnPage_of_newest hneeds hstore] at h
      split at h
      · cases h
        rfl
      · cases h

/-- The permissions that a name comes to in a context, by the kind of the name. -/
inductive Checks (context : Context) (name : String) : Permission → Prop
  | wiki {action : WikiAction} : PermissionKind.ofName name = .applicationWide action →
    Checks context name (.wiki context.application action)
  | administrative : PermissionKind.ofName name = .administrative →
    Checks context name (.all context.application)
  | group {action : GroupAction} {group : GroupName} :
    PermissionKind.ofName name = .groupScoped action → context.group? = some group →
    Checks context name (.group group .view)
  | page {page : Page} : PermissionKind.ofName name = .pageScoped ⟨name⟩ →
    context.page? = some page → Checks context name (.page context.application page.name ⟨name⟩)

theorem checks_of_resolve {context : Context} {store : PageStore} {name : String}
    {permission : Permission}
    (h : (context.resolve store name).result = .ok (.check permission)) :
    context.Checks name permission := by
  cases hname : PermissionKind.ofName name with
  | applicationWide action =>
    simp only [resolve, hname, Run.pure_eq, Except.ok.injEq, Resolution.check.injEq] at h
    exact h ▸ .wiki hname
  | administrative =>
    simp only [resolve, hname, Run.pure_eq, Except.ok.injEq, Resolution.check.injEq] at h
    exact h ▸ .administrative hname
  | groupScoped action =>
    cases hgroup : context.group? with
    | none => simp [resolve, hname, hgroup, Run.fail] at h
    | some group =>
      simp only [resolve, hname, hgroup, Run.pure_eq, Except.ok.injEq,
        Resolution.check.injEq] at h
      exact h ▸ .group hname hgroup
  | pageScoped action =>
    obtain rfl := PermissionKind.ofName_eq_pageScoped hname
    cases hpage : context.page? with
    | none => simp [resolve, hname, hpage, Run.fail] at h
    | some page =>
      rw [resolve_of_pageScoped hname hpage] at h
      exact permission_of_resolveOnPage h ▸ .page hname hpage

/-- A permission about a page that a name comes to is about the action that the
name spells. -/
theorem action_of_resolve {context : Context} {store : PageStore} {name : String}
    {application : ApplicationName} {page : PageName} {action : PageAction}
    (h : (context.resolve store name).result = .ok (.check (.page application page action))) :
    action = ⟨name⟩ := by
  cases checks_of_resolve h with
  | page => rfl

theorem reread?_of_not_pageScoped {name : String}
    (h : ∀ action, PermissionKind.ofName name ≠ .pageScoped action) (context : Context) :
    context.reread? name = none := by
  have hname : name ≠ "edit" := by
    intro hname
    exact h ⟨"edit"⟩ (by rw [hname]; rfl)
  unfold reread?
  cases context.page? with
  | none => rfl
  | some page => simp [hname]

/-- Apart from the log, resolving a name reads the store at most once, only to edit a
pinned revision, and does nothing else. -/
theorem view_resolve {γ : Type} {see : Effect → Option γ} (hsee : Run.BlindToLog see)
    (context : Context) (store : PageStore) (name : String) :
    (context.resolve store name).view see =
      (context.reread? name).toList.flatMap fun page => (see (.read page)).toList := by
  cases hname : PermissionKind.ofName name with
  | pageScoped action =>
    have haction : action = ⟨name⟩ := PermissionKind.ofName_eq_pageScoped hname
    cases hpage : context.page? with
    | none => simp [resolve, hname, hpage, reread?, Run.fail, Run.view]
    | some page =>
      have hneeds : needsNewest action page = true ↔ name = "edit" ∧ page.version ≠ .latest := by
        rw [needsNewest_iff, haction, PageAction.edit, PageAction.mk.injEq]
      rw [resolve_of_pageScoped hname hpage, view_resolveOnPage hsee, reread?, hpage,
        Option.bind_some]
      by_cases h : name = "edit" ∧ page.version ≠ .latest
      · rw [if_pos (hneeds.mpr h), if_pos h]
        exact (List.append_nil _).symm
      · rw [if_neg (mt hneeds.mp h), if_neg h]
        rfl
  | applicationWide action =>
    rw [reread?_of_not_pageScoped (by simp [hname])]
    simp [resolve, hname, Run.view]
  | groupScoped action =>
    rw [reread?_of_not_pageScoped (by simp [hname])]
    cases hgroup : context.group? <;> simp [resolve, hname, hgroup, Run.view, Run.fail]
  | administrative =>
    rw [reread?_of_not_pageScoped (by simp [hname])]
    simp [resolve, hname, Run.view]

/-! ## Editing a pinned revision -/

theorem reread?_edit {context : Context} {page : Page} (hpage : context.page? = some page)
    (hpinned : page.version ≠ .latest) : context.reread? "edit" = some page.name := by
  rw [reread?, hpage, Option.bind_some, if_pos ⟨rfl, hpinned⟩]

theorem result_resolve_edit {context : Context} {page : Page}
    (hpage : context.page? = some page) (hpinned : page.version ≠ .latest)
    {store : PageStore} {newest : Option Page} (hstore : store.newest page.name = .ok newest) :
    (context.resolve store "edit").result =
      .ok (if newest.map Page.version = some page.version then
        .check (.page context.application page.name .edit)
      else .stale ⟨page.name, page.version, newest.map Page.version⟩) := by
  have hneeds : needsNewest ⟨"edit"⟩ page = true := (needsNewest_iff _ _).mpr ⟨rfl, hpinned⟩
  rw [resolve_of_pageScoped rfl hpage, resolveOnPage_of_newest hneeds hstore]
  split <;> rfl

theorem result_resolve_edit_of_error {context : Context} {page : Page}
    (hpage : context.page? = some page) (hpinned : page.version ≠ .latest)
    {store : PageStore} {error : StoreError} (hstore : store.newest page.name = .error error) :
    (context.resolve store "edit").result = .error (.store error) := by
  have hneeds : needsNewest ⟨"edit"⟩ page = true := (needsNewest_iff _ _).mpr ⟨rfl, hpinned⟩
  rw [resolve_of_pageScoped rfl hpage, resolveOnPage_of_error hneeds hstore]

/-! ## What depends on the store

Only a name that the store is read for comes to a refusal or to a failure of the
store, so that every other name comes to the same whatever the store is. -/

theorem reread?_eq_some_iff {context : Context} {name : String} {pageName : PageName} :
    context.reread? name = some pageName ↔
      name = "edit" ∧ ∃ page, context.page? = some page ∧ page.version ≠ .latest ∧
        page.name = pageName := by
  unfold reread?
  cases context.page? with
  | none => simp
  | some page => simp [and_assoc]

theorem resolve_of_reread?_eq_none {context : Context} {name : String}
    (h : context.reread? name = none) :
    (∃ permission, ∀ store,
      context.resolve store name = ⟨[], .ok (.check permission)⟩) ∨
    (∃ required, ∀ store,
      context.resolve store name = ⟨[], .error (.missingResource name required)⟩) := by
  cases hname : PermissionKind.ofName name with
  | applicationWide action =>
    exact .inl ⟨.wiki context.application action, fun _ => by simp [resolve, hname]⟩
  | administrative =>
    exact .inl ⟨.all context.application, fun _ => by simp [resolve, hname]⟩
  | groupScoped action =>
    cases hgroup : context.group? with
    | none => exact .inr ⟨_, fun _ => by simp [resolve, hname, hgroup, Run.fail]; rfl⟩
    | some group => exact .inl ⟨.group group .view, fun _ => by simp [resolve, hname, hgroup]⟩
  | pageScoped action =>
    cases hpage : context.page? with
    | none => exact .inr ⟨_, fun _ => by simp [resolve, hname, hpage, Run.fail]; rfl⟩
    | some page =>
      have hneeds : needsNewest action page = false := by
        rw [Bool.eq_false_iff, Ne, needsNewest_iff, PermissionKind.ofName_eq_pageScoped hname]
        rintro ⟨hedit, hpinned⟩
        have hsome := reread?_eq_some_iff.mpr
          ⟨congrArg PageAction.text hedit, page, hpage, hpinned, rfl⟩
        rw [h] at hsome
        cases hsome
      refine .inl ⟨.page context.application page.name action, fun store => ?_⟩
      rw [resolve_of_pageScoped hname hpage, resolveOnPage_of_not_needsNewest hneeds]

/-- What comes neither to a check nor to a missing resource is the edit of a pinned revision. -/
theorem pinned_of_resolve {context : Context} {store : PageStore} {name : String}
    (hcheck : ∀ permission, (context.resolve store name).result ≠ .ok (.check permission))
    (hmissing : ∀ required,
      (context.resolve store name).result ≠ .error (.missingResource name required)) :
    name = "edit" ∧ ∃ page, context.page? = some page ∧ page.version ≠ .latest := by
  cases hreread : context.reread? name with
  | none =>
    obtain ⟨permission, hrun⟩ | ⟨required, hrun⟩ := resolve_of_reread?_eq_none hreread
    · exact absurd (congrArg Run.result (hrun store)) (hcheck permission)
    · exact absurd (congrArg Run.result (hrun store)) (hmissing required)
  | some pageName =>
    obtain ⟨hname, page, hpage, hpinned, -⟩ := reread?_eq_some_iff.mp hreread
    exact ⟨hname, page, hpage, hpinned⟩

/-- A refusal is that of a pinned revision which the store, having answered, does not
have as its newest. -/
theorem stale_of_resolve {context : Context} {store : PageStore} {name : String}
    {edit : StaleEdit} (h : (context.resolve store name).result = .ok (.stale edit)) :
    name = "edit" ∧ ∃ page newest, context.page? = some page ∧ page.version ≠ .latest ∧
      store.newest page.name = .ok newest ∧
      newest.map Page.version ≠ some page.version ∧
      edit = ⟨page.name, page.version, newest.map Page.version⟩ := by
  have hcheck : ∀ permission, (context.resolve store name).result ≠ .ok (.check permission) := by
    simp [h]
  have hmissing : ∀ required,
      (context.resolve store name).result ≠ .error (.missingResource name required) := by
    simp [h]
  obtain ⟨rfl, page, hpage, hpinned⟩ := pinned_of_resolve hcheck hmissing
  refine ⟨rfl, page, ?_⟩
  cases hstore : store.newest page.name with
  | error error =>
    rw [result_resolve_edit_of_error hpage hpinned hstore] at h
    cases h
  | ok newest =>
    rw [result_resolve_edit hpage hpinned hstore] at h
    by_cases hnewest : newest.map Page.version = some page.version
    · rw [if_pos hnewest] at h
      cases h
    · rw [if_neg hnewest] at h
      cases h
      exact ⟨newest, hpage, hpinned, rfl, hnewest, rfl⟩

/-- A failure of the store is the one that it answered the look for the newest revision
of the page with. -/
theorem storeError_of_resolve {context : Context} {store : PageStore} {name : String}
    {error : StoreError} (h : (context.resolve store name).result = .error (.store error)) :
    name = "edit" ∧ ∃ page, context.page? = some page ∧ page.version ≠ .latest ∧
      store.newest page.name = .error error := by
  have hcheck : ∀ permission, (context.resolve store name).result ≠ .ok (.check permission) := by
    simp [h]
  have hmissing : ∀ required,
      (context.resolve store name).result ≠ .error (.missingResource name required) := by
    simp [h]
  obtain ⟨rfl, page, hpage, hpinned⟩ := pinned_of_resolve hcheck hmissing
  refine ⟨rfl, page, hpage, hpinned, ?_⟩
  cases hstore : store.newest page.name with
  | error other =>
    rw [result_resolve_edit_of_error hpage hpinned hstore] at h
    cases h
    rfl
  | ok newest =>
    rw [result_resolve_edit hpage hpinned hstore] at h
    split at h <;> cases h

/-- A name fails for want of a resource or through the store. -/
theorem error_of_resolve {context : Context} {store : PageStore} {name : String}
    {error : EvaluationError} (h : (context.resolve store name).result = .error error) :
    (∃ required, error = .missingResource name required) ∨ ∃ cause, error = .store cause := by
  cases hreread : context.reread? name with
  | none =>
    obtain ⟨permission, hrun⟩ | ⟨required, hrun⟩ := resolve_of_reread?_eq_none hreread
    · rw [hrun store] at h
      cases h
    · rw [hrun store] at h
      cases h
      exact .inl ⟨required, rfl⟩
  | some pageName =>
    obtain ⟨rfl, page, hpage, hpinned, -⟩ := reread?_eq_some_iff.mp hreread
    cases hstore : store.newest page.name with
    | error cause =>
      rw [result_resolve_edit_of_error hpage hpinned hstore] at h
      cases h
      exact .inr ⟨cause, rfl⟩
    | ok newest =>
      rw [result_resolve_edit hpage hpinned hstore] at h
      cases h

end Context

namespace Evaluator

/-- The permission that the oracle is asked about to judge a name, when the name
comes to one. -/
def checked? (evaluator : Evaluator) (context : Context) (name : String) :
    Option Permission :=
  match (context.resolve evaluator.store name).result with
  | .ok (.check permission) => some permission
  | _ => none

theorem checked?_eq_some_iff {evaluator : Evaluator} {context : Context} {name : String}
    {permission : Permission} :
    evaluator.checked? context name = some permission ↔
      (context.resolve evaluator.store name).result = .ok (.check permission) := by
  unfold checked?
  cases h : (context.resolve evaluator.store name).result with
  | error error => simp
  | ok resolution => cases resolution <;> simp

/-- What is found once a name is resolved. -/
def answer (evaluator : Evaluator) (context : Context) : Resolution → Finding
  | .check permission =>
    .answered permission (evaluator.oracle.holds context.session permission)
  | .stale edit => .stale edit

/-! ## Finding what a name comes to -/

theorem result_find (evaluator : Evaluator) (context : Context) (name : String) :
    (evaluator.find context name).result =
      (context.resolve evaluator.store name).result.map (evaluator.answer context) := by
  unfold find
  refine Run.result_bind_of_total _ fun resolution => ?_
  cases resolution <;> rfl

/-- Apart from the log, finding does what resolving does and then, for a check, asks
once. -/
theorem view_find {γ : Type} {see : Effect → Option γ} (hsee : Run.BlindToLog see)
    (evaluator : Evaluator) (context : Context) (name : String) :
    (evaluator.find context name).view see =
      ((context.reread? name).toList.flatMap fun page => (see (.read page)).toList) ++
        (evaluator.checked? context name).toList.flatMap fun permission =>
          (see (.asked context.session permission)).toList := by
  rw [← Context.view_resolve hsee context evaluator.store name]
  unfold find checked?
  cases h : (context.resolve evaluator.store name).result with
  | error error =>
    rw [Run.view_bind_of_error h]
    exact (List.append_nil _).symm
  | ok resolution =>
    rw [Run.view_bind_of_ok h]
    cases resolution with
    | stale edit => rfl
    | check permission =>
      refine congrArg _ ((Run.view_bind_of_ok rfl _).trans ?_)
      rw [Oracle.view_ask _ _ _ hsee]
      rfl

/-! ## Judging an atom and looking at it

Both write to the log what came of it and otherwise only find. -/

theorem result_judge (evaluator : Evaluator) (context : Context) (atom : Atom) :
    (evaluator.judge context atom).result =
      (evaluator.find context atom.name).result.map (Outcome.mk atom) := by
  unfold judge
  exact Run.result_bind_of_total _ fun _ => rfl

theorem view_judge {γ : Type} {see : Effect → Option γ} (hsee : Run.BlindToLog see)
    (evaluator : Evaluator) (context : Context) (atom : Atom) :
    (evaluator.judge context atom).view see =
      (evaluator.find context atom.name).view see := by
  unfold judge
  refine Run.view_bind_of_silent _ fun finding => ?_
  rw [Run.view_note_bind hsee]
  rfl

theorem result_look (evaluator : Evaluator) (context : Context) (atom : Atom) :
    (evaluator.look context atom).result = (evaluator.judge context atom).result :=
  Run.result_noteError _ _

theorem view_look {γ : Type} {see : Effect → Option γ} (hsee : Run.BlindToLog see)
    (evaluator : Evaluator) (context : Context) (atom : Atom) :
    (evaluator.look context atom).view see =
      (evaluator.find context atom.name).view see := by
  rw [look, Run.view_noteError hsee, view_judge hsee]

/-- Looking at an atom asks about the permission that its name comes to, once and
for the session at hand, and asks nothing when the name comes to none. -/
theorem asked_look (evaluator : Evaluator) (context : Context) (atom : Atom) :
    (evaluator.look context atom).asked =
      (evaluator.checked? context atom.name).toList.map fun permission =>
        (context.session, permission) := by
  refine (view_look Run.blindToLog_asked? evaluator context atom).trans ?_
  rw [view_find Run.blindToLog_asked?]
  cases context.reread? atom.name <;> cases evaluator.checked? context atom.name <;> rfl

/-- Looking at an atom reads the store once to edit a pinned revision, under the
name of the page at hand, and otherwise not at all. -/
theorem reads_look (evaluator : Evaluator) (context : Context) (atom : Atom) :
    (evaluator.look context atom).reads = (context.reread? atom.name).toList := by
  refine (view_look Run.blindToLog_read? evaluator context atom).trans ?_
  rw [view_find Run.blindToLog_read?]
  cases context.reread? atom.name <;> cases evaluator.checked? context atom.name <;> rfl

theorem look_of_found {evaluator : Evaluator} {context : Context} {atom : Atom} {finding : Finding}
    (h : (evaluator.find context atom.name).result = .ok finding) :
    evaluator.look context atom =
      ⟨(evaluator.find context atom.name).effects ++ [.logged (.atomEvaluated ⟨atom, finding⟩)],
        .ok ⟨atom, finding⟩⟩ := by
  unfold look judge
  rw [Run.bind_of_ok h]
  rfl

theorem look_of_not_found {evaluator : Evaluator} {context : Context} {atom : Atom}
    {error : EvaluationError} (h : (evaluator.find context atom.name).result = .error error) :
    evaluator.look context atom =
      ⟨(evaluator.find context atom.name).effects ++ [.logged (.atomFailed atom error)],
        .error error⟩ := by
  unfold look judge
  rw [Run.bind_of_error h]
  rfl

theorem result_look_eq (evaluator : Evaluator) (context : Context) (atom : Atom) :
    (evaluator.look context atom).result =
      (context.resolve evaluator.store atom.name).result.map fun resolution =>
        ⟨atom, evaluator.answer context resolution⟩ := by
  rw [result_look, result_judge, result_find]
  cases (context.resolve evaluator.store atom.name).result <;> rfl

/-- What an atom came to when looking at it succeeded: its name was resolved, and the
finding is what the resolution and the oracle say. -/
theorem resolution_of_look {evaluator : Evaluator} {context : Context} {atom : Atom}
    {outcome : Outcome} (h : (evaluator.look context atom).result = .ok outcome) :
    ∃ resolution, (context.resolve evaluator.store atom.name).result = .ok resolution ∧
      outcome = ⟨atom, evaluator.answer context resolution⟩ := by
  rw [result_look_eq] at h
  obtain ⟨resolution, hresolve, rfl⟩ := Run.map_eq_ok_iff.mp h
  exact ⟨resolution, hresolve, rfl⟩

theorem result_look_eq_error_iff {evaluator : Evaluator} {context : Context} {atom : Atom}
    {error : EvaluationError} :
    (evaluator.look context atom).result = .error error ↔
      (context.resolve evaluator.store atom.name).result = .error error := by
  rw [result_look_eq, Run.map_eq_error_iff]

/-- A failed read fails the look at the atom that needed it. -/
theorem result_look_of_failed_read {evaluator : Evaluator} {context : Context} {atom : Atom}
    {name : PageName} {error : StoreError} (hreread : context.reread? atom.name = some name)
    (hstore : evaluator.store.newest name = .error error) :
    (evaluator.look context atom).result = .error (.store error) := by
  obtain ⟨hname, page, hpage, hpinned, rfl⟩ := Context.reread?_eq_some_iff.mp hreread
  rw [result_look_eq_error_iff, hname]
  exact Context.result_resolve_edit_of_error hpage hpinned hstore

/-- An atom looks the same in two contexts of one session in which its name resolves alike. -/
theorem look_congr_resolve {store otherStore : PageStore} {context other : Context} {atom : Atom}
    (hsession : context.session = other.session)
    (hresolve : context.resolve store atom.name = other.resolve otherStore atom.name)
    (oracle : Oracle) :
    Evaluator.look ⟨oracle, store⟩ context atom =
      Evaluator.look ⟨oracle, otherStore⟩ other atom := by
  unfold look judge find
  rw [hresolve, hsession]

/-- An atom whose name needs no store looks the same with every store. -/
theorem look_congr_store {context : Context} {atom : Atom}
    (h : context.reread? atom.name = none) (oracle : Oracle) (store other : PageStore) :
    Evaluator.look ⟨oracle, store⟩ context atom = Evaluator.look ⟨oracle, other⟩ context atom := by
  refine look_congr_resolve rfl ?_ oracle
  rcases Context.resolve_of_reread?_eq_none h with ⟨permission, hrun⟩ | ⟨required, hrun⟩
  · rw [hrun store, hrun other]
  · rw [hrun store, hrun other]

/-! ## What depends on the oracle -/

/-- An atom looks the same to two oracles that answer alike what its name comes to. -/
theorem look_congr_oracle {oracle other : Oracle} {store : PageStore} {context : Context}
    {atom : Atom}
    (h : ∀ permission, (context.resolve store atom.name).result = .ok (.check permission) →
      (oracle.ask context.session permission : Run EvaluationError Bool) =
        other.ask context.session permission) :
    Evaluator.look ⟨oracle, store⟩ context atom = Evaluator.look ⟨other, store⟩ context atom := by
  have hfind : Evaluator.find ⟨oracle, store⟩ context atom.name =
      Evaluator.find ⟨other, store⟩ context atom.name := by
    unfold find
    cases hresolve : (context.resolve store atom.name).result with
    | error error => rw [Run.bind_of_error hresolve, Run.bind_of_error hresolve]
    | ok resolution =>
      rw [Run.bind_of_ok hresolve, Run.bind_of_ok hresolve]
      cases resolution with
      | stale edit => rfl
      | check permission => simp only [h permission hresolve]
  unfold look judge
  rw [hfind]

end Evaluator
end WikiAccess
