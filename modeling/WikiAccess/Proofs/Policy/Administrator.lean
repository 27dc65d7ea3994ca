import WikiAccess.Proofs.Evaluation.Monotone
import WikiAccess.Proofs.Evaluation.Resolution
import WikiAccess.Proofs.Permission.Order

/-!
# What stops an administrator

Whoever was granted everything in an application passes every check that a name can come
to in it.  What is left to stop an administrator is the refusal of a stale edit, which no
oracle is asked about, and `administrator_stopped_only_by_stale_edits` says when an
expression meets it.
-/

namespace WikiAccess
namespace Context

variable {context : Context} {store : PageStore} {name : String}

/-- The override of the application implies every check that comes up in it, about groups
too, which belong to no application. -/
theorem all_implies_of_checks {permission : Permission} (h : context.Checks name permission) :
    (Permission.all context.application).implies permission = true := by
  cases h with
  | wiki => exact Permission.implies_all_wiki_iff.mpr rfl
  | administrative => exact Permission.implies_all_iff.mpr rfl
  | group => rfl
  | page => exact Permission.implies_all_page_iff.mpr rfl

/-- The name comes to the refusal of a stale edit. -/
def Refuses (context : Context) (store : PageStore) (name : String) : Prop :=
  ∃ edit, (context.resolve store name).result = .ok (.stale edit)

/-- The page at hand is pinned to a version, and the store, having answered, has no page of
its name or has another version as the newest. -/
def PinsSuperseded (context : Context) (store : PageStore) : Prop :=
  ∃ page newest, context.resource = .page page ∧ page.version ≠ .latest ∧
    store.newest page.name = .ok newest ∧ newest.map Page.version ≠ some page.version

theorem refuses_iff :
    context.Refuses store name ↔ name = "edit" ∧ context.PinsSuperseded store := by
  simp only [Refuses, resolve_eq_stale_iff, EditsPinned, PinsSuperseded]
  constructor
  · rintro ⟨edit, page, newest, ⟨hname, hpage, hpinned⟩, hstore, hdiffers, -⟩
    exact ⟨hname, page, newest, hpage, hpinned, hstore, hdiffers⟩
  · rintro ⟨hname, page, newest, hpage, hpinned, hstore, hdiffers⟩
    exact ⟨_, page, newest, ⟨hname, hpage, hpinned⟩, hstore, hdiffers, rfl⟩

theorem all_refuse_iff {atoms : List Atom} (hne : atoms ≠ []) :
    (∀ atom ∈ atoms, context.Refuses store atom.name) ↔
      (∀ atom ∈ atoms, atom.name = "edit") ∧ context.PinsSuperseded store := by
  obtain ⟨first, hfirst⟩ := List.exists_mem_of_ne_nil atoms hne
  simp only [refuses_iff]
  constructor
  · intro h
    exact ⟨fun atom hatom => (h atom hatom).1, (h first hfirst).2⟩
  · rintro ⟨hnames, hpins⟩ atom hatom
    exact ⟨hnames atom hatom, hpins⟩

end Context

namespace Policy

/-- The session speaks for someone who was granted everything in the application. -/
def Administers (policy : Policy) (session : Session) (application : ApplicationName) : Prop :=
  ∃ principal ∈ session.principals, .all application ∈ policy.grantsFor principal

variable {policy : Policy} {context : Context}

theorem Administers.holds (h : policy.Administers context.session context.application)
    {name : String} {permission : Permission} (hchecks : context.Checks name permission) :
    policy.oracle.holds context.session permission = true := by
  obtain ⟨principal, hprincipal, hgrant⟩ := h
  refine (holds_iff policy context.session permission).mpr ⟨principal, hprincipal, ?_⟩
  exact List.any_eq_true.mpr ⟨_, hgrant, Context.all_implies_of_checks hchecks⟩

end Policy

namespace Evaluator

variable {policy : Policy} {store : PageStore} {context : Context}

/-- For an administrator an atom that comes to a check is granted. -/
theorem judge_of_administers (h : policy.Administers context.session context.application)
    {atom : Atom} {permission : Permission}
    (hcheck : (context.resolve store atom.name).result = .ok (.check permission)) :
    (judge ⟨policy.oracle, store⟩ context atom).result =
      .ok ⟨atom, .answered permission true⟩ := by
  rw [← result_look, result_look_eq, hcheck, ← h.holds (Context.checks_of_resolve hcheck)]
  rfl

theorem judge_of_stale {atom : Atom} {edit : StaleEdit}
    (hstale : (context.resolve store atom.name).result = .ok (.stale edit)) (oracle : Oracle) :
    (judge ⟨oracle, store⟩ context atom).result = .ok ⟨atom, .stale edit⟩ := by
  rw [← result_look, result_look_eq, hstale]
  rfl

/-- What was judged for an administrator was granted or is a stale edit. -/
theorem granted_or_stale (h : policy.Administers context.session context.application)
    {atom : Atom} {outcome : Outcome}
    (hjudge : (judge ⟨policy.oracle, store⟩ context atom).result = .ok outcome) :
    (∃ permission, outcome = ⟨atom, .answered permission true⟩) ∨
      ∃ edit, outcome = ⟨atom, .stale edit⟩ ∧
        (context.resolve store atom.name).result = .ok (.stale edit) := by
  have hlook := hjudge
  rw [← result_look] at hlook
  obtain ⟨resolution, hresolve, -⟩ := resolution_of_look hlook
  cases resolution with
  | check permission =>
    rw [judge_of_administers h hresolve] at hjudge
    exact .inl ⟨permission, (Except.ok.inj hjudge).symm⟩
  | stale edit =>
    rw [judge_of_stale hresolve] at hjudge
    exact .inr ⟨edit, (Except.ok.inj hjudge).symm, hresolve⟩

/-- A plain atom settles an administrator's expression unless it is a stale edit. -/
theorem settles_eq_false_iff_refuses
    (h : policy.Administers context.session context.application) {atom : Atom}
    (hpositive : atom.negated = false) :
    settles ⟨policy.oracle, store⟩ context atom = false ↔ context.Refuses store atom.name := by
  rw [settles_eq_false_iff]
  constructor
  · rintro ⟨outcome, hjudge, heffective⟩
    rcases granted_or_stale h hjudge with ⟨permission, rfl⟩ | ⟨edit, -, hstale⟩
    · rw [Outcome.effective, Atom.effective_of_positive hpositive] at heffective
      cases heffective
    · exact ⟨edit, hstale⟩
  · rintro ⟨edit, hstale⟩
    exact ⟨_, judge_of_stale hstale _, Atom.effective_of_positive hpositive _⟩

section Expression

variable (h : policy.Administers context.session context.application) {expression : Expression}
  (hpositive : ∀ atom ∈ expression.atoms, atom.negated = false)

include h hpositive

theorem denied_iff_all_refuse (hne : expression.atoms ≠ []) :
    (evaluate ⟨policy.oracle, store⟩ context expression).result = .ok .deny ↔
      ∀ atom ∈ expression.atoms, context.Refuses store atom.name := by
  rw [result_evaluate_eq_deny_iff, and_iff_right hne]
  refine forall₂_congr fun atom hatom => ?_
  exact settles_eq_false_iff_refuses h (hpositive atom hatom)

/-- An administrator's expression that is not denied goes by its first atom that is no stale
edit. -/
theorem exists_first_not_refused (hne : expression.atoms ≠ [])
    (hresult : (evaluate ⟨policy.oracle, store⟩ context expression).result ≠ .ok .deny) :
    ∃ before atom after, expression.atoms = before ++ atom :: after ∧
      (∀ earlier ∈ before, context.Refuses store earlier.name) ∧
      ¬ context.Refuses store atom.name ∧
      (evaluate ⟨policy.oracle, store⟩ context expression).result =
        (judge ⟨policy.oracle, store⟩ context atom).result.map fun _ => .allow := by
  have hsettled : ∃ k atom, SettledAt ⟨policy.oracle, store⟩ context expression.atoms k atom := by
    by_contra hnone
    exact hresult (result_evaluate_of_not_settles _ _ hne (not_settles_of_not_settledAt hnone))
  obtain ⟨k, atom, hatom⟩ := hsettled
  obtain ⟨hsettles, before, after, hatoms, hbefore⟩ :=
    List.find?_eq_some_iff_append.mp hatom.find?_eq
  have hrefuses : ∀ other ∈ expression.atoms,
      settles ⟨policy.oracle, store⟩ context other = false ↔ context.Refuses store other.name :=
    fun other hother => settles_eq_false_iff_refuses h (hpositive other hother)
  refine ⟨before, atom, after, hatoms, ?_, ?_, result_evaluate_of_settledAt _ _ hatom⟩
  · intro earlier hearlier
    rw [← hrefuses earlier (hatoms ▸ List.mem_append_left _ hearlier)]
    exact (Bool.not_eq_true' _).mp (hbefore earlier hearlier)
  · rw [← hrefuses atom (hatoms ▸ List.mem_append_cons_self), hsettles]
    exact Bool.noConfusion

end Expression

/-- A session that administers the application at hand is stopped by stale edits alone.

A name that comes to a check is granted, so an atom has a negative answer only when it is
the refusal of a stale edit.  An expression that has atoms, none of them negated, is denied
exactly when they are all edits and the page at hand is pinned to a revision that the store
does not have as its newest.  Otherwise the first atom that is no stale edit decides: the
expression fails as that atom does, or is allowed. -/
theorem administrator_stopped_only_by_stale_edits
    (h : policy.Administers context.session context.application) (store : PageStore) :
    let evaluator : Evaluator := ⟨policy.oracle, store⟩
    (∀ atom permission, (context.resolve store atom.name).result = .ok (.check permission) →
      ∃ outcome, (evaluator.judge context atom).result = .ok outcome ∧
        outcome.permission? = some permission ∧ outcome.raw = true) ∧
    (∀ atom outcome, (evaluator.judge context atom).result = .ok outcome →
      outcome.raw = false → ∃ edit, outcome.staleEdit? = some edit) ∧
    ∀ expression : Expression, expression.atoms ≠ [] →
      (∀ atom ∈ expression.atoms, atom.negated = false) →
      let result := (evaluator.evaluate context expression).result
      (result = .ok .deny ↔
        (∀ atom ∈ expression.atoms, atom.name = "edit") ∧ context.PinsSuperseded store) ∧
      (result ≠ .ok .deny →
        ∃ before atom after, expression.atoms = before ++ atom :: after ∧
          (∀ earlier ∈ before, context.Refuses store earlier.name) ∧
          ¬ context.Refuses store atom.name ∧
          (((∃ outcome, (evaluator.judge context atom).result = .ok outcome) ∧
              result = .ok .allow) ∨
            ∃ error, (evaluator.judge context atom).result = .error error ∧
              result = .error error)) := by
  intro evaluator
  refine ⟨fun atom permission hcheck => ?_, fun atom outcome hjudge hraw => ?_,
    fun expression hne hpositive => ⟨?_, fun hresult => ?_⟩⟩
  · exact ⟨_, judge_of_administers h hcheck, rfl, rfl⟩
  · rcases granted_or_stale h hjudge with ⟨permission, rfl⟩ | ⟨edit, rfl, -⟩
    · cases hraw
    · exact ⟨edit, rfl⟩
  · rw [denied_iff_all_refuse h hpositive hne, Context.all_refuse_iff hne]
  · obtain ⟨before, atom, after, hatoms, hbefore, hatom, heq⟩ :=
      exists_first_not_refused h hpositive hne hresult
    refine ⟨before, atom, after, hatoms, hbefore, hatom, ?_⟩
    cases hjudge : (evaluator.judge context atom).result with
    | error error =>
      rw [hjudge] at heq
      exact .inr ⟨error, rfl, heq⟩
    | ok outcome =>
      rw [hjudge] at heq
      exact .inl ⟨⟨outcome, rfl⟩, heq⟩

/-- At an outdated revision an administrator is granted to view and refused to edit. -/
theorem administrator_stopped_at_outdated_revision :
    let page : Page := ⟨⟨"Main"⟩, ⟨1⟩, none⟩
    let context : Context := ⟨⟨.nil, none, [⟨"Admins"⟩]⟩, ⟨"Wiki"⟩, .page page⟩
    let policy := Policy.ofGrants [("Admins", .all ⟨"Wiki"⟩)]
    let evaluator : Evaluator := ⟨policy.oracle, ⟨fun name => .ok (some ⟨name, ⟨2⟩, none⟩)⟩⟩
    policy.Administers context.session context.application ∧
      (∃ outcome, (evaluator.judge context ⟨"view", true⟩).result = .ok outcome ∧
        outcome.permission? = some (.page ⟨"Wiki"⟩ ⟨"Main"⟩ ⟨"view"⟩) ∧ outcome.raw = true) ∧
      (evaluator.evaluate context ⟨[⟨"edit", false⟩, ⟨"edit", false⟩]⟩).result = .ok .deny := by
  intro page context policy evaluator
  have hadministers : policy.Administers context.session context.application :=
    ⟨"Admins", by decide, by decide⟩
  obtain ⟨hgranted, -, hexpression⟩ :=
    administrator_stopped_only_by_stale_edits hadministers evaluator.store
  have hpins : context.PinsSuperseded evaluator.store :=
    ⟨page, some ⟨⟨"Main"⟩, ⟨2⟩, none⟩, rfl, by decide, rfl, by decide⟩
  refine ⟨hadministers, hgranted ⟨"view", true⟩ _ rfl, ?_⟩
  exact (hexpression ⟨[⟨"edit", false⟩, ⟨"edit", false⟩]⟩ (by decide) (by decide)).1.mpr
    ⟨by decide, hpins⟩

end Evaluator
end WikiAccess
