import WikiAccess.Proofs.Evaluation.Examination
import WikiAccess.Proofs.Evaluation.Resolution

/-!
# Decisions that need no resource

With neither a page nor a group at hand only names can be judged that need nothing beyond
the application, and these come to the same with every resource and every store.  So a
decision that is reached without a resource stands for all of them.  The same names are
what can be judged both on a page and in a group.  An expression that is decided in both
ways is therefore decided without either.
-/

namespace WikiAccess
namespace Context

variable {context : Context} {required : Requirement}

theorem session_on (resource other : Resource) :
    (context.on resource).session = (context.on other).session := rfl

theorem required_of_supplies_on_application (h : (context.on .application).Supplies required) :
    required = .application := by
  cases required with
  | application => rfl
  | group =>
    obtain ⟨group, hgroup⟩ := h
    cases hgroup
  | page =>
    obtain ⟨page, hpage⟩ := h
    cases hpage

theorem required_of_supplies_on_page_group {page : Page} {group : GroupName}
    (hpage : (context.on (.page page)).Supplies required)
    (hgroup : (context.on (.group group)).Supplies required) : required = .application := by
  cases required with
  | application => rfl
  | group =>
    obtain ⟨other, hother⟩ := hpage
    cases hother
  | page =>
    obtain ⟨other, hother⟩ := hgroup
    cases hother

/-- A name that needs nothing beyond the application comes to the same with every resource
and every store. -/
theorem resolve_on_congr {name : String}
    (h : (PermissionKind.ofName name).required = .application) (resource other : Resource)
    (store otherStore : PageStore) :
    (context.on resource).resolve store name = (context.on other).resolve otherStore name := by
  cases hname : PermissionKind.ofName name with
  | applicationWide action =>
    simp only [resolve, hname]
    rfl
  | administrative =>
    simp only [resolve, hname]
    rfl
  | _ =>
    rw [hname] at h
    cases h

end Context

namespace Evaluator

variable {oracle : Oracle} {context : Context} {expression : Expression}

theorem look_on_application {atom : Atom}
    (h : (PermissionKind.ofName atom.name).required = .application) (resource : Resource)
    (store other : PageStore) :
    Evaluator.look ⟨oracle, store⟩ (context.on resource) atom =
      Evaluator.look ⟨oracle, other⟩ (context.on .application) atom :=
  look_congr_resolve (Context.session_on _ _)
    (Context.resolve_on_congr h resource .application store other) oracle

/-- Without a page at hand there is nothing to read. -/
theorem reads_evaluate_on_application (evaluator : Evaluator) :
    (evaluator.evaluate (context.on .application) expression).reads = [] := by
  rw [reads_evaluate]
  exact List.filterMap_eq_nil_iff.mpr fun _ _ => rfl

/-- What is decided without a resource is decided alike with every one. -/
theorem evaluate_on_of_application {store : PageStore} {decision : Decision}
    (h : (Evaluator.evaluate ⟨oracle, store⟩ (context.on .application) expression).result =
      .ok decision) (resource : Resource) (other : PageStore) :
    Evaluator.evaluate ⟨oracle, other⟩ (context.on resource) expression =
      Evaluator.evaluate ⟨oracle, store⟩ (context.on .application) expression := by
  obtain ⟨outcomes, hscan⟩ := scan_of_evaluate _ _ h
  symm
  refine evaluate_congr_scan (Context.session_on _ _) (scan_congr fun atom hatom => ?_)
  obtain ⟨outcome, hlook⟩ := looked_of_mem_examined hscan hatom
  have hrequired := Context.required_of_supplies_on_application (supplies_of_look hlook)
  exact (look_on_application hrequired resource other store).symm

/-- What is decided on a page and in a group is decided alike without either. -/
theorem evaluate_of_page_of_group {first second : PageStore} {page : Page} {group : GroupName}
    {onPage inGroup : Decision}
    (hpage : (Evaluator.evaluate ⟨oracle, first⟩ (context.on (.page page)) expression).result =
      .ok onPage)
    (hgroup : (Evaluator.evaluate ⟨oracle, second⟩ (context.on (.group group)) expression).result =
      .ok inGroup) (store : PageStore) :
    Evaluator.evaluate ⟨oracle, first⟩ (context.on (.page page)) expression =
        Evaluator.evaluate ⟨oracle, store⟩ (context.on .application) expression ∧
      Evaluator.evaluate ⟨oracle, second⟩ (context.on (.group group)) expression =
        Evaluator.evaluate ⟨oracle, store⟩ (context.on .application) expression := by
  obtain ⟨outcomes, hscanPage⟩ := scan_of_evaluate _ _ hpage
  obtain ⟨others, hscanGroup⟩ := scan_of_evaluate _ _ hgroup
  refine And.imp (evaluate_congr_scan (Context.session_on _ _))
    (evaluate_congr_scan (Context.session_on _ _)) (scan_eq_of_both_ok ?_ hscanPage hscanGroup)
  intro atom one two hone htwo
  have hrequired := Context.required_of_supplies_on_page_group (supplies_of_look hone)
    (supplies_of_look htwo)
  exact ⟨look_on_application hrequired _ _ _, look_on_application hrequired _ _ _⟩

/-- A decision that is reached without a resource holds for every resource.  On every page,
whatever its version, and in every group the expression comes to the same decision by the
same questions and without a read, with every store.

Conversely, an expression that some page and some group decide is decided without either, in
the same way and by the same questions. -/
theorem decision_without_resource_universal (oracle : Oracle) (context : Context)
    (expression : Expression) :
    let run (store : PageStore) (resource : Resource) :=
      Evaluator.evaluate ⟨oracle, store⟩ (context.on resource) expression
    (∀ store decision, (run store .application).result = .ok decision →
      ∀ other resource, (run other resource).result = .ok decision ∧
        (run other resource).asked = (run store .application).asked ∧
        (run other resource).reads = []) ∧
    (∀ store other page group onPage inGroup, (run store (.page page)).result = .ok onPage →
      (run other (.group group)).result = .ok inGroup → ∀ third,
        (run third .application).result = .ok onPage ∧
        (run third .application).result = .ok inGroup ∧
        (run store (.page page)).asked = (run third .application).asked ∧
        (run other (.group group)).asked = (run third .application).asked) := by
  intro run
  refine ⟨?_, ?_⟩
  · intro store decision hdecision other resource
    have hrun : run other resource = run store .application :=
      evaluate_on_of_application hdecision resource other
    rw [hrun]
    exact ⟨hdecision, rfl, reads_evaluate_on_application _⟩
  · intro store other page group onPage inGroup hpage hgroup third
    obtain ⟨hrunPage, hrunGroup⟩ : run store (.page page) = run third .application ∧
        run other (.group group) = run third .application :=
      evaluate_of_page_of_group hpage hgroup third
    rw [hrunPage] at hpage ⊢
    rw [hrunGroup] at hgroup ⊢
    exact ⟨hpage, hgroup, rfl, rfl⟩

/-- Logging in and creating pages are decided without a resource, so an old revision at hand
changes nothing, nor does a store that fails. -/
theorem decision_without_resource_universal_outdated_revision :
    let context : Context := ⟨.anonymous .nil, ⟨"Wiki"⟩, .application⟩
    let expression : Expression := ⟨[⟨"login", false⟩, ⟨"createPages", true⟩]⟩
    let page : Resource := .page ⟨⟨"Main"⟩, ⟨1⟩, none⟩
    let group : Resource := .group ⟨"Editors"⟩
    let run (store : PageStore) (resource : Resource) :=
      Evaluator.evaluate ⟨.authenticatedOnly, store⟩ (context.on resource) expression
    let failing : PageStore := .failing (.unavailable "")
    let empty : PageStore := ⟨fun _ => .ok none⟩
    (run empty .application).result = .ok .allow ∧ (run failing page).result = .ok .allow ∧
      (run failing page).asked = (run empty .application).asked ∧
      (run failing page).reads = [] ∧
      (run empty group).result = .ok .allow ∧
      (run failing page).asked = (run failing .application).asked := by
  intro context expression page group run failing empty
  obtain ⟨hall, hboth⟩ :=
    decision_without_resource_universal .authenticatedOnly context expression
  have hnone : (run empty .application).result = .ok .allow := by decide
  have hgroup : (run empty group).result = .ok .allow := by decide
  obtain ⟨hpage, hasked, hreads⟩ := hall empty .allow hnone failing page
  obtain ⟨-, -, haskedPage, -⟩ := hboth failing empty _ _ _ _ hpage hgroup failing
  exact ⟨hnone, hpage, hasked, hreads, hgroup, haskedPage⟩

end Evaluator
end WikiAccess
