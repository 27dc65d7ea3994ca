import Mathlib.Logic.Relation
import WikiAccess.Permission.Implication

/-!
# The order of permissions

What a permission grants is written down as tables that already list everything
below an action.  Here the same order is given by its rules: `Step` relates a
permission to those directly below it, and the order is the closure of the steps.
The main statement, `implies_generated_by_steps`, is that the tables are this closure,
and that it is a partial order, for all names and all page actions.

Each table is compared with its own steps in the same way.  What it grants is reached
by steps, it grants the action itself, and it is not left by one more step
(`iff_reflTransGen_of_step`).  No action is reached from one below it, since a step
leads to a shorter list (`eq_of_reflTransGen_of_shrinks`).
-/

namespace WikiAccess

open Relation (ReflTransGen)

section Closure

variable {α : Type} {step : α → α → Prop} {held requested : α}

theorem iff_reflTransGen_of_step {grants : α → α → Prop}
    (reached : ∀ held requested, grants held requested → ReflTransGen step held requested)
    (refl : ∀ held, grants held held)
    (onward : ∀ held between requested,
      grants held between → step between requested → grants held requested) :
    grants held requested ↔ ReflTransGen step held requested := by
  constructor
  · exact reached held requested
  · intro h
    induction h with
    | refl => exact refl held
    | tail _ hstep ih => exact onward _ _ _ ih hstep

theorem eq_or_shrinks_of_reflTransGen (size : α → Nat)
    (shrinks : ∀ held requested, step held requested → size requested < size held)
    (h : ReflTransGen step held requested) : held = requested ∨ size requested < size held := by
  induction h with
  | refl => exact .inl rfl
  | tail _ hstep ih =>
    have hlt := shrinks _ _ hstep
    rcases ih with rfl | ih
    · exact .inr hlt
    · exact .inr (Nat.lt_trans hlt ih)

theorem eq_of_reflTransGen_of_shrinks (size : α → Nat)
    (shrinks : ∀ held requested, step held requested → size requested < size held)
    (h : ReflTransGen step held requested) (hback : ReflTransGen step requested held) :
    held = requested := by
  rcases eq_or_shrinks_of_reflTransGen size shrinks h with heq | hlt
  · exact heq
  · rcases eq_or_shrinks_of_reflTransGen size shrinks hback with heq | hlt'
    · exact heq.symm
    · exact absurd hlt (Nat.lt_asymm hlt')

end Closure

/-! ## Actions on the wiki -/

namespace WikiAction

inductive Step : WikiAction → WikiAction → Prop
  | createPages : Step .createGroups .createPages
  | editPreferences : Step .editProfile .editPreferences

theorem reflTransGen_of_mem_granted (held requested : WikiAction)
    (h : requested ∈ held.granted) : ReflTransGen Step held requested := by
  cases held <;> simp only [granted, List.mem_cons, List.not_mem_nil, or_false] at h
  case createGroups =>
    rcases h with rfl | rfl
    · exact .refl
    · exact .single .createPages
  case editProfile =>
    rcases h with rfl | rfl
    · exact .refl
    · exact .single .editPreferences
  all_goals
    subst h
    exact .refl

theorem mem_granted_self (action : WikiAction) : action ∈ action.granted := by
  cases action <;> exact List.mem_cons_self

theorem mem_granted_onward (held between requested : WikiAction)
    (h : between ∈ held.granted) (hstep : Step between requested) :
    requested ∈ held.granted := by
  cases hstep <;> cases held <;> revert h <;> decide

theorem mem_granted_iff (held requested : WikiAction) :
    requested ∈ held.granted ↔ ReflTransGen Step held requested :=
  iff_reflTransGen_of_step reflTransGen_of_mem_granted mem_granted_self mem_granted_onward

theorem eq_of_mem_granted {held requested : WikiAction} (h : requested ∈ held.granted)
    (hback : held ∈ requested.granted) : held = requested := by
  rw [mem_granted_iff] at h hback
  refine eq_of_reflTransGen_of_shrinks (fun action => action.granted.length) ?_ h hback
  intro held requested hstep
  cases hstep <;> decide

end WikiAction

/-! ## Actions on groups -/

namespace GroupAction

inductive Step : GroupAction → GroupAction → Prop
  | edit : Step .delete .edit
  | view : Step .edit .view

theorem reflTransGen_of_mem_granted (held requested : GroupAction)
    (h : requested ∈ held.granted) : ReflTransGen Step held requested := by
  cases held <;> simp only [granted, List.mem_cons, List.not_mem_nil, or_false] at h
  case view =>
    subst h
    exact .refl
  case edit =>
    rcases h with rfl | rfl
    · exact .refl
    · exact .single .view
  case delete =>
    rcases h with rfl | rfl | rfl
    · exact .refl
    · exact .single .edit
    · exact .head .edit (.single .view)

theorem mem_granted_self (action : GroupAction) : action ∈ action.granted := by
  cases action <;> exact List.mem_cons_self

theorem mem_granted_onward (held between requested : GroupAction)
    (h : between ∈ held.granted) (hstep : Step between requested) :
    requested ∈ held.granted := by
  cases hstep <;> cases held <;> revert h <;> decide

theorem mem_granted_iff (held requested : GroupAction) :
    requested ∈ held.granted ↔ ReflTransGen Step held requested :=
  iff_reflTransGen_of_step reflTransGen_of_mem_granted mem_granted_self mem_granted_onward

theorem eq_of_mem_granted {held requested : GroupAction} (h : requested ∈ held.granted)
    (hback : held ∈ requested.granted) : held = requested := by
  rw [mem_granted_iff] at h hback
  refine eq_of_reflTransGen_of_shrinks (fun action => action.granted.length) ?_ h hback
  intro held requested hstep
  cases hstep <;> decide

end GroupAction

/-! ## Actions on a page

The actions of the rules are texts like any other, and an action that no rule
mentions is related to itself alone. -/

namespace PageAction

inductive Step : PageAction → PageAction → Prop
  | editOfDelete : Step ⟨"delete"⟩ ⟨"edit"⟩
  | editOfRename : Step ⟨"rename"⟩ ⟨"edit"⟩
  | editOfModify : Step ⟨"modify"⟩ ⟨"edit"⟩
  | uploadOfModify : Step ⟨"modify"⟩ ⟨"upload"⟩
  | viewOfEdit : Step ⟨"edit"⟩ ⟨"view"⟩
  | commentOfEdit : Step ⟨"edit"⟩ ⟨"comment"⟩
  | viewOfComment : Step ⟨"comment"⟩ ⟨"view"⟩
  | viewOfUpload : Step ⟨"upload"⟩ ⟨"view"⟩

theorem implies_iff_mem (held requested : PageAction) :
    held.implies requested = true ↔ requested.text ∈ held.granted := by
  rw [implies, List.contains_iff_mem]

theorem reflTransGen_of_implies (held requested : PageAction)
    (h : held.implies requested = true) : ReflTransGen Step held requested := by
  obtain ⟨held⟩ := held
  obtain ⟨requested⟩ := requested
  rw [implies_iff_mem] at h
  unfold granted at h
  split at h <;> simp only [List.mem_cons, List.not_mem_nil, or_false] at h
  case h_1 heq =>
    obtain rfl : held = "view" := heq
    subst h
    exact .refl
  case h_2 heq =>
    obtain rfl : held = "comment" := heq
    rcases h with rfl | rfl
    · exact .refl
    · exact .single .viewOfComment
  case h_3 heq =>
    obtain rfl : held = "upload" := heq
    rcases h with rfl | rfl
    · exact .refl
    · exact .single .viewOfUpload
  case h_4 heq =>
    obtain rfl : held = "edit" := heq
    rcases h with rfl | rfl | rfl
    · exact .refl
    · exact .single .commentOfEdit
    · exact .single .viewOfEdit
  case h_5 heq =>
    obtain rfl : held = "modify" := heq
    rcases h with rfl | rfl | rfl | rfl | rfl
    · exact .refl
    · exact .single .editOfModify
    · exact .single .uploadOfModify
    · exact .head .editOfModify (.single .commentOfEdit)
    · exact .head .editOfModify (.single .viewOfEdit)
  case h_6 heq =>
    obtain rfl : held = "rename" := heq
    rcases h with rfl | rfl | rfl | rfl
    · exact .refl
    · exact .single .editOfRename
    · exact .head .editOfRename (.single .commentOfEdit)
    · exact .head .editOfRename (.single .viewOfEdit)
  case h_7 heq =>
    obtain rfl : held = "delete" := heq
    rcases h with rfl | rfl | rfl | rfl
    · exact .refl
    · exact .single .editOfDelete
    · exact .head .editOfDelete (.single .commentOfEdit)
    · exact .head .editOfDelete (.single .viewOfEdit)
  case h_8 =>
    obtain rfl : requested = held := h
    exact .refl

theorem implies_self (action : PageAction) : action.implies action = true := by
  rw [implies_iff_mem]
  unfold granted
  split <;> simp [*]

theorem implies_onward (held between requested : PageAction)
    (h : held.implies between = true) (hstep : Step between requested) :
    held.implies requested = true := by
  rw [implies_iff_mem] at h ⊢
  unfold granted at h ⊢
  -- A rule starts at a well-known action, and no other action grants one.
  cases hstep <;> split at h <;> simp_all

theorem implies_iff (held requested : PageAction) :
    held.implies requested = true ↔ ReflTransGen Step held requested :=
  iff_reflTransGen_of_step reflTransGen_of_implies implies_self implies_onward

theorem eq_of_implies {held requested : PageAction} (h : held.implies requested = true)
    (hback : requested.implies held = true) : held = requested := by
  rw [implies_iff] at h hback
  refine eq_of_reflTransGen_of_shrinks (fun action => action.granted.length) ?_ h hback
  intro held requested hstep
  cases hstep <;> decide

end PageAction

/-! ## Names that a grant covers -/

namespace Name

variable {kind : NameKind} {granted name requested : Name kind}

theorem covers_iff : granted.covers requested = true ↔ granted = ⟨"*"⟩ ∨ granted = requested := by
  simp [covers, wildcard, Name.ext_iff]

theorem covers_self (name : Name kind) : name.covers name = true := covers_iff.mpr (.inr rfl)

theorem covers_of_covers_wildcard (h : granted.covers ⟨"*"⟩ = true) (requested : Name kind) :
    granted.covers requested = true := by
  rw [covers_iff, or_self] at h
  exact covers_iff.mpr (.inl h)

theorem eq_of_covers (h : granted.covers requested = true)
    (hback : requested.covers granted = true) : granted = requested := by
  rw [covers_iff] at h hback
  rcases h with rfl | rfl
  · rcases hback with rfl | rfl <;> rfl
  · rfl

end Name

/-! ## Permissions -/

namespace Permission

/-- The rules of the order.  The override reaches the wiki and the pages of its
application and every group, a grant on every page or group reaches each, and within
one application, page and group the actions have their own rules. -/
inductive Step : Permission → Permission → Prop
  | wikiOfAll (application : ApplicationName) (action : WikiAction) :
    Step (.all application) (.wiki application action)
  | pageOfAll (application : ApplicationName) (page : PageName) (action : PageAction) :
    Step (.all application) (.page application page action)
  | groupOfAll (application : ApplicationName) (group : GroupName) (action : GroupAction) :
    Step (.all application) (.group group action)
  | pageOfWildcard (application : ApplicationName) (page : PageName) (action : PageAction) :
    Step (.page application ⟨"*"⟩ action) (.page application page action)
  | groupOfWildcard (group : GroupName) (action : GroupAction) :
    Step (.group ⟨"*"⟩ action) (.group group action)
  | pageAction (application : ApplicationName) (page : PageName) {held requested : PageAction} :
    held.Step requested → Step (.page application page held) (.page application page requested)
  | wikiAction (application : ApplicationName) {held requested : WikiAction} :
    held.Step requested → Step (.wiki application held) (.wiki application requested)
  | groupAction (group : GroupName) {held requested : GroupAction} :
    held.Step requested → Step (.group group held) (.group group requested)

/-! What one permission grants another takes, kind by kind. -/

theorem implies_wiki_iff {application other : ApplicationName} {action requested : WikiAction} :
    (wiki application action).implies (wiki other requested) = true ↔
      application = other ∧ requested ∈ action.granted := by
  show (application == other && action.granted.contains requested) = true ↔ _
  rw [Bool.and_eq_true, beq_iff_eq, List.contains_iff_mem]

theorem implies_group_iff {name other : GroupName} {action requested : GroupAction} :
    (group name action).implies (group other requested) = true ↔
      name.covers other = true ∧ requested ∈ action.granted := by
  show (name.covers other && action.granted.contains requested) = true ↔ _
  rw [Bool.and_eq_true, List.contains_iff_mem]

theorem implies_page_iff {application otherApplication : ApplicationName}
    {name other : PageName} {action requested : PageAction} :
    (page application name action).implies (page otherApplication other requested) = true ↔
      application = otherApplication ∧ name.covers other = true ∧
        action.implies requested = true := by
  show (application == otherApplication && name.covers other && action.implies requested) = true ↔ _
  rw [Bool.and_eq_true, Bool.and_eq_true, beq_iff_eq, and_assoc]

theorem implies_all_wiki_iff {application other : ApplicationName} {action : WikiAction} :
    (all application).implies (wiki other action) = true ↔ application = other :=
  beq_iff_eq

theorem implies_all_page_iff {application other : ApplicationName} {name : PageName}
    {action : PageAction} :
    (all application).implies (page other name action) = true ↔ application = other :=
  beq_iff_eq

/-- Only the override grants an override, and only its own. -/
theorem implies_all_iff {held : Permission} {application : ApplicationName} :
    held.implies (all application) = true ↔ held = all application := by
  cases held <;> simp [implies]

theorem reflTransGen_of_implies (held requested : Permission)
    (h : held.implies requested = true) : ReflTransGen Step held requested := by
  cases held with
  | all application =>
    cases requested with
    | all other =>
      rw [implies_all_iff.mp h]
    | wiki other action =>
      obtain rfl := implies_all_wiki_iff.mp h
      exact .single (.wikiOfAll application action)
    | page other name action =>
      obtain rfl := implies_all_page_iff.mp h
      exact .single (.pageOfAll application name action)
    | group name action => exact .single (.groupOfAll application name action)
  | wiki application action =>
    cases requested with
    | wiki other requested =>
      obtain ⟨rfl, haction⟩ := implies_wiki_iff.mp h
      exact ((WikiAction.mem_granted_iff _ _).mp haction).lift (wiki application)
        fun _ _ => .wikiAction application
    | _ => cases h
  | group name action =>
    cases requested with
    | group other requested =>
      obtain ⟨hname, haction⟩ := implies_group_iff.mp h
      have hactions : ReflTransGen Step (.group name action) (.group name requested) :=
        ((GroupAction.mem_granted_iff _ _).mp haction).lift (group name)
          fun _ _ => .groupAction name
      rcases Name.covers_iff.mp hname with rfl | rfl
      · exact hactions.tail (.groupOfWildcard other requested)
      · exact hactions
    | _ => cases h
  | page application name action =>
    cases requested with
    | page otherApplication other requested =>
      obtain ⟨rfl, hname, haction⟩ := implies_page_iff.mp h
      have hactions :
          ReflTransGen Step (.page application name action) (.page application name requested) :=
        ((PageAction.implies_iff _ _).mp haction).lift (page application name)
          fun _ _ => .pageAction application name
      rcases Name.covers_iff.mp hname with rfl | rfl
      · exact hactions.tail (.pageOfWildcard application other requested)
      · exact hactions
    | _ => cases h

theorem implies_self (permission : Permission) : permission.implies permission = true := by
  cases permission with
  | wiki application action => exact implies_wiki_iff.mpr ⟨rfl, action.mem_granted_self⟩
  | group name action => exact implies_group_iff.mpr ⟨name.covers_self, action.mem_granted_self⟩
  | all application => exact implies_all_iff.mpr rfl
  | page application name action =>
    exact implies_page_iff.mpr ⟨rfl, name.covers_self, action.implies_self⟩

theorem implies_onward (held between requested : Permission)
    (h : held.implies between = true) (hstep : Step between requested) :
    held.implies requested = true := by
  cases hstep with
  | wikiOfAll application action =>
    obtain rfl := implies_all_iff.mp h
    exact implies_all_wiki_iff.mpr rfl
  | pageOfAll application name action =>
    obtain rfl := implies_all_iff.mp h
    exact implies_all_page_iff.mpr rfl
  | groupOfAll application name action =>
    obtain rfl := implies_all_iff.mp h
    rfl
  | pageOfWildcard application name action =>
    cases held with
    | all other => exact implies_all_page_iff.mpr (implies_all_page_iff.mp h)
    | page other granted held =>
      obtain ⟨rfl, hname, haction⟩ := implies_page_iff.mp h
      exact implies_page_iff.mpr ⟨rfl, Name.covers_of_covers_wildcard hname name, haction⟩
    | _ => cases h
  | groupOfWildcard name action =>
    cases held with
    | all other => rfl
    | group granted held =>
      obtain ⟨hname, haction⟩ := implies_group_iff.mp h
      exact implies_group_iff.mpr ⟨Name.covers_of_covers_wildcard hname name, haction⟩
    | _ => cases h
  | pageAction application name hstep =>
    cases held with
    | all other => exact implies_all_page_iff.mpr (implies_all_page_iff.mp h)
    | page other granted held =>
      obtain ⟨rfl, hname, haction⟩ := implies_page_iff.mp h
      exact implies_page_iff.mpr ⟨rfl, hname, PageAction.implies_onward _ _ _ haction hstep⟩
    | _ => cases h
  | wikiAction application hstep =>
    cases held with
    | all other => exact implies_all_wiki_iff.mpr (implies_all_wiki_iff.mp h)
    | wiki other held =>
      obtain ⟨rfl, haction⟩ := implies_wiki_iff.mp h
      exact implies_wiki_iff.mpr ⟨rfl, WikiAction.mem_granted_onward _ _ _ haction hstep⟩
    | _ => cases h
  | groupAction name hstep =>
    cases held with
    | all other => rfl
    | group granted held =>
      obtain ⟨hname, haction⟩ := implies_group_iff.mp h
      exact implies_group_iff.mpr ⟨hname, GroupAction.mem_granted_onward _ _ _ haction hstep⟩
    | _ => cases h

theorem implies_iff (held requested : Permission) :
    held.implies requested = true ↔ ReflTransGen Step held requested :=
  iff_reflTransGen_of_step reflTransGen_of_implies implies_self implies_onward

theorem implies_trans {first second third : Permission} (h : first.implies second = true)
    (hnext : second.implies third = true) : first.implies third = true := by
  rw [implies_iff] at h hnext ⊢
  exact h.trans hnext

theorem eq_of_implies {held requested : Permission} (h : held.implies requested = true)
    (hback : requested.implies held = true) : held = requested := by
  cases held with
  | all application => exact (implies_all_iff.mp hback).symm
  | wiki application action =>
    cases requested with
    | wiki other requested =>
      obtain ⟨rfl, haction⟩ := implies_wiki_iff.mp h
      rw [WikiAction.eq_of_mem_granted haction (implies_wiki_iff.mp hback).2]
    | _ => cases h
  | group name action =>
    cases requested with
    | group other requested =>
      obtain ⟨hname, haction⟩ := implies_group_iff.mp h
      obtain ⟨hnameBack, hactionBack⟩ := implies_group_iff.mp hback
      rw [Name.eq_of_covers hname hnameBack, GroupAction.eq_of_mem_granted haction hactionBack]
    | _ => cases h
  | page application name action =>
    cases requested with
    | page other otherName requested =>
      obtain ⟨rfl, hname, haction⟩ := implies_page_iff.mp h
      obtain ⟨-, hnameBack, hactionBack⟩ := implies_page_iff.mp hback
      rw [Name.eq_of_covers hname hnameBack, PageAction.eq_of_implies haction hactionBack]
    | _ => cases h

/-- Implication is the order that the rules generate.  One permission implies another
exactly when steps lead from the first to the second, whatever their names and page
actions.  So every permission implies itself, implication is transitive, and two
permissions that imply each other are the same. -/
theorem implies_generated_by_steps :
    (∀ held requested : Permission,
      held.implies requested = true ↔ ReflTransGen Step held requested) ∧
    (∀ permission : Permission, permission.implies permission = true) ∧
    (∀ first second third : Permission, first.implies second = true →
      second.implies third = true → first.implies third = true) ∧
    (∀ held requested : Permission, held.implies requested = true →
      requested.implies held = true → held = requested) :=
  ⟨implies_iff, implies_self, fun _ _ _ => implies_trans, fun _ _ => eq_of_implies⟩

end Permission
end WikiAccess
