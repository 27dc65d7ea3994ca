import WikiAccess.Permission.Basic

/-!
# The kind of permission that a name denotes

An expression mentions permissions by name.  The kind of a name, and with it the
resource that has to be at hand, depends on the name alone: eight names denote
actions on the wiki and on groups, one denotes the administrative override, and
every other name, however spelled, is an action on a page.
-/

namespace WikiAccess

/-- The resource that has to be at hand to make sense of a name. -/
inductive Requirement where
  /-- Nothing beyond the application. -/
  | application
  | group
  | page
  deriving DecidableEq, Repr

def Requirement.display : Requirement → String
  | .application => "application"
  | .group => "group"
  | .page => "page"

/-- What a permission name denotes. -/
inductive PermissionKind where
  | applicationWide (action : WikiAction)
  /-- The group action that the name asks for. -/
  | groupScoped (action : GroupAction)
  | administrative
  | pageScoped (action : PageAction)
  deriving DecidableEq, Repr

namespace PermissionKind

/-- The kind of a name.  Letter case matters. -/
def ofName (name : String) : PermissionKind :=
  match WikiAction.ofName? name with
  | some action => .applicationWide action
  | none =>
    match name with
    | "viewGroup" => .groupScoped .view
    | "editGroup" => .groupScoped .edit
    | "deleteGroup" => .groupScoped .delete
    | "allPermission" => .administrative
    | other => .pageScoped ⟨other⟩

/-- An action on a page is the name itself, verbatim. -/
theorem ofName_eq_pageScoped {name : String} {action : PageAction}
    (h : ofName name = .pageScoped action) : action = ⟨name⟩ := by
  unfold ofName at h
  split at h
  · cases h
  · split at h <;> simp at h
    exact h.symm

theorem ofName_eq_groupScoped {name : String} {action : GroupAction}
    (h : ofName name = .groupScoped action) :
    name = "viewGroup" ∨ name = "editGroup" ∨ name = "deleteGroup" := by
  unfold ofName at h
  split at h
  · cases h
  · split at h <;> simp at h ⊢

/-- The resource that a kind of permission needs. -/
def required : PermissionKind → Requirement
  | .applicationWide _ => .application
  | .administrative => .application
  | .groupScoped _ => .group
  | .pageScoped _ => .page

/-- The text of the action that the name asks for.  The override has none. -/
def actionName? : PermissionKind → Option String
  | .applicationWide action => some action.name
  | .groupScoped action => some action.name
  | .administrative => none
  | .pageScoped action => some action.text

end PermissionKind
end WikiAccess
