import WikiAccess.Name

/-!
# Permissions

A permission says what may be done to what.  It concerns the whole wiki, one
group, one page, or, as the administrative override, everything in one
application.  Actions on the wiki and on groups are fixed; actions on pages are
open, since which of them exist is for whoever grants them to say.
-/

namespace WikiAccess

/-- What is found under its own name is found under no other. -/
theorem find?_name_eq_some_iff {α : Type} {all : List α} {name : α → String}
    (h : ∀ action, all.find? (fun other => name other == name action) = some action)
    {text : String} {action : α} :
    all.find? (fun other => name other == text) = some action ↔ text = name action := by
  constructor
  · intro hfind
    have hname := List.find?_some hfind
    exact (beq_iff_eq.mp hname).symm
  · rintro rfl
    exact h action

/-- An action that concerns no particular page or group. -/
inductive WikiAction where
  | createGroups
  | createPages
  | editPreferences
  | editProfile
  | login
  deriving DecidableEq, Repr

namespace WikiAction

/-- Every action, in the order of the constructors. -/
def all : List WikiAction :=
  [.createGroups, .createPages, .editPreferences, .editProfile, .login]

def name : WikiAction → String
  | .createGroups => "createGroups"
  | .createPages => "createPages"
  | .editPreferences => "editPreferences"
  | .editProfile => "editProfile"
  | .login => "login"

def ofName? (name : String) : Option WikiAction :=
  all.find? fun action => action.name == name

theorem ofName?_name (action : WikiAction) : ofName? action.name = some action := by
  cases action <;> decide

theorem ofName?_eq_some_iff {name : String} {action : WikiAction} :
    ofName? name = some action ↔ name = action.name :=
  find?_name_eq_some_iff ofName?_name

end WikiAction

/-- An action on a group. -/
inductive GroupAction where
  | view
  | edit
  | delete
  deriving DecidableEq, Repr

namespace GroupAction

def all : List GroupAction := [.view, .edit, .delete]

def name : GroupAction → String
  | .view => "view"
  | .edit => "edit"
  | .delete => "delete"

def ofName? (name : String) : Option GroupAction :=
  all.find? fun action => action.name == name

theorem ofName?_name (action : GroupAction) : ofName? action.name = some action := by
  cases action <;> decide

theorem ofName?_eq_some_iff {name : String} {action : GroupAction} :
    ofName? name = some action ↔ name = action.name :=
  find?_name_eq_some_iff ofName?_name

end GroupAction

/-- An action on a page: any text. -/
@[ext]
structure PageAction where
  text : String
  deriving DecidableEq, Repr

/-- The one action that an outdated revision of a page refuses. -/
def PageAction.edit : PageAction := ⟨"edit"⟩

/-- A permission that can be held and asked for. -/
inductive Permission where
  | wiki (application : ApplicationName) (action : WikiAction)
  | group (group : GroupName) (action : GroupAction)
  /-- The administrative override of an application. -/
  | all (application : ApplicationName)
  | page (application : ApplicationName) (page : PageName) (action : PageAction)
  deriving DecidableEq, Repr

/-- The word for the kind of a permission. -/
def Permission.tag : Permission → String
  | .wiki _ _ => "wiki"
  | .group _ _ => "group"
  | .all _ => "all"
  | .page _ _ _ => "page"

/-- The text of a permission: its kind and its fields, joined by colons. -/
def Permission.display : Permission → String
  | .wiki application action => "wiki:" ++ application.text ++ ":" ++ action.name
  | .group name action => "group:" ++ name.text ++ ":" ++ action.name
  | .all application => "all:" ++ application.text
  | .page application name action =>
    "page:" ++ application.text ++ ":" ++ name.text ++ ":" ++ action.text

end WikiAccess
