import WikiAccess.Permission.Basic

/-!
# What holding a permission grants

Holding an action grants the weaker actions below it, each list being closed
downwards and starting with the action itself.  A permission on the wildcard page
or group is held on every page or group.  The administrative override grants
every permission on the wiki and the pages of its application, and every
permission on groups, which belong to no application.
-/

namespace WikiAccess

/-- The actions that holding this one grants, itself first. -/
def WikiAction.granted : WikiAction → List WikiAction
  | .createGroups => [.createGroups, .createPages]
  | .createPages => [.createPages]
  | .editPreferences => [.editPreferences]
  | .editProfile => [.editProfile, .editPreferences]
  | .login => [.login]

@[inherit_doc WikiAction.granted]
def GroupAction.granted : GroupAction → List GroupAction
  | .view => [.view]
  | .edit => [.edit, .view]
  | .delete => [.delete, .edit, .view]

/-- The texts of the actions that holding an action grants.  An action that is
not well known grants only itself. -/
def PageAction.granted (action : PageAction) : List String :=
  match action.text with
  | "view" => ["view"]
  | "comment" => ["comment", "view"]
  | "upload" => ["upload", "view"]
  | "edit" => ["edit", "comment", "view"]
  | "modify" => ["modify", "edit", "upload", "comment", "view"]
  | "rename" => ["rename", "edit", "comment", "view"]
  | "delete" => ["delete", "edit", "comment", "view"]
  | other => [other]

/-- Whether holding one page action grants another. -/
def PageAction.implies (held requested : PageAction) : Bool :=
  held.granted.contains requested.text

/-- The page or group name of a grant that concerns every page or group. -/
def wildcard : String := "*"

/-- A granted name covers itself, and the wildcard covers every name. -/
def Name.covers {kind : NameKind} (granted requested : Name kind) : Bool :=
  granted.text == wildcard || granted == requested

/-- Whether holding one permission grants another. -/
def Permission.implies : Permission → Permission → Bool
  | .all application, .all other => application == other
  | .all application, .wiki other _ => application == other
  | .all application, .page other _ _ => application == other
  | .all _, .group _ _ => true
  | .wiki application action, .wiki other requested =>
    application == other && action.granted.contains requested
  | .group name action, .group otherName requested =>
    name.covers otherName && action.granted.contains requested
  | .page application name action, .page other otherName requested =>
    application == other && name.covers otherName && action.implies requested
  | _, _ => false

end WikiAccess
