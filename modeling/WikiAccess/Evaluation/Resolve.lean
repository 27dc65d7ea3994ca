import WikiAccess.Context
import WikiAccess.Run

/-!
# From a permission name to a check

In a context a permission name comes to a permission that an oracle can be asked
about.  Names of group actions all come to viewing the group.  Editing a pinned
revision first looks whether that revision is still the newest, and comes to a
refusal when it is not.  This look is the only effect that resolving has on a
store, and no oracle is asked.
-/

namespace WikiAccess
namespace Context

/-- The refusal of an edit of `page`, unless it is the newest revision. -/
def staleEdit? (page : Page) (newest : Option PageVersion) : Option StaleEdit :=
  if newest = some page.version then none else some ⟨page.name, page.version, newest⟩

/-- Whether an action on a page calls for a look at the newest revision. -/
def needsNewest (action : PageAction) (page : Page) : Bool :=
  action == .edit && !page.version.isLatest

/-- What an action on the page at hand comes to. -/
def resolveOnPage (context : Context) (store : PageStore) (action : PageAction)
    (page : Page) : Run EvaluationError Resolution := do
  let check := Resolution.check (.page context.application page.name action)
  if needsNewest action page then
    let newest ← (store.read page.name).mapError .store
    match staleEdit? page (newest.map Page.version) with
    | some edit =>
      Run.note (.staleEdit edit)
      return .stale edit
    | none => return check
  else
    return check

/-- What a permission name comes to. -/
def resolve (context : Context) (store : PageStore) (name : String) :
    Run EvaluationError Resolution :=
  let missing required := Run.fail (.missingResource name required)
  match PermissionKind.ofName name with
  | .applicationWide action => return .check (.wiki context.application action)
  | .groupScoped _ =>
    match context.group? with
    | some group => return .check (.group group .view)
    | none => missing .group
  | .administrative => return .check (.all context.application)
  | .pageScoped action =>
    match context.page? with
    | some page => context.resolveOnPage store action page
    | none => missing .page

end Context
end WikiAccess
