import WikiAccess.Page
import WikiAccess.Session

/-!
# What an expression is evaluated against

A context is fixed for one evaluation: whose session it is, which application is
asked about, and which page or group, if any, is at hand.
-/

namespace WikiAccess

/-- What is at hand besides the application. -/
inductive Resource where
  /-- Neither a page nor a group. -/
  | application
  | page (page : Page)
  | group (group : GroupName)
  deriving DecidableEq, Repr

/-- A session, an application and a resource. -/
@[ext]
structure Context where
  session : Session
  application : ApplicationName
  resource : Resource
  deriving DecidableEq, Repr

namespace Context

def page? (context : Context) : Option Page :=
  match context.resource with
  | .page page => some page
  | _ => none

def group? (context : Context) : Option GroupName :=
  match context.resource with
  | .group group => some group
  | _ => none

def on (context : Context) (resource : Resource) : Context :=
  { context with resource }

end Context
end WikiAccess
