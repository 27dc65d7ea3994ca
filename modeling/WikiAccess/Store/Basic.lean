import WikiAccess.Page

/-!
# Reading pages from a store

A store answers one question, which page of a name is the newest revision.  It
may fail to answer.  That a page does not exist is an answer and not a failure.
-/

namespace WikiAccess

inductive StoreError where
  /-- The store could not be reached. -/
  | unavailable (detail : String)
  /-- What is stored could not be interpreted. -/
  | corrupt (detail : String)
  deriving DecidableEq, Repr

def StoreError.message : StoreError → String
  | .unavailable detail => "page store unavailable: " ++ detail
  | .corrupt detail => "page store data corrupt: " ++ detail

/-- What evaluation needs of a store: the newest revision of a name, `none` when
the page does not exist. -/
structure PageStore where
  newest : PageName → Except StoreError (Option Page)

/-- The store that fails every read with the same error. -/
def PageStore.failing (error : StoreError) : PageStore := ⟨fun _ => .error error⟩

end WikiAccess
