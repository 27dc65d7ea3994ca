import WikiAccess.Run

/-!
# Finding a page by a name that someone typed

The exact name is tried first.  When there is no such page and English plurals
are matched, the name is tried in the other number: without its final `s` when it
has one, with an `s` when it has none.  The single letter `s` has no singular.
-/

namespace WikiAccess

/-- Why a typed name led to no page. -/
inductive LookupError where
  | pageNotFound (requested : String)
  | store (cause : StoreError)
  deriving DecidableEq, Repr

namespace LookupError

def message : LookupError → String
  | .pageNotFound requested => "page not found: " ++ requested
  | .store cause => cause.message

/-- The message for whoever typed the name. -/
def userMessage : LookupError → String
  | .pageNotFound requested => "Page \"" ++ requested ++ "\" not found"
  | .store cause => cause.message

end LookupError

/-- The name in the other number. -/
def otherNumber? (raw : String) : Option PageName :=
  if raw.toList.getLast? = some 's' then
    if raw = "s" then none else some ⟨String.ofList raw.toList.dropLast⟩
  else
    some ⟨raw ++ "s"⟩

/-- A page store searched by names that someone typed. -/
structure PageIndex where
  store : PageStore
  matchesPlurals : Bool

namespace PageIndex

/-- The name to try after the exact one. -/
def variant? (index : PageIndex) (raw : String) : Option PageName :=
  if index.matchesPlurals then otherNumber? raw else none

/-- The newest revision of the page that a typed name means. -/
def find (index : PageIndex) (raw : String) : Run LookupError Page := do
  let notFound := Run.fail (.pageNotFound raw)
  match Name.parse .page raw with
  | .error _ => notFound
  | .ok name =>
    match ← (index.store.read name).mapError .store with
    | some page => return page
    | none =>
      match index.variant? raw with
      | none => notFound
      | some variant =>
        match ← (index.store.read variant).mapError .store with
        | none => notFound
        | some page =>
          Run.note (.variantFound raw page.name)
          return page

end PageIndex
end WikiAccess
