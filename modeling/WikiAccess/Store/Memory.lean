import WikiAccess.Multimap
import WikiAccess.Store.Basic

/-!
# A store that keeps every revision in memory

Each page name has a history, its revisions in the order in which they were
saved.  Saving appends one revision numbered one past the newest, so the history
of a name with `c` saves is numbered `1` to `c`.

A store whose lock was poisoned keeps its histories but answers nothing any
more.
-/

namespace WikiAccess

/-- The history of every page, and whether the lock around them is poisoned. -/
structure MemoryStore where
  histories : Multimap PageName Page
  poisoned : Bool
  deriving Repr

namespace MemoryStore

def empty : MemoryStore := ⟨.empty, false⟩

/-- The failure of every access to a poisoned store. -/
def lockPoisoned : StoreError := .unavailable "lock poisoned"

/-- The revisions of `name`, oldest first. -/
def history (store : MemoryStore) (name : PageName) : List Page :=
  store.histories.valuesOf name

/-- An answer that was computed from the histories, unless the lock is
poisoned. -/
def access {α : Type} (store : MemoryStore) (answer : α) : Except StoreError α :=
  if store.poisoned then .error lockPoisoned else .ok answer

theorem access_eq_ok_iff {α : Type} {store : MemoryStore} {answer value : α} :
    store.access answer = .ok value ↔ store.poisoned = false ∧ answer = value := by
  unfold access
  cases store.poisoned <;> simp

def nextRevision (store : MemoryStore) (name : PageName) (author : Option String) :
    Page :=
  let newest := ((store.history name).getLast?.map (·.version.ordinal)).getD 0
  ⟨name, ⟨newest + 1⟩, author⟩

/-- Append a revision and return it with the changed store. -/
def save (store : MemoryStore) (name : PageName) (author : Option String) :
    Except StoreError (Page × MemoryStore) :=
  let page := store.nextRevision name author
  store.access (page, { store with histories := store.histories.push name page })

def newest (store : MemoryStore) (name : PageName) : Except StoreError (Option Page) :=
  store.access (store.history name).getLast?

def revision (store : MemoryStore) (name : PageName) (version : PageVersion) :
    Except StoreError (Option Page) :=
  store.access ((store.history name).find? fun page => page.version == version)

/-- Poison the lock, which itself takes an unpoisoned one. -/
def poison (store : MemoryStore) : Except StoreError MemoryStore :=
  store.access { store with poisoned := true }

def toPageStore (store : MemoryStore) : PageStore := ⟨store.newest⟩

end MemoryStore
end WikiAccess
