import WikiAccess.Run

/-!
# Oracles

An oracle decides whether a session holds a permission.  It is deterministic, and
it may write to the log what led it to its answer.
-/

namespace WikiAccess

/-- Who decides which permissions a session holds. -/
structure Oracle where
  /-- The answer for a session and a permission. -/
  holds : Session → Permission → Bool
  /-- What the oracle writes to the log when asked. -/
  events : Session → Permission → List Log.Event

namespace Oracle

/-- An oracle that writes nothing to the log. -/
def silent (holds : Session → Permission → Bool) : Oracle := ⟨holds, fun _ _ => []⟩

/-- The oracle that grants everything to every session with a user. -/
def authenticatedOnly : Oracle := silent fun session _ => session.isAuthenticated

/-- The oracle that looks the text of a permission up in a table. -/
def ofTable (answers : List (String × Bool)) (fallback : Bool) : Oracle :=
  silent fun _ permission => (answers.lookup permission.display).getD fallback

/-- Ask whether a session holds a permission. -/
def ask {ε : Type} (oracle : Oracle) (session : Session) (permission : Permission) :
    Run ε Bool :=
  ⟨.asked session permission :: (oracle.events session permission).map .logged,
    .ok (oracle.holds session permission)⟩

variable {ε : Type} (oracle : Oracle) (session : Session) (permission : Permission)

/-- Asking is one question, whatever the oracle writes to the log. -/
theorem view_ask {γ : Type} {see : Effect → Option γ} (hsee : Run.BlindToLog see) :
    (oracle.ask session permission : Run ε Bool).view see =
      (see (.asked session permission)).toList := by
  rw [Run.view, ask, List.filterMap_cons, Run.view_logged hsee]
  cases see (.asked session permission) <;> rfl

theorem log_ask :
    (oracle.ask session permission : Run ε Bool).log = oracle.events session permission := by
  show ((oracle.events session permission).map Effect.logged).filterMap Effect.logged? = _
  rw [List.filterMap_map]
  exact List.filterMap_some

end Oracle
end WikiAccess
