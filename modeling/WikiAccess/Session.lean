import WikiAccess.Session.Id

/-!
# Sessions and the principals they speak for

A session is either anonymous or has a user, and carries roles that were granted
to it.  Two further roles are implied by its state.  The names a session speaks for,
its principals, are what a policy looks up, wherever a name comes from.
-/

namespace WikiAccess

/-- A role: any text, with no meaning of its own at this layer. -/
@[ext]
structure Role where
  text : String
  deriving DecidableEq, Repr

namespace Role

/-- The role of every session. -/
def all : Role := ⟨"All"⟩

/-- The role of a session without a user. -/
def anonymous : Role := ⟨"Anonymous"⟩

/-- The role of a session with a user. -/
def authenticated : Role := ⟨"Authenticated"⟩

end Role

/-- One client's session.  An empty user name is still a user. -/
structure Session where
  id : SessionId
  user : Option String
  roles : List Role
  deriving DecidableEq, Repr

namespace Session

/-- The session of a client that has not logged in. -/
def anonymous (id : SessionId) : Session := ⟨id, none, []⟩

/-- A session from its written parts.  Without an identifier it has the nil
one. -/
def ofParts (id : Option String) (user : Option String) (roles : List String) :
    Except SessionIdError Session := do
  let id ← match id with
    | some raw => SessionId.parse raw
    | none => .ok SessionId.nil
  return ⟨id, user, roles.map Role.mk⟩

def isAuthenticated (session : Session) : Bool := session.user.isSome

def builtinRoles (session : Session) : List Role :=
  if session.isAuthenticated then [.all, .authenticated] else [.all, .anonymous]

/-- The names the session speaks for, in the order in which a policy tries them:
the user, the granted roles, the implied roles. -/
def principals (session : Session) : List String :=
  session.user.toList ++ session.roles.map Role.text ++
    session.builtinRoles.map Role.text

theorem all_mem_principals (session : Session) :
    Role.all.text ∈ session.principals := by
  unfold principals builtinRoles
  split <;> simp

end Session
end WikiAccess
