import WikiAccess.Json.Name

/-!
# Sessions in JSON

A session is a record with the fields `id`, `user` and `roles`, of which `user`
may be missing or null.
-/

namespace WikiAccess
namespace Session

def toJson (session : Session) : Json :=
  .obj [("id", session.id.toJson), ("user", .ofOption session.user),
    ("roles", .arr (session.roles.map Role.toJson))]

def ofJson? (json : Json) : Option Session := do
  let [some id, user, some (.arr roles)] ← json.fields? ["id", "user", "roles"] | none
  return ⟨← SessionId.ofJson? id, ← Json.optionalStr? user, ← roles.mapM Role.ofJson?⟩

end Session
end WikiAccess
