import WikiAccess.Json.Name

/-!
# Permissions in JSON

A permission is an object whose member `type` names its constructor, or an array
that starts with that name and goes on with exactly the fields.
-/

namespace WikiAccess
namespace Permission

def toJson : Permission → Json
  | .wiki application action =>
    .obj [("type", .str "wiki"), ("application", application.toJson),
      ("action", action.toJson)]
  | .group name action =>
    .obj [("type", .str "group"), ("group", name.toJson), ("action", action.toJson)]
  | .all application => .obj [("type", .str "all"), ("application", application.toJson)]
  | .page application name action =>
    .obj [("type", .str "page"), ("application", application.toJson),
      ("page", name.toJson), ("action", action.toJson)]

/-- The permission of the given constructor with the fields in `json`. -/
def ofFields? (type : String) (json : Json) : Option Permission :=
  match type with
  | "wiki" => do
    let [some application, some action] ← json.fields? ["application", "action"] | none
    return .wiki (← Name.ofJson? application) (← WikiAction.ofField? action)
  | "group" => do
    let [some name, some action] ← json.fields? ["group", "action"] | none
    return .group (← Name.ofJson? name) (← GroupAction.ofField? action)
  | "all" => do
    let [some application] ← json.fields? ["application"] | none
    return .all (← Name.ofJson? application)
  | "page" => do
    let [some application, some name, some action] ←
      json.fields? ["application", "page", "action"] | none
    return .page (← Name.ofJson? application) (← Name.ofJson? name)
      (← PageAction.ofJson? action)
  | _ => none

def ofJson? : Json → Option Permission
  | .obj members => do
    let type ← (← members.lookup "type").str?
    ofFields? type (.obj members)
  | .arr (type :: fields) => do
    ofFields? (← type.str?) (.arr fields)
  | _ => none

end Permission
end WikiAccess
