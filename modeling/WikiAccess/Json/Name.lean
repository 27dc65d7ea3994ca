import WikiAccess.Json.Basic
import WikiAccess.Permission.Basic
import WikiAccess.Session

/-!
# Names and identifiers in JSON

Names, roles and page actions are strings of any content.  The actions with a
fixed set of names are constants, read a little more freely as the fields of a
permission than alone, and a session identifier is a string in one of its written
forms.
-/

namespace WikiAccess

namespace Name

def toJson {kind : NameKind} (name : Name kind) : Json := .str name.text

def ofJson? {kind : NameKind} (json : Json) : Option (Name kind) := json.str?.map Name.mk

end Name

namespace Role

def toJson (role : Role) : Json := .str role.text

def ofJson? (json : Json) : Option Role := json.str?.map Role.mk

end Role

namespace PageAction

def toJson (action : PageAction) : Json := .str action.text

def ofJson? (json : Json) : Option PageAction := json.str?.map PageAction.mk

end PageAction

namespace WikiAction

def toJson (action : WikiAction) : Json := .str action.name

def ofJson? (json : Json) : Option WikiAction := json.constant?.bind ofName?

/-- The action of a permission. -/
def ofField? (json : Json) : Option WikiAction := json.taggedConstant?.bind ofName?

end WikiAction

namespace GroupAction

def toJson (action : GroupAction) : Json := .str action.name

def ofJson? (json : Json) : Option GroupAction := json.constant?.bind ofName?

/-- The action of a permission. -/
def ofField? (json : Json) : Option GroupAction := json.taggedConstant?.bind ofName?

end GroupAction

namespace SessionId

def toJson (id : SessionId) : Json := .str id.display

def ofJson? (json : Json) : Option SessionId :=
  json.str?.bind fun raw => ofChars? raw.toList

end SessionId

end WikiAccess
