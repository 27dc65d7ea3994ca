import WikiAccess.Json.Name
import WikiAccess.Page
import WikiAccess.Timestamp

/-!
# Pages in JSON

A version is an integer of sixty-four bits.  A page is exchanged together with
the time of its last modification, which is a string; the author may be missing
or null.
-/

namespace WikiAccess

namespace PageVersion

def toJson (version : PageVersion) : Json := .int version.ordinal

/-- The ordinals that can be exchanged: those of sixty-four bits with a sign. -/
def isExchangeable (ordinal : Int) : Bool :=
  -9223372036854775808 ≤ ordinal && ordinal ≤ 9223372036854775807

def ofJson? : Json → Option PageVersion
  | .int ordinal => if isExchangeable ordinal then some ⟨ordinal⟩ else none
  | _ => none

end PageVersion

namespace Page

def toJson (page : Page) : Json :=
  .obj [("name", page.name.toJson), ("version", page.version.toJson),
    ("author", .ofOption page.author)]

end Page

/-- A page and the time of its last modification. -/
structure DatedPage where
  page : Page
  lastModified : Timestamp
  deriving DecidableEq, Repr

namespace DatedPage

def toJson (dated : DatedPage) : Json :=
  .obj [("name", dated.page.name.toJson), ("version", dated.page.version.toJson),
    ("author", .ofOption dated.page.author),
    ("last_modified", .str dated.lastModified.display)]

def ofJson? (json : Json) : Option DatedPage := do
  let [some name, some version, author, some (.str lastModified)] ←
    json.fields? ["name", "version", "author", "last_modified"] | none
  let page : Page :=
    ⟨← Name.ofJson? name, ← PageVersion.ofJson? version, ← Json.optionalStr? author⟩
  return ⟨page, ← Timestamp.parse? lastModified⟩

end DatedPage
end WikiAccess
