import WikiAccess.Name

/-!
# Pages and their revision numbers

A stored revision of a page carries a positive ordinal.  A reference to a page
may instead carry the sentinel `PageVersion.latest`, which stands for whichever
revision is newest when it is looked at and equals no stored one.
-/

namespace WikiAccess

/-- The number of a revision, or the sentinel. -/
@[ext]
structure PageVersion where
  ordinal : Int
  deriving DecidableEq, Repr

namespace PageVersion

/-- The sentinel for whichever revision is newest. -/
def latest : PageVersion := ⟨-1⟩

def isLatest (version : PageVersion) : Bool := version == latest

@[simp]
theorem isLatest_eq_true_iff {version : PageVersion} :
    version.isLatest = true ↔ version = latest := by
  simp [isLatest]

theorem natCast_ne_latest (count : Nat) : (⟨count⟩ : PageVersion) ≠ latest := by
  intro h
  have hordinal : (count : Int) = -1 := congrArg PageVersion.ordinal h
  omega

/-- The ordinal in decimal, or the word for the sentinel. -/
def display (version : PageVersion) : String :=
  if version.isLatest then "latest" else toString version.ordinal

/-- Versions in ascending order of their ordinals, the sentinel among them,
repetitions kept. -/
def sort (versions : List PageVersion) : List PageVersion :=
  versions.mergeSort fun a b => decide (a.ordinal ≤ b.ordinal)

end PageVersion

/-- A page, or a reference to one revision of it.  The time of its last modification comes
from a clock and decides nothing, so it is left to `DatedPage`, which is exchanged in JSON. -/
@[ext]
structure Page where
  name : PageName
  version : PageVersion
  author : Option String
  deriving DecidableEq, Repr

namespace Page

/-- A reference by no particular author to the given revision. -/
def reference (name : PageName) (version : PageVersion) : Page := ⟨name, version, none⟩

end Page
end WikiAccess
