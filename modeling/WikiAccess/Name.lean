import WikiAccess.Text

/-!
# Names of pages, groups and applications

The three kinds of name share one shape, a text compared exactly, and differ in
the word an error uses for them.  A name is therefore a structure indexed by its
kind: a page name cannot stand where a group name is expected.

Trusted text becomes a name through the constructor.  `Name.parse` is the
entrance for untrusted text and refuses what is blank.
-/

namespace WikiAccess

/-- What a name is the name of. -/
inductive NameKind where
  | page
  | group
  | application
  deriving DecidableEq, Repr

/-- How an error speaks of a name of this kind. -/
def NameKind.label : NameKind → String
  | .page => "page name"
  | .group => "group name"
  | .application => "application name"

/-- A name: any text, taken verbatim and compared exactly. -/
@[ext]
structure Name (kind : NameKind) where
  text : String
  deriving DecidableEq, Repr

abbrev PageName := Name .page
abbrev GroupName := Name .group
abbrev ApplicationName := Name .application

/-- The one fault of an untrusted name: it is blank. -/
structure NameError where
  kind : NameKind
  deriving DecidableEq, Repr

def NameError.message (error : NameError) : String :=
  "invalid name: " ++ error.kind.label ++ " must not be empty"

namespace Name

/-- An untrusted name is kept verbatim, padding included, unless it is blank. -/
def parse (kind : NameKind) (raw : String) : Except NameError (Name kind) :=
  if Text.isBlankText raw then .error ⟨kind⟩ else .ok ⟨raw⟩

theorem parse_eq_ok_iff {kind : NameKind} {raw : String} {name : Name kind} :
    parse kind raw = .ok name ↔ Text.isBlankText raw = false ∧ name = ⟨raw⟩ := by
  cases h : Text.isBlankText raw with
  | false => simpa [parse, h] using eq_comm
  | true => simp [parse, h]

theorem parse_eq_error_iff {kind : NameKind} {raw : String} {error : NameError} :
    parse kind raw = .error error ↔ Text.isBlankText raw = true ∧ error = ⟨kind⟩ := by
  cases h : Text.isBlankText raw with
  | false => simp [parse, h]
  | true => simpa [parse, h] using eq_comm

/-- A name shows something when not every character of it is blank. -/
def Shows {kind : NameKind} (name : Name kind) : Prop :=
  ∃ c ∈ name.text.toList, Text.isBlank c = false

section Shows

variable {kind : NameKind} {name : Name kind}

theorem shows_iff : name.Shows ↔ Text.isBlankText name.text = false :=
  Text.isBlankText_eq_false_iff.symm

theorem not_shows_iff : ¬ name.Shows ↔ ∀ c ∈ name.text.toList, Text.isBlank c = true := by
  simp [Shows]

/-- The names that untrusted text makes are those that show something. -/
theorem parse_text_eq_ok_iff : parse kind name.text = .ok name ↔ name.Shows := by
  rw [parse_eq_ok_iff, shows_iff]
  exact and_iff_left rfl

theorem parse_text_eq_error_iff : parse kind name.text = .error ⟨kind⟩ ↔ ¬ name.Shows := by
  rw [parse_eq_error_iff, shows_iff, Bool.not_eq_false]
  exact and_iff_left rfl

end Shows

/-- The different names of a list, in ascending order of their code points. -/
def sortDistinct {kind : NameKind} (names : List (Name kind)) : List (Name kind) :=
  names.eraseDups.mergeSort fun a b => decide (a.text ≤ b.text)

end Name
end WikiAccess
