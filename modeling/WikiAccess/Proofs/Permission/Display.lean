import WikiAccess.Permission.Basic
import WikiAccess.Proofs.Text.Append

/-!
# What the text of a permission tells

The text of a permission joins its kind and its fields by colons, and a name may contain
colons of its own.  The kind stands before the first colon.  The action on the wiki or on a
group stands after the last one, since no such action contains a colon, so that the name
between them is known as well.  Only two permissions on pages can have the same text, when
they cut the same letters into an application, a page and an action at different colons.
-/

namespace WikiAccess

theorem WikiAction.colon_not_mem_name (action : WikiAction) : ':' ∉ action.name.toList := by
  cases action <;> decide

theorem WikiAction.name_inj {action other : WikiAction} (h : action.name = other.name) :
    action = other := by
  rw [← Option.some_inj, ← ofName?_name, h, ofName?_name]

theorem GroupAction.colon_not_mem_name (action : GroupAction) : ':' ∉ action.name.toList := by
  cases action <;> decide

theorem GroupAction.name_inj {action other : GroupAction} (h : action.name = other.name) :
    action = other := by
  rw [← Option.some_inj, ← ofName?_name, h, ofName?_name]

namespace Permission

/-- The fields of a permission, joined by colons. -/
def fields : Permission → String
  | .wiki application action => application.text ++ ":" ++ action.name
  | .group name action => name.text ++ ":" ++ action.name
  | .all application => application.text
  | .page application name action => application.text ++ ":" ++ name.text ++ ":" ++ action.text

theorem display_eq (permission : Permission) :
    permission.display = permission.tag ++ ":" ++ permission.fields := by
  rw [← String.toList_inj]
  cases permission <;> simp [display, tag, fields]

theorem colon_not_mem_tag (permission : Permission) : ':' ∉ permission.tag.toList := by
  cases permission <;> simp [tag]

/-- Two permissions with the same text are of the same kind and have the same fields in a
row. -/
theorem display_eq_display_iff {permission other : Permission} :
    permission.display = other.display ↔
      permission.tag = other.tag ∧ permission.fields = other.fields := by
  rw [display_eq, display_eq]
  constructor
  · exact Text.eq_of_first_colon permission.colon_not_mem_tag other.colon_not_mem_tag
  · rintro ⟨htag, hfields⟩
    rw [htag, hfields]

/-- Apart from permissions on pages, the kind and the fields in a row make a permission. -/
theorem eq_of_fields {permission other : Permission} (htag : permission.tag = other.tag)
    (hfields : permission.fields = other.fields) (hpage : permission.tag ≠ "page") :
    permission = other := by
  cases permission with
  | wiki application action =>
    cases other with
    | wiki otherApplication otherAction =>
      obtain ⟨htext, hname⟩ := Text.eq_of_last_colon action.colon_not_mem_name
        otherAction.colon_not_mem_name hfields
      rw [Name.ext htext, WikiAction.name_inj hname]
    | _ => simp [tag] at htag
  | group name action =>
    cases other with
    | group otherName otherAction =>
      obtain ⟨htext, hname⟩ := Text.eq_of_last_colon action.colon_not_mem_name
        otherAction.colon_not_mem_name hfields
      rw [Name.ext htext, GroupAction.name_inj hname]
    | _ => simp [tag] at htag
  | all application =>
    cases other with
    | all otherApplication => exact congrArg all (Name.ext hfields)
    | _ => simp [tag] at htag
  | page => exact absurd rfl hpage

/-- The text of a permission identifies it, up to one ambiguity.  Two permissions with the
same text are the same, or they are both on pages and their application, page and action
read the same with colons in between.  So permissions of different kinds never have the
same text, and a permission that is not on a page is known from its text, whatever its
names contain. -/
theorem display_identifies :
    (∀ permission other : Permission, permission.display = other.display ↔
      permission = other ∨
        ∃ application name action otherApplication otherName otherAction,
          permission = .page application name action ∧
          other = .page otherApplication otherName otherAction ∧
          application.text ++ ":" ++ name.text ++ ":" ++ action.text =
            otherApplication.text ++ ":" ++ otherName.text ++ ":" ++ otherAction.text) ∧
    (∀ permission other : Permission, permission.display = other.display →
      permission.tag = other.tag) ∧
    (∀ permission other : Permission, permission.tag ≠ "page" →
      permission.display = other.display → permission = other) := by
  have hrecovered (permission other : Permission) (hpage : permission.tag ≠ "page")
      (h : permission.display = other.display) : permission = other := by
    obtain ⟨htag, hfields⟩ := display_eq_display_iff.mp h
    exact eq_of_fields htag hfields hpage
  refine ⟨fun permission other => ⟨fun h => ?_, ?_⟩,
    fun permission other h => (display_eq_display_iff.mp h).1, hrecovered⟩
  · cases permission with
    | page application name action =>
      obtain ⟨htag, hfields⟩ := display_eq_display_iff.mp h
      cases other with
      | page otherApplication otherName otherAction =>
        exact .inr ⟨application, name, action, otherApplication, otherName, otherAction,
          rfl, rfl, hfields⟩
      | _ => simp [tag] at htag
    | _ => exact .inl (hrecovered _ _ (by simp [tag]) h)
  · rintro (rfl | ⟨_, _, _, _, _, _, rfl, rfl, hfields⟩)
    · rfl
    · exact display_eq_display_iff.mpr ⟨rfl, hfields⟩

/-- A colon in a name moves the cut between the application and the page. -/
example : (page ⟨"Wiki:Main"⟩ ⟨"Page"⟩ .edit).display =
    (page ⟨"Wiki"⟩ ⟨"Main:Page"⟩ .edit).display := by decide

end Permission
end WikiAccess
