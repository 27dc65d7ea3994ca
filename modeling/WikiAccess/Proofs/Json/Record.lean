import Mathlib.Data.List.Forall2
import Mathlib.Data.List.Nodup
import WikiAccess.Json.Basic

/-!
# The written forms of a record

A record is written as an object or as an array.  In an object the members stand in any
order and other members may stand between them; in an array the fields alone stand, in
their order.  `Json.WritesRecord` says which JSON values write a record whose fields admit
given values, without any reading order.  `Json.writesRecord_iff_fields?` is what a reader
that goes through `Json.fields?` makes of it.
-/

namespace WikiAccess

/-- A field of a record, and what may be written for it.  A missing member is `none`. -/
structure FieldForm where
  name : String
  admits : Option Json → Prop

namespace Json

/-- The keys of an object all differ, as they do in every object that is read from a text. -/
def HasDistinctKeys : Json → Prop
  | .obj members => (members.map Prod.fst).Nodup
  | _ => True

/-- What stands under a key, wherever its member is. -/
def IsMember (members : List (String × Json)) (key : String) (value? : Option Json) : Prop :=
  ∀ value, value? = some value ↔ (key, value) ∈ members

/-- The JSON values that write a record with the given fields. -/
inductive WritesRecord (fields : List FieldForm) : Json → Prop
  | object {members : List (String × Json)} (hkeys : (Json.obj members).HasDistinctKeys)
      (h : ∀ field ∈ fields, ∃ value?, IsMember members field.name value? ∧ field.admits value?) :
      WritesRecord fields (.obj members)
  | array {items : List Json}
      (h : List.Forall₂ (fun field item => field.admits (some item)) fields items) :
      WritesRecord fields (.arr items)

/-! ## Looking a member up -/

theorem lookup_eq_some_iff_mem {members : List (String × Json)}
    (h : (members.map Prod.fst).Nodup) {key : String} {value : Json} :
    members.lookup key = some value ↔ (key, value) ∈ members := by
  induction members with
  | nil => simp
  | cons member members ih =>
    obtain ⟨hnot, hnodup⟩ := List.nodup_cons.mp h
    rw [List.lookup_cons, List.mem_cons, Prod.ext_iff]
    by_cases hkey : key = member.1
    · subst hkey
      have habsent : (member.1, value) ∉ members := fun hmem =>
        hnot (List.mem_map.mpr ⟨(member.1, value), hmem, rfl⟩)
      simp [habsent, eq_comm]
    · rw [beq_false_of_ne hkey, ih hnodup]
      simp [hkey]

theorem isMember_iff_lookup {members : List (String × Json)}
    (h : (Json.obj members).HasDistinctKeys) {key : String} {value? : Option Json} :
    IsMember members key value? ↔ members.lookup key = value? := by
  rw [Option.ext_iff]
  refine forall_congr' fun value => ?_
  rw [lookup_eq_some_iff_mem h]
  exact iff_comm

theorem writesRecord_obj_iff {fields : List FieldForm} {members : List (String × Json)}
    (h : (Json.obj members).HasDistinctKeys) :
    WritesRecord fields (.obj members) ↔
      ∀ field ∈ fields, field.admits (members.lookup field.name) := by
  have hlookup : ∀ field : FieldForm,
      (∃ value?, IsMember members field.name value? ∧ field.admits value?) ↔
        field.admits (members.lookup field.name) := by
    intro field
    simp only [isMember_iff_lookup h, exists_eq_left']
  constructor
  · rintro (⟨-, hfields⟩ | -)
    exact fun field hfield => (hlookup field).mp (hfields field hfield)
  · exact fun hfields => .object h fun field hfield => (hlookup field).mpr (hfields field hfield)

theorem writesRecord_arr_iff {fields : List FieldForm} {items : List Json} :
    WritesRecord fields (.arr items) ↔
      List.Forall₂ (fun field item => field.admits (some item)) fields items := by
  constructor
  · rintro (- | h)
    exact h
  · exact .array

/-! ## The first field apart -/

theorem writesRecord_cons_obj_iff {field : FieldForm} {fields : List FieldForm}
    {members : List (String × Json)} (h : (Json.obj members).HasDistinctKeys) :
    WritesRecord (field :: fields) (.obj members) ↔
      field.admits (members.lookup field.name) ∧ WritesRecord fields (.obj members) := by
  rw [writesRecord_obj_iff h, writesRecord_obj_iff h, List.forall_mem_cons]

theorem writesRecord_cons_arr_iff {field : FieldForm} {fields : List FieldForm} {item : Json}
    {items : List Json} :
    WritesRecord (field :: fields) (.arr (item :: items)) ↔
      field.admits (some item) ∧ WritesRecord fields (.arr items) := by
  rw [writesRecord_arr_iff, writesRecord_arr_iff, List.forall₂_cons]

/-! ## Reading the fields -/

theorem fields?_arr_eq_some_iff {names : List String} {items : List Json}
    {values : List (Option Json)} :
    (Json.arr items).fields? names = some values ↔
      items.length = names.length ∧ items.map some = values := by
  rw [fields?, Option.ite_none_right_eq_some, Option.some_inj]

/-- A record is written when its fields are found and each admits what stands there. -/
theorem writesRecord_iff_fields? {fields : List FieldForm} {json : Json}
    (h : json.HasDistinctKeys) :
    WritesRecord fields json ↔
      ∃ values, json.fields? (fields.map FieldForm.name) = some values ∧
        List.Forall₂ FieldForm.admits fields values := by
  cases json with
  | obj members =>
    simp only [writesRecord_obj_iff h, fields?, Option.some_inj, exists_eq_left', List.map_map,
      List.forall₂_map_right_iff, List.forall₂_same, Function.comp_apply]
  | arr items =>
    rw [writesRecord_arr_iff]
    simp only [fields?_arr_eq_some_iff, List.length_map, and_assoc, exists_and_left,
      exists_eq_left', List.forall₂_map_right_iff]
    exact (and_iff_right_of_imp fun hitems => hitems.length_eq.symm).symm
  | _ => exact iff_of_false nofun nofun

end Json
end WikiAccess
