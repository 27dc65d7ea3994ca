import WikiAccess.Json.Permission
import WikiAccess.Json.Session
import WikiAccess.Proofs.Json.Record
import WikiAccess.Proofs.Session.Forms

/-!
# Exchanging permissions and sessions

A permission or a session is written in one way and read in several.  `Permission.WrittenAs`
and `Session.WrittenAs` say what is read as a given value, field by field, and the readers
accept exactly that.  So writing and reading gives the value back, and whatever form a value
comes in, writing it anew and reading that gives the same value.
-/

namespace WikiAccess

/-! ## What a field admits -/

namespace FieldForm

/-- A text. -/
def text (name value : String) : FieldForm := ⟨name, (· = some (.str value))⟩

/-- A text that may be missing or null. -/
def optionalText (name : String) (value? : Option String) : FieldForm :=
  ⟨name, fun json? => json? = value?.map .str ∨ value? = none ∧ json? = some .null⟩

/-- A constant of a tagged record: its name, or an object with nothing under that name. -/
def constant (name value : String) : FieldForm :=
  ⟨name, (· ∈ [some (.str value), some (.obj [(value, .null)]), some (.obj [(value, .obj [])])])⟩

/-- A list of texts. -/
def texts (name : String) (values : List String) : FieldForm :=
  ⟨name, (· = some (.arr (values.map .str)))⟩

/-- A session identifier in one of its forms, whatever the case of its letters. -/
def sessionId (name : String) (id : SessionId) : FieldForm :=
  ⟨name, fun json? =>
    ∃ raw, json? = some (.str raw) ∧ raw.toList.map Char.toLower ∈ id.forms⟩

end FieldForm

namespace Permission

def fieldForms : Permission → List FieldForm
  | .wiki application action =>
    [.text "application" application.text, .constant "action" action.name]
  | .group name action => [.text "group" name.text, .constant "action" action.name]
  | .all application => [.text "application" application.text]
  | .page application name action =>
    [.text "application" application.text, .text "page" name.text, .text "action" action.text]

/-- The written forms of a permission: a record whose first field is the tag. -/
def WrittenAs (permission : Permission) (json : Json) : Prop :=
  json.WritesRecord (.text "type" permission.tag :: permission.fieldForms)

end Permission

namespace Session

def fieldForms (session : Session) : List FieldForm :=
  [.sessionId "id" session.id, .optionalText "user" session.user,
    .texts "roles" (session.roles.map Role.text)]

/-- The written forms of a session. -/
def WrittenAs (session : Session) (json : Json) : Prop :=
  json.WritesRecord session.fieldForms

end Session

/-! ## Reading a field -/

namespace Json

theorem str?_eq_some_iff {json : Json} {value : String} :
    json.str? = some value ↔ json = .str value := by
  cases json <;> simp [str?]

theorem constant?_eq_some_iff {json : Json} {value : String} :
    json.constant? = some value ↔ json = .str value ∨ json = .obj [(value, .null)] := by
  unfold constant?
  split <;> grind

theorem taggedConstant?_eq_some_iff (name : String) {json : Json} {value : String} :
    json.taggedConstant? = some value ↔ (FieldForm.constant name value).admits (some json) := by
  simp only [FieldForm.constant, List.mem_cons, List.not_mem_nil, or_false, Option.some_inj]
  unfold taggedConstant?
  split
  · simp [eq_comm]
  · next h =>
    have hempty : json ≠ .obj [(value, .obj [])] := h value
    simp [constant?_eq_some_iff, hempty]

theorem exists_of_constant {name value : String} {json? : Option Json}
    (h : (FieldForm.constant name value).admits json?) : ∃ json, json? = some json := by
  cases json? with
  | none => simp [FieldForm.constant] at h
  | some json => exact ⟨json, rfl⟩

theorem optionalStr?_eq_some_iff (name : String) {json? : Option Json} {value? : Option String} :
    optionalStr? json? = some value? ↔ (FieldForm.optionalText name value?).admits json? := by
  unfold optionalStr?
  cases value? <;> split <;> simp_all [FieldForm.optionalText, eq_comm]

end Json

theorem Name.ofJson?_eq_some_iff {kind : NameKind} (field : String) {json : Json}
    {name : Name kind} :
    Name.ofJson? json = some name ↔ (FieldForm.text field name.text).admits (some json) := by
  simp [Name.ofJson?, Json.str?_eq_some_iff, FieldForm.text, Name.ext_iff]

theorem PageAction.ofJson?_eq_some_iff (field : String) {json : Json} {action : PageAction} :
    PageAction.ofJson? json = some action ↔
      (FieldForm.text field action.text).admits (some json) := by
  simp [PageAction.ofJson?, Json.str?_eq_some_iff, FieldForm.text, PageAction.ext_iff]

theorem WikiAction.ofField?_eq_some_iff (field : String) {json : Json} {action : WikiAction} :
    ofField? json = some action ↔ (FieldForm.constant field action.name).admits (some json) := by
  simp only [ofField?, Option.bind_eq_some_iff, ofName?_eq_some_iff, exists_eq_right,
    Json.taggedConstant?_eq_some_iff field]

theorem GroupAction.ofField?_eq_some_iff (field : String) {json : Json} {action : GroupAction} :
    ofField? json = some action ↔ (FieldForm.constant field action.name).admits (some json) := by
  simp only [ofField?, Option.bind_eq_some_iff, ofName?_eq_some_iff, exists_eq_right,
    Json.taggedConstant?_eq_some_iff field]

theorem SessionId.ofJson?_eq_some_iff (field : String) {json : Json} {id : SessionId} :
    ofJson? json = some id ↔ (FieldForm.sessionId field id).admits (some json) := by
  simp only [ofJson?, Option.bind_eq_some_iff, Json.str?_eq_some_iff, ofChars?_eq_some_iff,
    FieldForm.sessionId, Option.some_inj]

theorem Role.ofJson?_eq_some_iff {json : Json} {role : Role} :
    Role.ofJson? json = some role ↔ json = .str role.text := by
  simp [Role.ofJson?, Json.str?_eq_some_iff, Role.ext_iff]

theorem Role.mapM_ofJson?_eq_some_iff {items : List Json} {roles : List Role} :
    items.mapM Role.ofJson? = some roles ↔ items = (roles.map Role.text).map .str := by
  rw [mapM_eq_some_iff_map_eq fun _ _ => Role.ofJson?_eq_some_iff, List.map_id', List.map_map]
  rfl

/-! ## Reading a record -/

theorem Session.ofJson?_eq_some_iff {json : Json} {session : Session}
    (h : json.HasDistinctKeys) : ofJson? json = some session ↔ session.WrittenAs json := by
  rw [WrittenAs, Json.writesRecord_iff_fields? h, ofJson?, Option.bind_eq_bind,
    Option.bind_eq_some_iff]
  refine exists_congr fun values => and_congr_right fun _ => ?_
  constructor
  · intro hread
    split at hread
    · next id user roles =>
      simp only [Option.bind_eq_bind, Option.bind_eq_some_iff, Option.pure_def,
        Option.some_inj] at hread
      obtain ⟨id', hid, user', huser, roles', hroles, rfl⟩ := hread
      refine .cons ((SessionId.ofJson?_eq_some_iff _).mp hid)
        (.cons ((Json.optionalStr?_eq_some_iff _).mp huser) (.cons ?_ .nil))
      exact congrArg (fun items => some (Json.arr items))
        (Role.mapM_ofJson?_eq_some_iff.mp hroles)
    · cases hread
  · rintro (_ | ⟨⟨raw, rfl, hraw⟩, _ | ⟨huser, _ | ⟨hroles, _ | _⟩⟩⟩)
    cases hroles
    have hid : SessionId.ofJson? (.str raw) = some session.id :=
      (SessionId.ofJson?_eq_some_iff "id").mpr ⟨raw, rfl, hraw⟩
    simp only [hid, (Json.optionalStr?_eq_some_iff _).mpr huser,
      Role.mapM_ofJson?_eq_some_iff.mpr rfl]
    rfl

namespace Permission

/-- What is read as the fields of a constructor writes them, one case per constructor. -/
theorem writesRecord_of_ofFields? {type : String} {json : Json} {permission : Permission}
    (h : json.HasDistinctKeys) (hread : ofFields? type json = some permission) :
    type = permission.tag ∧ json.WritesRecord permission.fieldForms := by
  rw [Json.writesRecord_iff_fields? h]
  unfold ofFields? at hread
  split at hread
  · obtain ⟨values, hvalues, hread⟩ := Option.bind_eq_some_iff.mp hread
    split at hread
    · obtain ⟨application, happlication, hread⟩ := Option.bind_eq_some_iff.mp hread
      obtain ⟨action, haction, hpermission⟩ := Option.bind_eq_some_iff.mp hread
      cases hpermission
      exact ⟨rfl, _, hvalues, .cons ((Name.ofJson?_eq_some_iff _).mp happlication)
        (.cons ((WikiAction.ofField?_eq_some_iff _).mp haction) .nil)⟩
    · cases hread
  · obtain ⟨values, hvalues, hread⟩ := Option.bind_eq_some_iff.mp hread
    split at hread
    · obtain ⟨name, hname, hread⟩ := Option.bind_eq_some_iff.mp hread
      obtain ⟨action, haction, hpermission⟩ := Option.bind_eq_some_iff.mp hread
      cases hpermission
      exact ⟨rfl, _, hvalues, .cons ((Name.ofJson?_eq_some_iff _).mp hname)
        (.cons ((GroupAction.ofField?_eq_some_iff _).mp haction) .nil)⟩
    · cases hread
  · obtain ⟨values, hvalues, hread⟩ := Option.bind_eq_some_iff.mp hread
    split at hread
    · obtain ⟨application, happlication, hpermission⟩ := Option.bind_eq_some_iff.mp hread
      cases hpermission
      exact ⟨rfl, _, hvalues, .cons ((Name.ofJson?_eq_some_iff _).mp happlication) .nil⟩
    · cases hread
  · obtain ⟨values, hvalues, hread⟩ := Option.bind_eq_some_iff.mp hread
    split at hread
    · obtain ⟨application, happlication, hread⟩ := Option.bind_eq_some_iff.mp hread
      obtain ⟨name, hname, hread⟩ := Option.bind_eq_some_iff.mp hread
      obtain ⟨action, haction, hpermission⟩ := Option.bind_eq_some_iff.mp hread
      cases hpermission
      exact ⟨rfl, _, hvalues, .cons ((Name.ofJson?_eq_some_iff _).mp happlication)
        (.cons ((Name.ofJson?_eq_some_iff _).mp hname)
          (.cons ((PageAction.ofJson?_eq_some_iff _).mp haction) .nil))⟩
    · cases hread
  · cases hread

theorem ofFields?_of_writesRecord {json : Json} {permission : Permission}
    (h : json.HasDistinctKeys) (hwrites : json.WritesRecord permission.fieldForms) :
    ofFields? permission.tag json = some permission := by
  obtain ⟨values, hvalues, hforms⟩ := (Json.writesRecord_iff_fields? h).mp hwrites
  cases permission with
  | wiki application action =>
    obtain _ | ⟨happlication, _ | ⟨haction, _ | _⟩⟩ := hforms
    obtain ⟨written, rfl⟩ := Json.exists_of_constant haction
    cases happlication
    change json.fields? ["application", "action"] = _ at hvalues
    simp only [ofFields?, tag, hvalues, Option.bind_eq_bind, Option.bind_some,
      (WikiAction.ofField?_eq_some_iff _).mpr haction]
    rfl
  | group name action =>
    obtain _ | ⟨hname, _ | ⟨haction, _ | _⟩⟩ := hforms
    obtain ⟨written, rfl⟩ := Json.exists_of_constant haction
    cases hname
    change json.fields? ["group", "action"] = _ at hvalues
    simp only [ofFields?, tag, hvalues, Option.bind_eq_bind, Option.bind_some,
      (GroupAction.ofField?_eq_some_iff _).mpr haction]
    rfl
  | all application =>
    obtain _ | ⟨happlication, _ | _⟩ := hforms
    cases happlication
    change json.fields? ["application"] = _ at hvalues
    simp only [ofFields?, tag, hvalues]
    rfl
  | page application name action =>
    obtain _ | ⟨happlication, _ | ⟨hname, _ | ⟨haction, _ | _⟩⟩⟩ := hforms
    cases happlication
    cases hname
    cases haction
    change json.fields? ["application", "page", "action"] = _ at hvalues
    simp only [ofFields?, tag, hvalues]
    rfl

theorem ofFields?_eq_some_iff {type : String} {json : Json} {permission : Permission}
    (h : json.HasDistinctKeys) :
    ofFields? type json = some permission ↔
      type = permission.tag ∧ json.WritesRecord permission.fieldForms := by
  constructor
  · exact writesRecord_of_ofFields? h
  · rintro ⟨rfl, hwrites⟩
    exact ofFields?_of_writesRecord h hwrites

theorem ofJson?_eq_some_iff {json : Json} {permission : Permission}
    (h : json.HasDistinctKeys) : ofJson? json = some permission ↔ permission.WrittenAs json := by
  cases json with
  | obj members =>
    rw [WrittenAs, Json.writesRecord_cons_obj_iff h]
    simp only [ofJson?, Option.bind_eq_bind, Option.bind_eq_some_iff, Json.str?_eq_some_iff,
      ofFields?_eq_some_iff h]
    constructor
    · rintro ⟨_, hlookup, _, rfl, rfl, hwrites⟩
      exact ⟨hlookup, hwrites⟩
    · rintro ⟨hlookup, hwrites⟩
      exact ⟨_, hlookup, permission.tag, rfl, rfl, hwrites⟩
  | arr items =>
    cases items with
    | nil => exact iff_of_false nofun (mt Json.writesRecord_arr_iff.mp nofun)
    | cons type fields =>
      rw [WrittenAs, Json.writesRecord_cons_arr_iff]
      simp only [ofJson?, Option.bind_eq_bind, Option.bind_eq_some_iff, Json.str?_eq_some_iff,
        ofFields?_eq_some_iff (show (Json.arr fields).HasDistinctKeys from trivial)]
      constructor
      · rintro ⟨_, rfl, rfl, hwrites⟩
        exact ⟨rfl, hwrites⟩
      · rintro ⟨htype, hwrites⟩
        exact ⟨permission.tag, Option.some.inj htype, rfl, hwrites⟩
  | _ => exact iff_of_false nofun nofun

end Permission

/-! ## Writing a record -/

theorem FieldForm.sessionId_display (name : String) (id : SessionId) :
    (sessionId name id).admits (some (.str id.display)) := by
  refine ⟨id.display, rfl, ?_⟩
  rw [id.map_toLower_display]
  exact List.mem_cons_of_mem _ List.mem_cons_self

theorem FieldForm.optionalText_ofOption (name : String) (value? : Option String) :
    (optionalText name value?).admits (some (.ofOption value?)) := by
  cases value? with
  | none => exact .inr ⟨rfl, rfl⟩
  | some value => exact .inl rfl

theorem Permission.hasDistinctKeys_toJson (permission : Permission) :
    permission.toJson.HasDistinctKeys := by
  cases permission <;> simp [toJson, Json.HasDistinctKeys]

theorem Session.hasDistinctKeys_toJson (session : Session) :
    session.toJson.HasDistinctKeys := by
  simp [toJson, Json.HasDistinctKeys]

theorem Permission.writtenAs_toJson (permission : Permission) :
    permission.WrittenAs permission.toJson := by
  have hkeys := permission.hasDistinctKeys_toJson
  cases permission <;>
    exact (Json.writesRecord_obj_iff hkeys).mpr (by
      simp [fieldForms, tag, FieldForm.text, FieldForm.constant, List.lookup_cons, Name.toJson,
        WikiAction.toJson, GroupAction.toJson, PageAction.toJson])

theorem Session.writtenAs_toJson (session : Session) : session.WrittenAs session.toJson := by
  refine (Json.writesRecord_obj_iff session.hasDistinctKeys_toJson).mpr ?_
  simp only [fieldForms, List.forall_mem_cons]
  refine ⟨FieldForm.sessionId_display "id" session.id,
    FieldForm.optionalText_ofOption "user" session.user, ?_, nofun⟩
  exact congrArg (fun items => some (Json.arr items)) (List.map_map.symm)

/-! ## Exchanging values -/

/-- Values that are exchanged as JSON are written in one form and read in several. -/
structure Json.Exchanges {α : Type} (write : α → Json) (read : Json → Option α)
    (form : α → Json → Prop) : Prop where
  read_write : ∀ value, read (write value) = some value
  write_injective : Function.Injective write
  /-- A value is read from its written forms and from nothing else. -/
  read_eq_some_iff : ∀ json, json.HasDistinctKeys →
    ∀ value, read json = some value ↔ form value json
  /-- Writing anew what was read gives the canonical form of the same value. -/
  read_canonical : ∀ json, ((read json).map write).bind read = read json

theorem Json.Exchanges.of_forms {α : Type} {write : α → Json} {read : Json → Option α}
    {form : α → Json → Prop}
    (hread : ∀ json, json.HasDistinctKeys → ∀ value, read json = some value ↔ form value json)
    (hkeys : ∀ value, (write value).HasDistinctKeys) (hwrite : ∀ value, form value (write value)) :
    Exchanges write read form := by
  have hround : ∀ value, read (write value) = some value :=
    fun value => (hread _ (hkeys value) value).mpr (hwrite value)
  refine ⟨hround, ?_, hread, ?_⟩
  · intro value other h
    rw [← Option.some_inj, ← hround, h, hround]
  · intro json
    cases read json with
    | none => rfl
    | some value => exact hround value

/-- Permissions and sessions come back from JSON as they were written, and every accepted
form of one is as good as the canonical form. -/
theorem permissions_and_sessions_exchanged :
    Json.Exchanges Permission.toJson Permission.ofJson? Permission.WrittenAs ∧
      Json.Exchanges Session.toJson Session.ofJson? Session.WrittenAs :=
  ⟨.of_forms (fun _ h _ => Permission.ofJson?_eq_some_iff h) Permission.hasDistinctKeys_toJson
      Permission.writtenAs_toJson,
    .of_forms (fun _ h _ => Session.ofJson?_eq_some_iff h) Session.hasDistinctKeys_toJson
      Session.writtenAs_toJson⟩

/-- The members in another order, one more member, no user, and the identifier after the
scheme. -/
example :
    Session.ofJson? (.obj [("roles", .arr [.str "Editors"]), ("seen", .int 3),
        ("id", .str "URN:UUID:00000000-0000-0000-0000-000000000000")]) =
      some ⟨.nil, none, [⟨"Editors"⟩]⟩ := by
  decide

end WikiAccess
