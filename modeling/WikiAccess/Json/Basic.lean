/-!
# JSON values

The values that permissions, sessions and pages are exchanged as.  A number is
either an integer or one written with a fraction or an exponent; the second kind
stands for no value of this library, whatever number it denotes.
-/

namespace WikiAccess

inductive Json where
  | null
  | bool (value : Bool)
  | int (value : Int)
  /-- A number written with a fraction or an exponent, or the negative zero. -/
  | decimal (written : String)
  | str (value : String)
  | arr (items : List Json)
  /-- The members of an object, whose keys all differ. -/
  | obj (members : List (String × Json))
  deriving Repr

namespace Json

def str? : Json → Option String
  | .str value => some value
  | _ => none

/-- The fields of a record that is written as an object, where other members are
ignored and a field may be missing, or as an array of exactly the fields. -/
def fields? (names : List String) : Json → Option (List (Option Json))
  | .obj members => some (names.map fun name => members.lookup name)
  | .arr items => if items.length = names.length then some (items.map some) else none
  | _ => none

/-- A text that may be missing or null. -/
def optionalStr? : Option Json → Option (Option String)
  | none => some none
  | some .null => some none
  | some (.str value) => some (some value)
  | some _ => none

/-- The name of a constant, written as a string or as an object whose only member
has that key and the value null. -/
def constant? : Json → Option String
  | .str name => some name
  | .obj [(name, .null)] => some name
  | _ => none

/-- The name of a constant that is a field of a tagged value.  There the member may
also be the empty object, which holds as little as null does. -/
def taggedConstant? : Json → Option String
  | .obj [(name, .obj [])] => some name
  | json => json.constant?

def ofOption (value : Option String) : Json :=
  match value with
  | some text => .str text
  | none => .null

end Json
end WikiAccess
