import WikiAccess.HexDigit

/-!
# Session identifiers

A session is identified by 128 bits, kept here as thirty-two hexadecimal digits
because every written form is a way of spacing those digits.  The usual form
groups them `8-4-4-4-12`.  `SessionId.display` writes that form in lower case,
and `SessionId.parse?` reads four forms in either case: the bare digits, the
grouped form, the grouped form in braces, and the grouped form after the URN
scheme.
-/

namespace WikiAccess

structure SessionId where
  digits : List HexDigit
  length_digits : digits.length = 32
  deriving DecidableEq, Repr

/-- The one fault of a written identifier: it has none of the accepted forms. -/
inductive SessionIdError where
  | malformed
  deriving DecidableEq, Repr

/-- What an error says about an identifier, up to the part that describes the
fault. -/
def SessionIdError.message : SessionIdError → String
  | .malformed => "invalid identifier: SessionId: "

namespace SessionId

def nil : SessionId := ⟨List.replicate 32 .zero, rfl⟩

def groupLengths : List Nat := [8, 4, 4, 4, 12]

/-- Cut a list into pieces of the given lengths, in order. -/
def pieces {α : Type} : List Nat → List α → List (List α)
  | [], _ => []
  | n :: ns, xs => xs.take n :: pieces ns (xs.drop n)

/-- The grouped form, in lower case. -/
def display (id : SessionId) : String :=
  String.ofList (['-'].intercalate (pieces groupLengths (id.digits.map HexDigit.char)))

/-- Thirty-two digits and nothing else. -/
def ofBare? (cs : List Char) : Option SessionId := do
  let digits ← cs.mapM HexDigit.ofChar?
  if h : digits.length = 32 then some ⟨digits, h⟩ else none

/-- Five groups of the right lengths with a hyphen between neighbours. -/
def ofGrouped? (cs : List Char) : Option SessionId :=
  let groups := cs.splitOn '-'
  if groups.map List.length = groupLengths then ofBare? groups.flatten else none

/-- The scheme that may stand before the grouped form, in any letter case. -/
def scheme : List Char := "urn:uuid:".toList

/-- An identifier in any of its four written forms. -/
def ofChars? (cs : List Char) : Option SessionId :=
  if cs.head? = some '\x7b' ∧ cs.getLast? = some '\x7d' then
    ofGrouped? cs.tail.dropLast
  else if (cs.take scheme.length).map Char.toLower = scheme then
    ofGrouped? (cs.drop scheme.length)
  else
    (ofBare? cs).or (ofGrouped? cs)

def parse (raw : String) : Except SessionIdError SessionId :=
  match ofChars? raw.toList with
  | some id => .ok id
  | none => .error .malformed

end SessionId
end WikiAccess
