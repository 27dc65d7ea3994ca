import WikiAccess.Log.Pattern.Escape

/-!
# Sets of characters

A set stands in brackets.  It holds characters, ranges in ascending order, classes
and further sets, and the operators `&&`, `--` and `~~` combine what stands at
their sides.  Reading a set yields its nesting: how deep sets, unions and
operators lie in each other.
-/

namespace WikiAccess
namespace Log
namespace Pattern

/-- The nesting of parts that stand together.  A single part adds none. -/
def nestingOf : List Nat → Nat
  | [] => 0
  | [nesting] => nesting
  | nestings => nestings.foldl Nat.max 0 + 1

namespace CharSet

/-! ## Members -/

/-- The names of classes that are written `[:name:]` within a set. -/
def classNames : List String :=
  ["alnum", "alpha", "ascii", "blank", "cntrl", "digit", "graph", "lower", "print", "punct",
   "space", "upper", "word", "xdigit"]

/-- A class by name after the opening bracket: whether a caret negates it, and what
follows it. -/
def namedClass? : List Char → Option (Bool × List Char)
  | ':' :: cs =>
    let (negated, cs) := match cs with
      | '^' :: rest => (true, rest)
      | _ => (false, cs)
    match cs.dropWhile (· != ':') with
    | ':' :: ']' :: rest =>
      if classNames.contains (String.ofList (cs.takeWhile (· != ':'))) then some (negated, rest)
      else none
    | _ => none
  | _ => none

/-- Whether a class by name is supported. -/
def supportsClass (mode : Mode) (negated : Bool) : Bool :=
  if mode.unicode then !mode.caseless else !negated || mode.supportsNegation

/-- What an end of a range may be: a character, or a class, which is no end. -/
inductive Member where
  | literal (literal : Literal)
  | shorthand
  deriving DecidableEq, Repr

/-- A supported member of a set, and what follows it. -/
def member? (mode : Mode) : List Char → Option (Member × List Char)
  | [] => none
  | '\\' :: cs => do
    match ← escape? mode cs with
    | (.literal literal, rest) =>
      if mode.supportsMember literal then some (.literal literal, rest) else none
    | (.shorthand negated, rest) =>
      if mode.supportsShorthand negated then some (.shorthand, rest) else none
    | _ => none
  | c :: rest =>
    if mode.supportsMember ⟨c, false⟩ then some (.literal ⟨c, false⟩, rest) else none

/-- What follows a member or a range.  A hyphen makes a range, unless a closing
bracket or another hyphen comes next. -/
def range? (mode : Mode) (cs : List Char) : Option (List Char) := do
  let (low, rest) ← member? mode cs
  match mode.skip rest with
  | [] => none
  | '-' :: rest =>
    if mode.peek? rest == some ']' || mode.peek? rest == some '-' then some ('-' :: rest)
    else
      match low, ← member? mode (mode.skip rest) with
      | .literal low, (.literal high, rest) => if low.value ≤ high.value then some rest else none
      | _, _ => none
  | rest => some rest

/-! ## Sets -/

/-- A caret at the front of a set negates it. -/
def caret (mode : Mode) (cs : List Char) : Bool × List Char :=
  match mode.skip cs with
  | '^' :: rest => (true, rest)
  | rest => (false, rest)

/-- The nesting of an operator, whose left side may be missing. -/
def joined (left : Option Nat) (right : Nat) : Nat :=
  match left with
  | none => right
  | some left => Nat.max left right + 1

/-- The operator at the front of a text, if any, and what follows it. -/
def operator? : List Char → Option (List Char)
  | '&' :: '&' :: rest => some rest
  | '-' :: '-' :: rest => some rest
  | '~' :: '~' :: rest => some rest
  | _ => none

/-- The nesting of the content of a set, and what follows the closing bracket.  The
content read so far is `left`, up to the last operator, and `items` after it.
While `opening`, a hyphen stands for itself, and so does a closing bracket that is
the first of all.  The fuel is the length of the text. -/
def content? (mode : Mode) : Nat → Bool → Option Nat → List Nat → List Char →
    Option (Nat × List Char)
  | 0, _, _, _, _ => none
  | fuel + 1, opening, left, items, cs =>
    match mode.skip cs with
    | [] => none
    | first :: rest =>
      if opening && (first == '-' || first == ']' && items.isEmpty) then
        if mode.supportsMember ⟨first, false⟩ then
          content? mode fuel (first == '-') left (0 :: items) rest
        else none
      else if first == ']' then some (joined left (nestingOf items), rest)
      else if first == '[' then
        match namedClass? rest with
        | some (negated, rest) =>
          if supportsClass mode negated then content? mode fuel false left (0 :: items) rest
          else none
        | none => do
          let (negated, inner) := caret mode rest
          if negated && !mode.supportsNegation then none
          let (nesting, rest) ← content? mode fuel true none [] inner
          content? mode fuel false left ((nesting + 1) :: items) rest
      else
        match operator? (first :: rest) with
        | some rest => content? mode fuel false (some (joined left (nestingOf items))) [] rest
        | none => do
          content? mode fuel false left (0 :: items) (← range? mode (first :: rest))

/-- The nesting of a set, and what follows it, from after its opening bracket. -/
def read? (mode : Mode) (cs : List Char) : Option (Nat × List Char) := do
  let (negated, inner) := caret mode cs
  if negated && !mode.supportsNegation then none
  let (nesting, rest) ← content? mode (inner.length + 1) true none [] inner
  return (nesting + 1, rest)

end CharSet
end Pattern
end Log
end WikiAccess
