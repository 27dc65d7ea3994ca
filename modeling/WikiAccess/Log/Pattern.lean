import WikiAccess.Log.Pattern.CharSet
import WikiAccess.Text.Alphanumeric

/-!
# Patterns

The value of a field is matched by a regular expression.  This module says which
texts are one; it does not match.

A pattern has groups, alternatives, the repetitions `*`, `+` and `?`, sets of
characters, and flags.  Flags hold up to the end of the group in which they
stand.  Groups, sets, repetitions, alternatives and sequences may be nested, up to
a limit.  A repetition that is counted in braces is left out, because no field
can hold a closing brace after an opening one.
-/

namespace WikiAccess
namespace Log
namespace Pattern

/-- The deepest nesting of a pattern. -/
def nestingLimit : Nat := 250

/-! ## What has been read -/

/-- A part of a sequence: flags, which cannot be repeated, or something of a known
nesting. -/
inductive Part where
  | flags
  | item (nesting : Nat)
  deriving DecidableEq, Repr

def Part.nesting : Part → Nat
  | .flags => 0
  | .item nesting => nesting

/-- The alternatives of a group: the nestings of those that are complete, and the
parts of the one being read, the last of each in front. -/
structure Alternatives where
  complete : List Nat
  parts : List Part

namespace Alternatives

def empty : Alternatives := ⟨[], []⟩

/-- The nesting of the alternative being read. -/
def current (alternatives : Alternatives) : Nat :=
  nestingOf (alternatives.parts.map Part.nesting)

def nesting (alternatives : Alternatives) : Nat :=
  nestingOf (alternatives.current :: alternatives.complete)

def push (alternatives : Alternatives) (part : Part) : Alternatives :=
  { alternatives with parts := part :: alternatives.parts }

/-- The alternative being read is complete. -/
def next (alternatives : Alternatives) : Alternatives :=
  ⟨alternatives.current :: alternatives.complete, []⟩

/-- The last part is repeated. -/
def repeated? (alternatives : Alternatives) : Option Alternatives :=
  match alternatives.parts with
  | .item nesting :: rest => some { alternatives with parts := .item (nesting + 1) :: rest }
  | _ => none

end Alternatives

/-- What has been read of a pattern: the mode and the alternatives of the group
being read, those of the groups around it, the innermost in front, and the names
of groups. -/
structure Progress where
  mode : Mode
  alternatives : Alternatives
  enclosing : List (Mode × Alternatives)
  names : List (List Char)

namespace Progress

def start : Progress := ⟨.initial, .empty, [], []⟩

def push (progress : Progress) (part : Part) : Progress :=
  { progress with alternatives := progress.alternatives.push part }

/-- A group begins, in the given mode. -/
def openGroup (progress : Progress) (mode : Mode) : Progress :=
  { progress with
    mode := mode
    alternatives := .empty
    enclosing := (progress.mode, progress.alternatives) :: progress.enclosing }

/-- The innermost group ends, and the mode is what it was before it. -/
def closeGroup? (progress : Progress) : Option Progress :=
  match progress.enclosing with
  | [] => none
  | (mode, alternatives) :: enclosing =>
    some ⟨mode, alternatives.push (.item (progress.alternatives.nesting + 1)), enclosing,
      progress.names⟩

/-- The names of groups all differ. -/
def named? (progress : Progress) (name : List Char) : Option Progress :=
  if progress.names.contains name then none
  else some { progress with names := name :: progress.names }

/-- No group is open, and the limit is kept. -/
def isComplete (progress : Progress) : Bool :=
  progress.enclosing.isEmpty && progress.alternatives.nesting ≤ nestingLimit

end Progress

/-! ## Groups -/

/-- A group's name begins with a letter or an underscore and goes on with letters,
numbers, underscores, full stops and brackets. -/
def isGroupName : List Char → Bool
  | [] => false
  | c :: rest =>
    (c == '_' || Text.isLetter c) &&
      rest.all fun c => Text.isAlphanumeric c || "_.[]".toList.contains c

/-- A group with a name, from after the opening angle bracket. -/
def namedGroup? (progress : Progress) (cs : List Char) : Option (Progress × List Char) :=
  let name := cs.takeWhile (· != '>')
  match cs.dropWhile (· != '>') with
  | '>' :: rest =>
    if isGroupName name then
      (progress.named? name).map fun progress => (progress.openGroup progress.mode, rest)
    else none
  | _ => none

/-- Flags for the rest of the group, or for a group of their own, from after the
question mark. -/
def flagged? (progress : Progress) (cs : List Char) : Option (Progress × List Char) :=
  let isFlag (c : Char) : Bool := c != ':' && c != ')'
  let flags := cs.takeWhile isFlag
  let mode := progress.mode.change flags
  if !Mode.areFlags flags then none
  else match cs.dropWhile isFlag with
    | ':' :: rest => some (progress.openGroup mode, rest)
    | ')' :: rest =>
      if flags.isEmpty then none else some ({ progress with mode := mode }.push .flags, rest)
    | _ => none

/-- What an opening parenthesis begins, from after it. -/
def group? (progress : Progress) (cs : List Char) : Option (Progress × List Char) :=
  match progress.mode.skip cs with
  | '?' :: 'P' :: '<' :: rest => namedGroup? progress rest
  | '?' :: '<' :: rest => namedGroup? progress rest
  | '?' :: rest => flagged? progress rest
  | rest => some (progress.openGroup progress.mode, rest)

/-! ## Patterns -/

/-- What follows a repetition, which a question mark makes a reluctant one. -/
def dropReluctance : List Char → List Char
  | '?' :: rest => rest
  | rest => rest

/-- One more piece of a pattern, and what follows it. -/
def piece? (progress : Progress) (first : Char) (rest : List Char) :
    Option (Progress × List Char) :=
  let mode := progress.mode
  match first with
  | '(' => group? progress rest
  | ')' => progress.closeGroup?.map fun progress => (progress, rest)
  | '|' => some ({ progress with alternatives := progress.alternatives.next }, rest)
  | '[' => (CharSet.read? mode rest).map fun (nesting, rest) =>
    (progress.push (.item nesting), rest)
  | '*' | '+' | '?' => progress.alternatives.repeated?.map fun alternatives =>
    ({ progress with alternatives := alternatives }, dropReluctance rest)
  | '\x7b' => none
  | '\\' => do
    let (escape, rest) ← escape? mode rest
    if mode.supportsEscape escape then some (progress.push (.item 0), rest) else none
  | '.' => if mode.supportsNegation then some (progress.push (.item 0), rest) else none
  | '^' | '$' => some (progress.push (.item 0), rest)
  | _ => if mode.supports ⟨first, false⟩ then some (progress.push (.item 0), rest) else none

/-- Whether the rest of a pattern can be read, piece by piece, to a complete
pattern.  The fuel is the length of the text. -/
def completes : Nat → Progress → List Char → Bool
  | fuel, progress, cs =>
    match progress.mode.skip cs, fuel with
    | [], _ => progress.isComplete
    | _ :: _, 0 => false
    | first :: rest, fuel + 1 =>
      match piece? progress first rest with
      | some (progress, rest) => completes fuel progress rest
      | none => false

/-- Whether a text is a pattern. -/
def isWellFormed (cs : List Char) : Bool := completes cs.length .start cs

end Pattern
end Log
end WikiAccess
