import WikiAccess.HexDigit
import WikiAccess.Log.Pattern.Mode

/-!
# Characters and escapes of a pattern

A character stands for itself or is written after a backslash.  A backslash may
also introduce a class of characters or a position in the text.

What depends on tables of letters is not supported: matching characters without
regard to case, the classes of characters, and the boundaries of words.  When
bytes are matched they are supported, since only ASCII counts then, but a pattern
must not match a part of a character.
-/

namespace WikiAccess
namespace Log
namespace Pattern

/-- A character of a pattern. -/
structure Literal where
  value : Char
  /-- Written by two hexadecimal digits, which stand for a byte when bytes are
  matched. -/
  isByte : Bool
  deriving DecidableEq, Repr

inductive Escape where
  | literal (literal : Literal)
  /-- The digits, the blanks or the letters of words, or all but these. -/
  | shorthand (negated : Bool)
  /-- An end of the text. -/
  | anchor
  /-- A position at or within a word. -/
  | wordPosition
  deriving DecidableEq, Repr

/-! ## Reading -/

/-- Hexadecimal digits, `count` of them. -/
def hexDigits? (mode : Mode) : Nat → List Char → Option (List HexDigit × List Char)
  | 0, cs => some ([], cs)
  | count + 1, cs =>
    match mode.skip cs with
    | [] => none
    | c :: rest => do
      let digit ← HexDigit.ofChar? c
      let (digits, rest) ← hexDigits? mode count rest
      return (digit :: digits, rest)

/-- The character whose code point `count` hexadecimal digits write. -/
def codePoint? (mode : Mode) (count : Nat) (cs : List Char) : Option (Escape × List Char) := do
  let (digits, rest) ← hexDigits? mode count cs
  let code := digits.foldl (fun n digit => 16 * n + digit.val) 0
  if code.isValidChar then
    return (.literal ⟨Char.ofNat code, count == 2⟩, rest)
  else none

/-- The escape after a backslash, and what follows it.  A character of ASCII that
is neither a letter nor a digit nor an angle bracket may always be escaped. -/
def escape? (mode : Mode) : List Char → Option (Escape × List Char)
  | [] => none
  | c :: rest =>
    match c with
    | 'x' => codePoint? mode 2 rest
    | 'u' => codePoint? mode 4 rest
    | 'U' => codePoint? mode 8 rest
    | 'a' => some (.literal ⟨'\x07', false⟩, rest)
    | 'f' => some (.literal ⟨'\x0c', false⟩, rest)
    | 't' => some (.literal ⟨'\t', false⟩, rest)
    | 'n' => some (.literal ⟨'\n', false⟩, rest)
    | 'r' => some (.literal ⟨'\r', false⟩, rest)
    | 'v' => some (.literal ⟨'\x0b', false⟩, rest)
    | 'd' | 's' | 'w' => some (.shorthand false, rest)
    | 'D' | 'S' | 'W' => some (.shorthand true, rest)
    | 'A' | 'z' => some (.anchor, rest)
    | 'b' | 'B' | '<' | '>' => some (.wordPosition, rest)
    | _ =>
      if c.toNat < 128 && !c.isAlphanum then some (.literal ⟨c, false⟩, rest) else none

/-! ## Support -/

namespace Mode

/-- Whether a character is supported outside a set. -/
def supports (mode : Mode) (literal : Literal) : Bool :=
  if mode.unicode then !mode.caseless
  else !literal.isByte || literal.value.toNat < 128

/-- Whether a character is supported in a set.  A set of bytes is one of ASCII. -/
def supportsMember (mode : Mode) (literal : Literal) : Bool :=
  if mode.unicode then !mode.caseless else literal.value.toNat < 128

/-- Whether all but some characters may be matched.  All but some bytes would
include parts of characters. -/
def supportsNegation (mode : Mode) : Bool := mode.unicode

/-- Whether a class such as the digits is supported. -/
def supportsShorthand (mode : Mode) (negated : Bool) : Bool :=
  !mode.unicode && (!negated || mode.supportsNegation)

/-- Whether an escape is supported outside a set. -/
def supportsEscape (mode : Mode) : Escape → Bool
  | .literal literal => mode.supports literal
  | .shorthand negated => mode.supportsShorthand negated
  | .anchor => true
  | .wordPosition => !mode.unicode

end Mode
end Pattern
end Log
end WikiAccess
