import WikiAccess.Text

/-!
# Modes of a pattern

Flags change how the pattern after them is read.  Three of them bear on which
patterns there are: whether letter case counts, whether characters are matched or
bytes, and whether blanks and comments are ignored.  The others bear only on what
a pattern matches.
-/

namespace WikiAccess
namespace Log
namespace Pattern

structure Mode where
  /-- Upper and lower case are the same, by the flag `i`. -/
  caseless : Bool
  /-- Characters are matched rather than bytes, by the flag `u`. -/
  unicode : Bool
  /-- Blanks do not count, nor does the rest of a line after `#`, by the flag `x`. -/
  spaced : Bool
  deriving DecidableEq, Repr

namespace Mode

/-- The mode at the start of a pattern. -/
def initial : Mode := ⟨false, true, false⟩

/-! ## Flags -/

/-- Switch one flag on or off. -/
def switch (on : Bool) (mode : Mode) : Char → Mode
  | 'i' => { mode with caseless := on }
  | 'u' => { mode with unicode := on }
  | 'x' => { mode with spaced := on }
  | _ => mode

/-- The mode after flags, where a hyphen stands before those to switch off. -/
def change (mode : Mode) (flags : List Char) : Mode :=
  let on := flags.takeWhile (· != '-')
  let off := flags.dropWhile (· != '-')
  off.foldl (switch false) (on.foldl (switch true) mode)

/-- Flags are letters with at most one hyphen among them, which is not the last.  No
letter stands twice. -/
def areFlags (cs : List Char) : Bool :=
  cs.all ("imsUuRx-".toList.contains ·) && decide cs.Nodup && cs.getLast? != some '-'

/-! ## Blanks -/

/-- The text without the blanks and comments at its front.  In a comment, all up
to the end of the line is dropped. -/
def dropBlanks : Bool → List Char → List Char
  | _, [] => []
  | true, c :: rest => dropBlanks (c != '\n') rest
  | false, c :: rest =>
    if Text.isBlank c then dropBlanks false rest
    else if c == '#' then dropBlanks true rest
    else c :: rest

/-- The text from where reading goes on. -/
def skip (mode : Mode) (cs : List Char) : List Char :=
  if mode.spaced then dropBlanks false cs else cs

/-- The character to look ahead to.  Blanks are passed over, and so is the sign that
starts a comment, but not the comment. -/
def peek? (mode : Mode) (cs : List Char) : Option Char :=
  if mode.spaced then
    match cs.dropWhile Text.isBlank with
    | '#' :: comment => (comment.dropWhile Text.isBlank).head?.or cs.head?
    | rest => rest.head?.or cs.head?
  else cs.head?

end Mode
end Pattern
end Log
end WikiAccess
