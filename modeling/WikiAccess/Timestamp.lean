import WikiAccess.Calendar
import WikiAccess.Text

/-!
# Points in time

A point in time is kept in UTC.  It is read from the Internet form
`2024-05-06T07:08:09.5+02:00`, whose offset is required, and written back in UTC
with the zone `Z` and as few fraction digits out of none, three, six or nine as
are exact.

Reading is lenient about spacing and padding: blank characters may stand before
each number and each separator of the date and the time of day, numbers may be
short, and a year with a sign may have any number of digits.  The last second of
any minute may be a leap second, written `60`.
-/

namespace WikiAccess

/-- A point in time, in UTC.  A leap second has the second 59 and its nanoseconds
count on from those of that second. -/
structure Timestamp where
  date : Date
  minuteOfDay : Nat
  second : Nat
  nanos : Nat
  deriving DecidableEq, Repr

namespace Timestamp

/-! ## Reading -/

/-- Read from the front of a list of characters and leave the rest. -/
abbrev Reader := StateT (List Char) Option

def skipBlanks : Reader Unit := modify (·.dropWhile Text.isBlank)

/-- One character that satisfies `accepts`. -/
def character (accepts : Char → Bool) : Reader Char
  | [] => none
  | c :: rest => if accepts c then some (c, rest) else none

/-- At least one and at most `limit` decimal digits, as many as there are. -/
def digits (limit : Nat) : Reader (List Char) := fun cs =>
  match (cs.take limit).takeWhile Char.isDigit with
  | [] => none
  | ds => some (ds, cs.drop ds.length)

/-- A number of at most `limit` digits after optional blanks. -/
def number (limit : Nat) : Reader Nat := do
  skipBlanks
  return Text.decimalValue (← digits limit)

/-- A number with a sign and any number of digits, or one of at most four
digits without a sign. -/
def signedYear : Reader Int := do
  skipBlanks
  match ← get with
  | '-' :: rest => set rest; return -(Text.decimalValue (← digits rest.length) : Int)
  | '+' :: rest => set rest; return (Text.decimalValue (← digits rest.length) : Int)
  | _ => return (Text.decimalValue (← digits 4) : Int)

/-- A separator after optional blanks. -/
def separator (mark : Char) : Reader Unit := do
  skipBlanks
  let _ ← character (· == mark)

def nanosPerSecond : Nat := 1000000000

/-- The nanoseconds of a fraction of a second, which is filled up to nine digits.
Digits after the ninth are dropped. -/
def fraction : Reader Nat := do
  match ← get with
  | '.' :: rest =>
    set rest
    let ds ← digits 9
    modify (·.dropWhile Char.isDigit)
    return Text.decimalValue (ds ++ List.replicate (9 - ds.length) '0')
  | _ => return 0

def twoDigits : Reader Nat := do
  let tens ← character Char.isDigit
  let ones ← character Char.isDigit
  return Text.decimalValue [tens, ones]

/-- The minutes by which local time is ahead of UTC: the word `UTC` or the
letter `Z` in either case, or a sign, the hours and the minutes, with colons and
blanks between those two. -/
def offset : Reader Int := do
  let cs ← get
  if (cs.take 3).map Char.toLower = ['u', 't', 'c'] then
    set (cs.drop 3)
    return 0
  let sign ← character fun c => c ∈ ['Z', 'z', '+', '-', '−']
  if sign ∈ ['Z', 'z'] then
    return 0
  let hours ← twoDigits
  modify (·.dropWhile fun c => c == ':' || Text.isBlank c)
  let minutes ← twoDigits
  guard (minutes < 60 ∧ hours < 24)
  let ahead : Int := hours * 60 + minutes
  return if sign = '+' then ahead else -ahead

/-- Move a local date and minute of the day to UTC. -/
def toUtc (date : Date) (minuteOfDay : Nat) (offset : Int) : Date × Nat :=
  let minute := (minuteOfDay : Int) - offset
  if minute < 0 then (date.previous, (minute + 1440).toNat)
  else if 1440 ≤ minute then (date.next, (minute - 1440).toNat)
  else (date, minute.toNat)

/-- The whole of a written point in time.  Blanks may follow it. -/
def reader : Reader Timestamp := do
  let year ← signedYear
  separator '-'
  let month ← number 2
  separator '-'
  let day ← number 2
  let _ ← character fun c => c ∈ ['T', 't', ' ']
  let hour ← number 2
  separator ':'
  let minute ← number 2
  separator ':'
  let second ← number 2
  let nanos ← fraction
  skipBlanks
  let ahead ← offset
  skipBlanks
  guard ((← get).isEmpty)
  let date : Date := ⟨year, month, day⟩
  guard (date.isValid ∧ hour < 24 ∧ minute < 60 ∧ second ≤ 60)
  let (date, minuteOfDay) := toUtc date (hour * 60 + minute) ahead
  guard date.isValid
  return if second = 60 then ⟨date, minuteOfDay, 59, nanos + nanosPerSecond⟩
    else ⟨date, minuteOfDay, second, nanos⟩

def parse? (raw : String) : Option Timestamp :=
  (reader raw.toList).map Prod.fst

/-! ## Writing -/

/-- A number in decimal with zeros in front up to `width` digits. -/
def padded (width n : Nat) : String :=
  let ds := Nat.toDigits 10 n
  String.ofList (List.replicate (width - ds.length) '0' ++ ds)

/-- Four digits for the years 0 to 9999, else a sign and at least four. -/
def displayYear (year : Int) : String :=
  if 0 ≤ year ∧ year ≤ 9999 then padded 4 year.toNat
  else (if year < 0 then "-" else "+") ++ padded 4 year.natAbs

/-- The fewest digits out of none, three, six and nine that are exact. -/
def displayFraction (nanos : Nat) : String :=
  if nanos = 0 then ""
  else if nanos % 1000000 = 0 then "." ++ padded 3 (nanos / 1000000)
  else if nanos % 1000 = 0 then "." ++ padded 6 (nanos / 1000)
  else "." ++ padded 9 nanos

def display (t : Timestamp) : String :=
  displayYear t.date.year ++ "-" ++ padded 2 t.date.month ++ "-" ++ padded 2 t.date.day ++
    "T" ++ padded 2 (t.minuteOfDay / 60) ++ ":" ++ padded 2 (t.minuteOfDay % 60) ++
    ":" ++ padded 2 (t.second + t.nanos / nanosPerSecond) ++
    displayFraction (t.nanos % nanosPerSecond) ++ "Z"

end Timestamp
end WikiAccess
