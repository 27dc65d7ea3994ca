/-!
# Hexadecimal digits

The digits are the numbers below sixteen.  They are read in either letter case
and written in lower case.
-/

namespace WikiAccess

abbrev HexDigit := Fin 16

namespace HexDigit

def zero : HexDigit := 0

def char (d : HexDigit) : Char :=
  if d.val < 10 then Char.ofNat (48 + d.val) else Char.ofNat (87 + d.val)

/-- The digit that a character stands for, in either letter case. -/
def ofChar? (c : Char) : Option HexDigit :=
  if '0' ≤ c ∧ c ≤ '9' then some (Fin.ofNat 16 (c.toNat - 48))
  else if 'a' ≤ c ∧ c ≤ 'f' then some (Fin.ofNat 16 (c.toNat - 87))
  else if 'A' ≤ c ∧ c ≤ 'F' then some (Fin.ofNat 16 (c.toNat - 55))
  else none

end HexDigit

end WikiAccess
