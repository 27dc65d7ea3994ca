/-!
# Blank characters, letter case and digits

Names and settings arrive as free text.  Three questions are asked of it: whether
it shows anything at all, what is left once the padding and the letter case are
set aside, and which number its digits write.  They are answered here, character
by character, so that a proof about a piece of text is a proof about a list of
characters.
-/

namespace WikiAccess
namespace Text

/-! ## Blank characters -/

/-- The code points with the Unicode property `White_Space`, as inclusive
ranges in ascending order. -/
def blankRanges : List (Nat × Nat) :=
  [(0x09, 0x0D), (0x20, 0x20), (0x85, 0x85), (0xA0, 0xA0), (0x1680, 0x1680),
   (0x2000, 0x200A), (0x2028, 0x2029), (0x202F, 0x202F), (0x205F, 0x205F),
   (0x3000, 0x3000)]

/-- A character is blank when it has the property `White_Space`.  The zero-width
space `U+200B` and the byte-order mark do not have it. -/
def isBlank (c : Char) : Bool :=
  blankRanges.any fun range => range.1 ≤ c.toNat && c.toNat ≤ range.2

/-- Text is blank when every character of it is.  The empty text is blank. -/
def isBlankText (s : String) : Bool := s.toList.all isBlank

/-- Text that is not blank shows a character. -/
theorem isBlankText_eq_false_iff {s : String} :
    isBlankText s = false ↔ ∃ c ∈ s.toList, isBlank c = false := by
  simp [isBlankText]

/-! ## Padding and letter case -/

/-- The characters between the first and the last that are not blank. -/
def trim (cs : List Char) : List Char :=
  ((cs.dropWhile isBlank).reverse.dropWhile isBlank).reverse

/-- Text without its padding, the letters `A` to `Z` in lower case.  No other
letter changes. -/
def normalized (s : String) : String :=
  String.ofList ((trim s.toList).map Char.toLower)

/-- The letters `A` to `Z` stand thirty-two before those from `a` to `z`. -/
theorem toNat_toLower (c : Char) :
    c.toLower.toNat = if 65 ≤ c.toNat ∧ c.toNat ≤ 90 then c.toNat + 32 else c.toNat := by
  have hcapital : ('A'.val ≤ c.val ∧ c.val ≤ 'Z'.val) ↔ 65 ≤ c.toNat ∧ c.toNat ≤ 90 := Iff.rfl
  unfold Char.toLower
  simp only [ge_iff_le, hcapital]
  split
  · show (c.val + 32).toNat = c.toNat + 32
    rw [UInt32.toNat_add]
    show (c.toNat + 32) % _ = _
    omega
  · rfl

/-- A character that is no letter is the lower case of itself alone. -/
theorem toLower_eq_iff {c k : Char} (hk : k.toNat < 65 ∨ 122 < k.toNat) :
    c.toLower = k ↔ c = k := by
  rw [← Char.toNat_inj, toNat_toLower, ← Char.toNat_inj]
  split <;> omega

/-! ## Digits -/

/-- The number that decimal digits write.  No digits write zero. -/
def decimalValue (ds : List Char) : Nat :=
  ds.foldl (fun n c => 10 * n + (c.toNat - 48)) 0

end Text
end WikiAccess
