import Mathlib.Data.List.DropRight
import Mathlib.Data.List.Forall2
import Mathlib.Data.List.TakeWhile
import WikiAccess.Text

/-!
# Texts that spell a word

A text spells a word when the word stands in it in any letter case, with nothing but blank
characters around it.  The word is what `normalized` makes of the text (`normalized_eq_iff`),
so that every text spells exactly one.

Padding a text and changing the case of its letters gives another spelling of the same word
(`normalized_of_isRespelling`).
-/

namespace WikiAccess
namespace Text

/-! ## Padding -/

/-- What is left of a text without the blank characters at its two ends. -/
structure IsCore (core cs : List Char) : Prop where
  padded : ∃ before after, cs = before ++ core ++ after ∧
    (∀ c ∈ before, isBlank c = true) ∧ ∀ c ∈ after, isBlank c = true
  starts : ∀ c, core.head? = some c → isBlank c = false
  ends : ∀ c, core.getLast? = some c → isBlank c = false

section Padding

variable {before core after cs : List Char}

/-- Padding does not show when the padding is cut off. -/
theorem trim_append (hbefore : ∀ c ∈ before, isBlank c = true)
    (hafter : ∀ c ∈ after, isBlank c = true) : trim (before ++ core ++ after) = trim core := by
  have hrest : after.dropWhile isBlank = [] := List.dropWhile_eq_nil_iff.mpr hafter
  have hend : ∀ c ∈ after.reverse, isBlank c = true :=
    fun c hc => hafter c (List.mem_reverse.mp hc)
  unfold trim
  rw [List.append_assoc, List.dropWhile_append_of_pos hbefore, List.dropWhile_append, hrest]
  cases hdrop : core.dropWhile isBlank with
  | nil => rfl
  | cons c cs =>
    rw [if_neg (by simp), List.reverse_append, List.dropWhile_append_of_pos hend]

theorem dropWhile_of_head? (h : ∀ c, cs.head? = some c → isBlank c = false) :
    cs.dropWhile isBlank = cs := by
  cases cs with
  | nil => rfl
  | cons c cs => exact List.dropWhile_cons_of_neg (by simp [h c rfl])

theorem head?_dropWhile (c : Char) (h : (cs.dropWhile isBlank).head? = some c) :
    isBlank c = false := by
  have hnot := List.head?_dropWhile_not isBlank cs
  rw [h] at hnot
  simpa using hnot

theorem isCore_trim (cs : List Char) : IsCore (trim cs) cs := by
  have hprefix : trim cs <+: cs.dropWhile isBlank := List.rdropWhile_prefix isBlank _
  constructor
  · refine ⟨cs.takeWhile isBlank, (cs.dropWhile isBlank).rtakeWhile isBlank, ?_, ?_, ?_⟩
    · have hsplit : trim cs ++ (cs.dropWhile isBlank).rtakeWhile isBlank = cs.dropWhile isBlank :=
        List.rdropWhile_append_rtakeWhile
      rw [List.append_assoc, hsplit, List.takeWhile_append_dropWhile]
    · exact fun c hc => List.mem_takeWhile_imp hc
    · exact fun c hc => List.mem_rtakeWhile_imp hc
  · intro c hc
    obtain ⟨rest, hrest⟩ := hprefix
    have hhead : (cs.dropWhile isBlank).head? = some c := by
      rw [← hrest, List.head?_append, hc]
      rfl
    exact head?_dropWhile c hhead
  · intro c hc
    unfold trim at hc
    rw [List.getLast?_reverse] at hc
    exact head?_dropWhile c hc

/-- A text has one core, which is what is left when its padding is cut off. -/
theorem trim_eq_iff : trim cs = core ↔ IsCore core cs := by
  constructor
  · rintro rfl
    exact isCore_trim cs
  · intro h
    obtain ⟨before, after, hcs, hbefore, hafter⟩ := h.padded
    have hends : core.reverse.dropWhile isBlank = core.reverse := by
      refine dropWhile_of_head? ?_
      rw [List.head?_reverse]
      exact h.ends
    rw [hcs, trim_append hbefore hafter, trim, dropWhile_of_head? h.starts, hends,
      List.reverse_reverse]

end Padding

/-! ## Letter case -/

/-- The first character is the second one in lower case.  The letters from `A` to `Z` have
another character for that, thirty-two places on, and every other character is its own. -/
def IsLowerOf (lower c : Char) : Prop :=
  if 'A'.toNat ≤ c.toNat ∧ c.toNat ≤ 'Z'.toNat then lower.toNat = c.toNat + 32 else lower = c

theorem isLowerOf_iff {lower c : Char} : IsLowerOf lower c ↔ lower = c.toLower := by
  show (if 65 ≤ c.toNat ∧ c.toNat ≤ 90 then lower.toNat = c.toNat + 32 else lower = c) ↔ _
  by_cases hcapital : 65 ≤ c.toNat ∧ c.toNat ≤ 90
  · rw [if_pos hcapital, ← Char.toNat_inj, toNat_toLower, if_pos hcapital]
  · have hself : c.toLower = c := by rw [← Char.toNat_inj, toNat_toLower, if_neg hcapital]
    rw [if_neg hcapital, hself]

/-- Two characters are one letter in upper or lower case, or the same. -/
def SameLetter (c other : Char) : Prop := c = other ∨ IsLowerOf c other ∨ IsLowerOf other c

theorem toLower_toLower (c : Char) : c.toLower.toLower = c.toLower := by
  rw [← Char.toNat_inj, toNat_toLower, toNat_toLower]
  split
  · rw [if_neg (by omega)]
  · rfl

theorem toLower_of_sameLetter {c other : Char} (h : SameLetter c other) :
    c.toLower = other.toLower := by
  rcases h with heq | hlower | hupper
  · rw [heq]
  · rw [isLowerOf_iff.mp hlower, toLower_toLower]
  · rw [isLowerOf_iff.mp hupper, toLower_toLower]

theorem forall₂_isLowerOf_iff {lower cs : List Char} :
    List.Forall₂ IsLowerOf lower cs ↔ lower = cs.map Char.toLower := by
  have hrelation : IsLowerOf = fun lower c => lower = c.toLower := by
    funext lower c
    exact propext isLowerOf_iff
  rw [hrelation, ← List.forall₂_map_right_iff, List.forall₂_eq_eq_eq]

theorem map_toLower_of_forall₂ {cs others : List Char} (h : List.Forall₂ SameLetter cs others) :
    cs.map Char.toLower = others.map Char.toLower := by
  have hlower := h.imp fun _ _ => toLower_of_sameLetter
  rw [← List.forall₂_eq_eq_eq, List.forall₂_map_left_iff, List.forall₂_map_right_iff]
  exact hlower

theorem isBlank_of_letter {c : Char} (hfirst : 65 ≤ c.toNat) (hlast : c.toNat ≤ 122) :
    isBlank c = false := by
  simp only [isBlank, blankRanges, List.any_cons, List.any_nil, Bool.or_eq_false_iff,
    Bool.and_eq_false_iff, decide_eq_false_iff_not, and_true]
  omega

theorem isBlank_toLower (c : Char) : isBlank c.toLower = isBlank c := by
  have hlower := toNat_toLower c
  by_cases hcapital : 65 ≤ c.toNat ∧ c.toNat ≤ 90
  · rw [if_pos hcapital] at hlower
    rw [isBlank_of_letter (by omega) (by omega), isBlank_of_letter (by omega) (by omega)]
  · rw [if_neg hcapital, Char.toNat_inj] at hlower
    rw [hlower]

theorem trim_map_toLower (cs : List Char) :
    trim (cs.map Char.toLower) = (trim cs).map Char.toLower := by
  have hblank : isBlank ∘ Char.toLower = isBlank := funext isBlank_toLower
  unfold trim
  rw [List.dropWhile_map, hblank, ← List.map_reverse, List.dropWhile_map, hblank, List.map_reverse]

/-! ## Spellings -/

/-- A text spells a word that stands in it in any letter case, with nothing but padding around
it. -/
def Spells (raw word : String) : Prop :=
  ∃ core, IsCore core raw.toList ∧ List.Forall₂ IsLowerOf word.toList core

/-- Every text spells one word. -/
theorem normalized_eq_iff {raw word : String} : normalized raw = word ↔ Spells raw word := by
  unfold Spells
  simp only [← trim_eq_iff, forall₂_isLowerOf_iff, exists_eq_left']
  rw [normalized, ← String.toList_inj, String.toList_ofList, eq_comm]

theorem exists_spells_iff {raw : String} {words : List String} :
    (∃ word ∈ words, Spells raw word) ↔ normalized raw ∈ words := by
  simp only [← normalized_eq_iff, exists_eq_right']

/-- Another spelling of a text: the letters from `A` to `Z` may change their case, and blank
characters may stand before and after it. -/
def IsRespelling (other raw : String) : Prop :=
  ∃ before core after, other.toList = before ++ core ++ after ∧
    (∀ c ∈ before, isBlank c = true) ∧ (∀ c ∈ after, isBlank c = true) ∧
    List.Forall₂ SameLetter core raw.toList

theorem normalized_of_isRespelling {other raw : String} (h : IsRespelling other raw) :
    normalized other = normalized raw := by
  obtain ⟨before, core, after, hother, hbefore, hafter, hcore⟩ := h
  unfold normalized
  rw [hother, trim_append hbefore hafter, ← trim_map_toLower, map_toLower_of_forall₂ hcore,
    trim_map_toLower]

end Text
end WikiAccess
