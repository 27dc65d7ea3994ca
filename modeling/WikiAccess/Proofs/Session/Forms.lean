import Mathlib.Algebra.GroupWithZero.Nat
import Mathlib.Data.List.SplitLengths
import WikiAccess.Session.Id
import WikiAccess.Text

/-!
# The written forms of a session identifier

An identifier has four written forms, in which letter case does not matter
(`SessionId.forms`).  The main statement, `ofChars?_eq_some_iff`, is that a text is read
as an identifier exactly when it is one of that identifier's forms.  So every form reads
back, and no other text reads at all.
-/

namespace WikiAccess

/-! ## Lists cut into groups and read item by item -/

/-- Replacing characters by others commutes with cutting, when the separator stays and
nothing else becomes one. -/
theorem splitOn_map {f : Char → Char} {separator : Char}
    (h : ∀ c, f c = separator ↔ c = separator) (cs : List Char) :
    (cs.map f).splitOn separator = (cs.splitOn separator).map (List.map f) := by
  induction cs with
  | nil => rfl
  | cons c cs ih =>
    rw [List.map_cons, List.splitOn_cons_eq_if_modifyHead, List.splitOn_cons_eq_if_modifyHead,
      ih]
    by_cases hc : c = separator
    · rw [if_pos (beq_iff_eq.mpr ((h c).mpr hc)), if_pos (beq_iff_eq.mpr hc)]
      rfl
    · rw [if_neg (mt beq_iff_eq.mp (mt (h c).mp hc)), if_neg (mt beq_iff_eq.mp hc)]
      cases cs.splitOn separator <;> rfl

theorem splitOn_eq_iff {separator : Char} {cs : List Char} {groups : List (List Char)}
    (hne : groups ≠ []) (h : ∀ group ∈ groups, separator ∉ group) :
    cs.splitOn separator = groups ↔ cs = [separator].intercalate groups := by
  constructor
  · rintro rfl
    exact (List.intercalate_splitOn separator).symm
  · rintro rfl
    exact List.splitOn_intercalate separator h hne

theorem splitLengths_flatten {α : Type} (groups : List (List α)) :
    (groups.map List.length).splitLengths groups.flatten = groups := by
  induction groups with
  | nil => rfl
  | cons group rest ih =>
    rw [List.map_cons, List.flatten_cons, List.splitLengths_cons, List.take_left,
      List.drop_left, ih]

/-- Groups of given lengths that use a list up are determined by it. -/
theorem eq_splitLengths_iff {α : Type} {lengths : List Nat} {xs : List α}
    (h : lengths.sum = xs.length) {groups : List (List α)} :
    groups = lengths.splitLengths xs ↔
      groups.map List.length = lengths ∧ groups.flatten = xs := by
  constructor
  · rintro rfl
    exact ⟨List.map_splitLengths_length _ _ h.le, List.flatten_splitLengths _ _ h.ge⟩
  · rintro ⟨rfl, rfl⟩
    exact (splitLengths_flatten groups).symm

/-- Reading a list item by item, when reading an item compares two views of it. -/
theorem mapM_eq_some_iff_map_eq {α β γ : Type} {read : α → Option β} {left : α → γ}
    {right : β → γ} (h : ∀ item value, read item = some value ↔ left item = right value)
    {items : List α} {values : List β} :
    items.mapM read = some values ↔ items.map left = values.map right := by
  induction items generalizing values with
  | nil => cases values <;> simp
  | cons item items ih =>
    rw [List.mapM_cons]
    cases values with
    | nil => simp [Option.bind_eq_some_iff]
    | cons value values =>
      simp only [Option.bind_eq_bind, Option.bind_eq_some_iff, Option.pure_def,
        Option.some_inj, List.map_cons, List.cons.injEq, ih, h]
      constructor
      · rintro ⟨_, hitem, _, hitems, rfl, rfl⟩
        exact ⟨hitem, hitems⟩
      · rintro ⟨hitem, hitems⟩
        exact ⟨value, hitem, values, hitems, rfl, rfl⟩

/-! ## Digits -/

namespace HexDigit

theorem toNat_char : ∀ d : HexDigit,
    d.char.toNat = if d.val < 10 then 48 + d.val else 87 + d.val := by
  decide

/-- What a digit is read from, by the number of the character. -/
theorem ofChar?_eq_some_iff_toNat {c : Char} {d : HexDigit} :
    ofChar? c = some d ↔
      (48 ≤ c.toNat ∧ c.toNat ≤ 57 ∧ c.toNat = 48 + d.val) ∨
      (97 ≤ c.toNat ∧ c.toNat ≤ 102 ∧ c.toNat = 87 + d.val) ∨
      (65 ≤ c.toNat ∧ c.toNat ≤ 70 ∧ c.toNat = 55 + d.val) := by
  have hd := d.isLt
  have hdecimal : ('0' ≤ c ∧ c ≤ '9') ↔ 48 ≤ c.toNat ∧ c.toNat ≤ 57 := Iff.rfl
  have hlower : ('a' ≤ c ∧ c ≤ 'f') ↔ 97 ≤ c.toNat ∧ c.toNat ≤ 102 := Iff.rfl
  have hupper : ('A' ≤ c ∧ c ≤ 'F') ↔ 65 ≤ c.toNat ∧ c.toNat ≤ 70 := Iff.rfl
  unfold ofChar?
  simp only [hdecimal, hlower, hupper]
  split
  · rw [Option.some_inj, Fin.ext_iff, Fin.val_ofNat]
    omega
  · split
    · rw [Option.some_inj, Fin.ext_iff, Fin.val_ofNat]
      omega
    · split
      · rw [Option.some_inj, Fin.ext_iff, Fin.val_ofNat]
        omega
      · refine iff_of_false nofun ?_
        omega

/-- A character stands for a digit when in lower case it is the digit's own. -/
theorem ofChar?_eq_some_iff {c : Char} {d : HexDigit} :
    ofChar? c = some d ↔ c.toLower = d.char := by
  have hd := d.isLt
  rw [ofChar?_eq_some_iff_toNat, ← Char.toNat_inj, Text.toNat_toLower, toNat_char]
  split <;> split <;> omega

theorem mapM_ofChar?_eq_some_iff {cs : List Char} {digits : List HexDigit} :
    cs.mapM ofChar? = some digits ↔ cs.map Char.toLower = digits.map char :=
  mapM_eq_some_iff_map_eq fun _ _ => ofChar?_eq_some_iff

end HexDigit

namespace SessionId

/-! ## The groups of an identifier -/

/-- The digits of an identifier in their groups. -/
def groups (id : SessionId) : List (List Char) :=
  groupLengths.splitLengths (id.digits.map HexDigit.char)

theorem pieces_eq_splitLengths {α : Type} (lengths : List Nat) (xs : List α) :
    pieces lengths xs = lengths.splitLengths xs := by
  induction lengths generalizing xs with
  | nil => rfl
  | cons length lengths ih => rw [pieces, List.splitLengths_cons, ih]

theorem toList_display (id : SessionId) :
    id.display.toList = ['-'].intercalate id.groups := by
  rw [display, String.toList_ofList, pieces_eq_splitLengths, groups]

theorem sum_groupLengths (id : SessionId) :
    groupLengths.sum = (id.digits.map HexDigit.char).length := by
  rw [List.length_map, id.length_digits]
  rfl

theorem eq_groups_iff {id : SessionId} {groups : List (List Char)} :
    groups = id.groups ↔
      groups.map List.length = groupLengths ∧
        groups.flatten = id.digits.map HexDigit.char :=
  eq_splitLengths_iff id.sum_groupLengths

theorem groups_ne_nil (id : SessionId) : id.groups ≠ [] := List.cons_ne_nil _ _

theorem hyphen_not_mem_groups (id : SessionId) : ∀ group ∈ id.groups, '-' ∉ group := by
  intro group hgroup hhyphen
  have hdigits : '-' ∈ id.digits.map HexDigit.char := by
    rw [← (eq_groups_iff.mp rfl).2]
    exact List.mem_flatten_of_mem hgroup hhyphen
  obtain ⟨d, -, hd⟩ := List.mem_map.mp hdigits
  have hne : ∀ d : HexDigit, d.char ≠ '-' := by decide
  exact hne d hd

theorem splitOn_display (id : SessionId) : id.display.toList.splitOn '-' = id.groups := by
  rw [toList_display]
  exact List.splitOn_intercalate '-' id.hyphen_not_mem_groups id.groups_ne_nil

/-! ## Reading the bare and the grouped form -/

theorem ofBare?_eq_some_iff {cs : List Char} {id : SessionId} :
    ofBare? cs = some id ↔ cs.map Char.toLower = id.digits.map HexDigit.char := by
  rw [← HexDigit.mapM_ofChar?_eq_some_iff]
  unfold ofBare?
  cases cs.mapM HexDigit.ofChar? with
  | none => simp
  | some read =>
    obtain ⟨digits, hlength⟩ := id
    simp only [Option.bind_eq_bind, Option.bind_some, Option.some_inj,
      Option.dite_none_right_eq_some, SessionId.mk.injEq, exists_prop, and_iff_right_iff_imp]
    rintro rfl
    exact hlength

/-- The grouped form is cut at its hyphens, and the pieces have the right lengths and
the digits. -/
theorem ofGrouped?_eq_some_iff_splitOn {cs : List Char} {id : SessionId} :
    ofGrouped? cs = some id ↔
      (cs.splitOn '-').map List.length = groupLengths ∧
        (cs.splitOn '-').flatten.map Char.toLower = id.digits.map HexDigit.char := by
  rw [← ofBare?_eq_some_iff]
  unfold ofGrouped?
  exact Option.ite_none_right_eq_some

theorem ofGrouped?_eq_some_iff {cs : List Char} {id : SessionId} :
    ofGrouped? cs = some id ↔ cs.map Char.toLower = id.display.toList := by
  have hlengths : List.length ∘ List.map Char.toLower = List.length := by
    funext group
    exact List.length_map _
  calc ofGrouped? cs = some id
      ↔ (cs.splitOn '-').map (List.map Char.toLower) = id.groups := by
        rw [ofGrouped?_eq_some_iff_splitOn, eq_groups_iff, List.map_map, List.map_flatten,
          hlengths]
    _ ↔ (cs.map Char.toLower).splitOn '-' = id.groups := by
        rw [splitOn_map]
        intro c
        exact Text.toLower_eq_iff (.inl (by decide))
    _ ↔ cs.map Char.toLower = id.display.toList := by
        rw [toList_display, splitOn_eq_iff id.groups_ne_nil id.hyphen_not_mem_groups]

/-- The grouped form is written in lower case. -/
theorem map_toLower_display (id : SessionId) :
    id.display.toList.map Char.toLower = id.display.toList := by
  have hlower : ∀ d : HexDigit, d.char.toLower = d.char := by decide
  obtain ⟨hlengths, hdigits⟩ := eq_groups_iff.mp (Eq.refl id.groups)
  rw [← ofGrouped?_eq_some_iff, ofGrouped?_eq_some_iff_splitOn, splitOn_display, hdigits,
    List.map_map]
  exact ⟨hlengths, List.map_congr_left fun d _ => hlower d⟩

/-! ## Telling the forms apart -/

/-- The written forms of an identifier, in lower case: its digits, the digits in groups,
and the groups in braces or after the scheme. -/
def forms (id : SessionId) : List (List Char) :=
  [id.digits.map HexDigit.char, id.display.toList,
    '\x7b' :: id.display.toList ++ ['\x7d'], scheme ++ id.display.toList]

theorem exists_head?_digits (id : SessionId) :
    ∃ d : HexDigit, (id.digits.map HexDigit.char).head? = some d.char := by
  obtain ⟨digits, hlength⟩ := id
  cases digits with
  | nil => cases hlength
  | cons d digits => exact ⟨d, rfl⟩

theorem exists_head?_display (id : SessionId) :
    ∃ d : HexDigit, id.display.toList.head? = some d.char := by
  obtain ⟨digits, hlength⟩ := id
  cases digits with
  | nil => cases hlength
  | cons d digits =>
    refine ⟨d, ?_⟩
    rw [toList_display, groups]
    simp [groupLengths]

theorem length_display (id : SessionId) : id.display.toList.length = 36 := by
  rw [toList_display, groups]
  simp [groupLengths, id.length_digits]

theorem ofBare?_of_display {cs : List Char} {id : SessionId}
    (h : cs.map Char.toLower = id.display.toList) : ofBare? cs = none := by
  rw [Option.eq_none_iff_forall_ne_some]
  intro other hother
  rw [ofBare?_eq_some_iff, h] at hother
  have hlength := congrArg List.length hother
  rw [length_display, List.length_map, other.length_digits] at hlength
  cases hlength

theorem ofChars?_braced (inner : List Char) :
    ofChars? ('\x7b' :: inner ++ ['\x7d']) = ofGrouped? inner := by
  unfold ofChars?
  rw [if_pos ⟨rfl, List.getLast?_concat⟩, List.cons_append, List.tail_cons,
    List.dropLast_concat]

/-- A text that does not start with a brace may start with the scheme. -/
theorem ofChars?_of_head?_ne {cs : List Char} (h : cs.head? ≠ some '\x7b') :
    ofChars? cs =
      if (cs.take scheme.length).map Char.toLower = scheme then
        ofGrouped? (cs.drop scheme.length)
      else (ofBare? cs).or (ofGrouped? cs) := by
  unfold ofChars?
  rw [if_neg fun hbraces => h hbraces.1]

theorem ofChars?_of_scheme {start rest : List Char} (h : start.map Char.toLower = scheme) :
    ofChars? (start ++ rest) = ofGrouped? rest := by
  have hlength : start.length = scheme.length := by rw [← h, List.length_map]
  have hhead : (start ++ rest).head? ≠ some '\x7b' := by
    intro hbrace
    have hscheme : (start.map Char.toLower ++ rest).head? = some 'u' := by
      rw [h]
      rfl
    cases start with
    | nil => cases hlength
    | cons c start =>
      cases hbrace
      cases hscheme
  rw [ofChars?_of_head?_ne hhead, List.take_left' hlength, List.drop_left' hlength, if_pos h]

/-- A text that starts with a digit is read as one of the forms without a frame. -/
theorem ofChars?_of_digit {cs : List Char} {d : HexDigit}
    (h : (cs.map Char.toLower).head? = some d.char) :
    ofChars? cs = (ofBare? cs).or (ofGrouped? cs) := by
  have hdigit : ∀ d : HexDigit, d.char ≠ '\x7b' ∧ d.char ≠ 'u' := by decide
  have hhead : cs.head? ≠ some '\x7b' := by
    intro hbrace
    rw [List.head?_map, hbrace] at h
    exact (hdigit d).1 (Option.some.inj h).symm
  have hscheme : (cs.take scheme.length).map Char.toLower ≠ scheme := by
    intro hscheme
    have hfirst := congrArg List.head? hscheme
    rw [List.map_take, List.head?_take, if_neg (by decide), h] at hfirst
    exact (hdigit d).2 (Option.some.inj hfirst)
  rw [ofChars?_of_head?_ne hhead, if_neg hscheme]

theorem exists_braced {cs : List Char}
    (h : cs.head? = some '\x7b' ∧ cs.getLast? = some '\x7d') :
    ∃ inner, cs = '\x7b' :: inner ++ ['\x7d'] := by
  obtain ⟨rest, rfl⟩ := List.head?_eq_some_iff.mp h.1
  obtain ⟨start, hstart⟩ := List.getLast?_eq_some_iff.mp h.2
  cases start with
  | nil => cases hstart
  | cons c inner =>
    cases hstart
    exact ⟨inner, rfl⟩

/-- Braces have no letter case. -/
theorem map_toLower_eq_braced_iff {cs grouped : List Char} :
    cs.map Char.toLower = '\x7b' :: grouped ++ ['\x7d'] ↔
      ∃ inner, cs = '\x7b' :: inner ++ ['\x7d'] ∧ inner.map Char.toLower = grouped := by
  have hopen : ∀ c : Char, c.toLower = '\x7b' ↔ c = '\x7b' :=
    fun c => Text.toLower_eq_iff (.inr (by decide))
  have hclose : ∀ c : Char, c.toLower = '\x7d' ↔ c = '\x7d' :=
    fun c => Text.toLower_eq_iff (.inr (by decide))
  rw [List.cons_append, List.map_eq_cons_iff]
  constructor
  · rintro ⟨c, rest, rfl, hc, hrest⟩
    obtain ⟨inner, last, rfl, hinner, hlast⟩ := List.map_eq_append_iff.mp hrest
    obtain ⟨d, rfl, hd⟩ := List.map_eq_singleton_iff.mp hlast
    rw [(hopen c).mp hc, (hclose d).mp hd]
    exact ⟨inner, rfl, hinner⟩
  · rintro ⟨inner, rfl, rfl⟩
    refine ⟨_, inner ++ ['\x7d'], rfl, (hopen _).mpr rfl, ?_⟩
    rw [List.map_append, List.map_singleton, (hclose _).mpr rfl]

/-- A text is read as an identifier exactly when in lower case it is one of its forms. -/
theorem ofChars?_eq_some_iff {cs : List Char} {id : SessionId} :
    ofChars? cs = some id ↔ cs.map Char.toLower ∈ id.forms := by
  simp only [forms, List.mem_cons, List.not_mem_nil, or_false]
  constructor
  · intro h
    by_cases hbraces : cs.head? = some '\x7b' ∧ cs.getLast? = some '\x7d'
    · obtain ⟨inner, rfl⟩ := exists_braced hbraces
      rw [ofChars?_braced, ofGrouped?_eq_some_iff] at h
      exact .inr (.inr (.inl (map_toLower_eq_braced_iff.mpr ⟨inner, rfl, h⟩)))
    · rw [ofChars?, if_neg hbraces] at h
      split at h
      · next hscheme =>
        rw [ofGrouped?_eq_some_iff] at h
        refine .inr (.inr (.inr ?_))
        rw [← hscheme, ← h, ← List.map_append, List.take_append_drop]
      · rcases Option.or_eq_some_iff.mp h with hbare | ⟨-, hgrouped⟩
        · exact .inl (ofBare?_eq_some_iff.mp hbare)
        · exact .inr (.inl (ofGrouped?_eq_some_iff.mp hgrouped))
  · rintro (h | h | h | h)
    · obtain ⟨d, hd⟩ := id.exists_head?_digits
      rw [ofChars?_of_digit (h ▸ hd), ofBare?_eq_some_iff.mpr h, Option.some_or]
    · obtain ⟨d, hd⟩ := id.exists_head?_display
      rw [ofChars?_of_digit (h ▸ hd), ofBare?_of_display h, Option.none_or,
        ofGrouped?_eq_some_iff.mpr h]
    · obtain ⟨inner, rfl, hinner⟩ := map_toLower_eq_braced_iff.mp h
      rw [ofChars?_braced, ofGrouped?_eq_some_iff, hinner]
    · obtain ⟨start, rest, rfl, hstart, hrest⟩ := List.map_eq_append_iff.mp h
      rw [ofChars?_of_scheme hstart, ofGrouped?_eq_some_iff, hrest]

end SessionId
end WikiAccess
