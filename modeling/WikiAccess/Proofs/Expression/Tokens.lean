import Mathlib.Data.List.Forall2
import WikiAccess.Expression

/-!
# Reading expressions and writing them back

Reading cuts a text into its tokens and reads each as an atom.  Writing joins the
tokens of the atoms.  Tokens neither are empty nor contain a separator, so cutting
finds them again (`tokens_intercalate`), and an expression that was read is read again
from its own text (`parse_display_of_parse`).
-/

namespace WikiAccess

/-- A list is mapped without an error when each of its elements is. -/
theorem mapM_eq_ok_iff_forall₂ {α β ε : Type} (f : α → Except ε β) (items : List α)
    (results : List β) :
    items.mapM f = .ok results ↔
      List.Forall₂ (fun item result => f item = .ok result) items results := by
  induction items generalizing results with
  | nil =>
    rw [List.mapM_nil, List.forall₂_nil_left_iff]
    exact ⟨fun h => (Except.ok.inj h).symm, fun h => congrArg Except.ok h.symm⟩
  | cons item rest ih =>
    rw [List.mapM_cons, List.forall₂_cons_left_iff]
    cases hitem : f item with
    | error error =>
      refine ⟨nofun, ?_⟩
      rintro ⟨result, -, h, -⟩
      cases h
    | ok result =>
      cases hrest : rest.mapM f with
      | error error =>
        refine ⟨nofun, ?_⟩
        rintro ⟨_, later, -, h, -⟩
        rw [← ih, hrest] at h
        cases h
      | ok later =>
        constructor
        · intro h
          exact ⟨result, later, rfl, (ih later).mp hrest, (Except.ok.inj h).symm⟩
        · rintro ⟨_, others, h, hothers, rfl⟩
          rw [← ih, hrest] at hothers
          rw [Except.ok.inj h, Except.ok.inj hothers]
          rfl

namespace Expression

/-! ## Tokens -/

theorem not_mem_of_mem_splitOn {cs piece : List Char} (h : piece ∈ cs.splitOn '|') :
    '|' ∉ piece := by
  induction cs generalizing piece with
  | nil =>
    rw [List.splitOn_nil, List.mem_singleton] at h
    rw [h]
    exact List.not_mem_nil
  | cons c cs ih =>
    rw [List.splitOn_cons_eq_if_modifyHead] at h
    split at h
    · rcases List.mem_cons.mp h with rfl | h
      · exact List.not_mem_nil
      · exact ih h
    · next hc =>
      obtain ⟨first, rest, hsplit⟩ := List.exists_cons_of_ne_nil (List.splitOn_ne_nil '|' cs)
      rw [hsplit, List.modifyHead_cons] at h
      rcases List.mem_cons.mp h with rfl | h
      · have hfirst : '|' ∉ first := ih (hsplit ▸ List.mem_cons_self)
        exact List.not_mem_cons_of_ne_of_not_mem (fun heq => hc (beq_iff_eq.mpr heq.symm)) hfirst
      · exact ih (hsplit ▸ List.mem_cons_of_mem first h)

theorem ne_nil_of_mem_tokens {cs token : List Char} (h : token ∈ tokens cs) : token ≠ [] :=
  of_decide_eq_true (List.mem_filter.mp h).2

theorem not_mem_of_mem_tokens {cs token : List Char} (h : token ∈ tokens cs) : '|' ∉ token :=
  not_mem_of_mem_splitOn (List.mem_filter.mp h).1

/-- Joined tokens are found again. -/
theorem tokens_intercalate {list : List (List Char)} (hne : ∀ token ∈ list, token ≠ [])
    (hseparator : ∀ token ∈ list, '|' ∉ token) : tokens (['|'].intercalate list) = list := by
  unfold tokens
  cases list with
  | nil => rfl
  | cons first rest =>
    rw [List.splitOn_intercalate '|' hseparator (List.cons_ne_nil first rest)]
    exact List.filter_eq_self.mpr fun token htoken => decide_eq_true (hne token htoken)

/-! ## Reading -/

theorem parse_eq_ok_iff {raw : String} {expression : Expression} :
    parse raw = .ok expression ↔
      expression.atoms ≠ [] ∧
        List.Forall₂ (fun token atom => Atom.ofToken token = .ok atom) (tokens raw.toList)
          expression.atoms := by
  rw [← mapM_eq_ok_iff_forall₂]
  unfold parse
  cases h : (tokens raw.toList).mapM Atom.ofToken with
  | error error => exact ⟨nofun, nofun⟩
  | ok atoms =>
    show (if atoms.isEmpty then Except.error ExpressionError.empty
      else .ok (Expression.mk atoms)) = _ ↔ _
    rw [Except.ok.injEq]
    cases atoms with
    | nil =>
      refine ⟨nofun, ?_⟩
      rintro ⟨hne, hatoms⟩
      exact absurd hatoms.symm hne
    | cons atom rest =>
      constructor
      · intro heq
        rw [← Except.ok.inj heq]
        exact ⟨List.cons_ne_nil atom rest, rfl⟩
      · rintro ⟨-, hatoms⟩
        exact congrArg Except.ok (Expression.ext hatoms)

theorem map_token_of_forall₂ {list : List (List Char)} {atoms : List Atom}
    (h : List.Forall₂ (fun token atom => Atom.ofToken token = .ok atom) list atoms) :
    atoms.map Atom.token = list := by
  induction h with
  | nil => rfl
  | cons htoken _ ih => rw [List.map_cons, Atom.token_of_ofToken htoken, ih]

/-- Reading depends on the tokens of a text alone. -/
theorem parse_congr {raw other : String} (h : tokens raw.toList = tokens other.toList) :
    parse raw = parse other := by
  unfold parse
  rw [h]

theorem tokens_display_of_parse {raw : String} {expression : Expression}
    (h : parse raw = .ok expression) :
    tokens expression.display.toList = tokens raw.toList := by
  rw [display, String.toList_ofList, map_token_of_forall₂ (parse_eq_ok_iff.mp h).2]
  exact tokens_intercalate (fun _ => ne_nil_of_mem_tokens) fun _ => not_mem_of_mem_tokens

/-- The text of an expression that was read reads as the same expression. -/
theorem parse_display_of_parse {raw : String} {expression : Expression}
    (h : parse raw = .ok expression) : parse expression.display = .ok expression := by
  rw [parse_congr (tokens_display_of_parse h), h]

end Expression
end WikiAccess
