import Mathlib.Data.List.Destutter
import Mathlib.Data.List.DropRight
import WikiAccess.Proofs.Expression.Grammar

/-!
# Expressions that read back

Writing an expression that was read gives its text without the empty tokens (`tidy`), so
that reading and writing are inverse up to separators that separate nothing.  An
expression that was built from atoms may write a text that reads as another expression,
or as none.  `parse_display_iff` says which expressions read back, and
`reads_back_exactly` that they are the ones that reading produces.
-/

namespace WikiAccess

/-- What it takes for an atom to be found again in the text of its expression. -/
structure Atom.Legible (atom : Atom) : Prop where
  name_ne_empty : atom.name ≠ ""
  no_separator : '|' ∉ atom.name.toList
  no_negation : atom.negated = false → atom.name.toList.head? ≠ some '!'

namespace Expression

/-! ## Texts without empty tokens -/

/-- The text without the separators at its ends. -/
def trimmed (cs : List Char) : List Char :=
  (cs.dropWhile (· == '|')).rdropWhile (· == '|')

/-- The text with one separator in place of every run of them. -/
def squeezed (cs : List Char) : List Char :=
  cs.destutter fun previous next => previous ≠ '|' ∨ next ≠ '|'

def tidy (cs : List Char) : List Char := squeezed (trimmed cs)

theorem squeezed_cons_of_ne {c : Char} (hc : c ≠ '|') (cs : List Char) :
    squeezed (c :: cs) = c :: squeezed cs := by
  unfold squeezed
  cases cs with
  | nil => rfl
  | cons d cs =>
    rw [List.destutter_cons_cons, if_pos (.inl hc)]
    rfl

theorem squeezed_run_append {run : List Char} (h : '|' ∉ run) (cs : List Char) :
    squeezed (run ++ cs) = run ++ squeezed cs := by
  induction run with
  | nil => rfl
  | cons c run ih =>
    have hc : c ≠ '|' := fun heq => h (heq ▸ List.mem_cons_self)
    have hrun : '|' ∉ run := fun hmem => h (List.mem_cons_of_mem c hmem)
    rw [List.cons_append, squeezed_cons_of_ne hc, ih hrun, List.cons_append]

theorem squeezed_gap_append {gap : List Char} (hne : gap ≠ []) (h : IsGap gap) {c : Char}
    (hc : c ≠ '|') (cs : List Char) :
    squeezed (gap ++ c :: cs) = '|' :: squeezed (c :: cs) := by
  unfold squeezed
  induction gap with
  | nil => contradiction
  | cons g gap ih =>
    obtain ⟨rfl, hgap⟩ := List.forall_mem_cons.mp h
    cases gap with
    | nil =>
      show List.destutter _ ('|' :: c :: cs) = _
      rw [List.destutter_cons_cons, if_pos (.inr hc)]
      rfl
    | cons next gap =>
      have hnext : next = '|' := hgap next List.mem_cons_self
      rw [← ih (List.cons_ne_nil next gap) hgap, hnext]
      show List.destutter _ ('|' :: '|' :: (gap ++ c :: cs)) = _
      rw [List.destutter_cons_cons, if_neg (by simp)]
      rfl

theorem rdropWhile_append_of_ne_nil {p : Char → Bool} {ds : List Char}
    (h : ds.rdropWhile p ≠ []) (cs : List Char) :
    (cs ++ ds).rdropWhile p = cs ++ ds.rdropWhile p := by
  unfold List.rdropWhile at h ⊢
  rw [List.reverse_append, List.dropWhile_append, if_neg (by simpa using h),
    List.reverse_append, List.reverse_reverse]

theorem rdropWhile_run_append_gap {run gap : List Char} (h : '|' ∉ run) (hgap : IsGap gap) :
    (run ++ gap).rdropWhile (· == '|') = run := by
  have hdrop : gap.reverse.dropWhile (· == '|') = [] := by
    rw [List.dropWhile_eq_nil_iff]
    intro c hc
    exact beq_iff_eq.mpr (hgap c (List.mem_reverse.mp hc))
  have hrun : run.rdropWhile (· == '|') = run := by
    rw [List.rdropWhile_eq_self_iff]
    intro hne hlast
    exact h (beq_iff_eq.mp hlast ▸ List.getLast_mem hne)
  rw [List.rdropWhile, List.reverse_append, List.dropWhile_append, hdrop,
    if_pos List.isEmpty_nil]
  exact hrun

/-- Characters at the end of a text go, but its first stays when it is no separator. -/
theorem exists_rdropWhile_cons {c : Char} (hc : c ≠ '|') (cs : List Char) :
    ∃ ds, (c :: cs).rdropWhile (· == '|') = c :: ds := by
  have hne : (c :: cs).rdropWhile (· == '|') ≠ [] := by
    rw [Ne, List.rdropWhile_eq_nil_iff]
    intro hall
    exact hc (beq_iff_eq.mp (hall c List.mem_cons_self))
  obtain ⟨ds, hds⟩ := List.rdropWhile_prefix (· == '|') (l := c :: cs)
  obtain ⟨d, kept, hkept⟩ := List.exists_cons_of_ne_nil hne
  rw [hkept, List.cons_append] at hds
  rw [hkept, (List.cons.inj hds).1]
  exact ⟨kept, rfl⟩

theorem IsRun.exists_cons {run rest : List Char} (h : IsRun run rest) :
    ∃ c cs, run = c :: cs ∧ c ≠ '|' := by
  obtain ⟨c, cs, rfl⟩ := List.exists_cons_of_ne_nil h.ne_nil
  refine ⟨c, cs, rfl, ?_⟩
  intro hc
  exact h.no_separator (hc ▸ List.mem_cons_self)

/-- Two runs have a separator between them. -/
theorem IsRun.gap_ne_nil {run gap next rest : List Char} (h : IsRun run (gap ++ (next ++ rest)))
    (hnext : IsRun next rest) : gap ≠ [] := by
  rintro rfl
  obtain ⟨c, cs, rfl, hc⟩ := hnext.exists_cons
  exact hc (h.stops c rfl)

theorem squeezed_rdropWhile {run rest : List Char} {later : List (List Char)}
    (hrun : IsRun run rest) (h : HasTokens rest later) :
    squeezed ((run ++ rest).rdropWhile (· == '|')) = ['|'].intercalate (run :: later) := by
  induction h generalizing run with
  | nil hgap =>
    have hself := squeezed_run_append hrun.no_separator []
    rw [rdropWhile_run_append_gap hrun.no_separator hgap, List.intercalate_singleton]
    rw [List.append_nil] at hself
    rw [hself]
    exact List.append_nil run
  | @cons cs gap next rest later hgap hnext _ heq ih =>
    subst heq
    have hne : gap ≠ [] := hrun.gap_ne_nil hnext
    obtain ⟨c, tail, rfl, hc⟩ := hnext.exists_cons
    obtain ⟨kept, hkept⟩ := exists_rdropWhile_cons hc (tail ++ rest)
    have hnext := ih hnext
    rw [List.cons_append, hkept] at hnext
    have hdrop : (run ++ (gap ++ (c :: tail ++ rest))).rdropWhile (· == '|') =
        run ++ (gap ++ c :: kept) := by
      rw [← List.append_assoc, rdropWhile_append_of_ne_nil, List.cons_append, hkept,
        List.append_assoc]
      rw [List.cons_append, hkept]
      exact List.cons_ne_nil c kept
    rw [hdrop, squeezed_run_append hrun.no_separator, squeezed_gap_append hne hgap hc, hnext,
      List.intercalate_cons_cons, List.append_assoc]
    rfl

/-- A tidy text is made of the tokens, with one separator between neighbours. -/
theorem tidy_eq (cs : List Char) : tidy cs = ['|'].intercalate (tokens cs) := by
  have htokens : HasTokens cs (tokens cs) := tokens_eq_iff.mp rfl
  generalize tokens cs = list at htokens ⊢
  unfold tidy trimmed
  cases htokens with
  | nil hgap =>
    have hdrop : cs.dropWhile (· == '|') = [] := by
      rw [List.dropWhile_eq_nil_iff]
      intro c hc
      exact beq_iff_eq.mpr (hgap c hc)
    rw [hdrop, List.rdropWhile_nil, List.intercalate_nil]
    rfl
  | @cons _ gap run rest later hgap hrun hlater heq =>
    have hsqueezed := squeezed_rdropWhile hrun hlater
    have hdrop : cs.dropWhile (· == '|') = run ++ rest := by
      obtain ⟨c, tail, rfl, hc⟩ := hrun.exists_cons
      rw [heq, List.dropWhile_append_of_pos fun d hd => beq_iff_eq.mpr (hgap d hd),
        List.cons_append, List.dropWhile_cons_of_neg (by simpa using hc)]
    rw [hdrop, hsqueezed]

theorem display_of_parse {raw : String} {expression : Expression}
    (h : parse raw = .ok expression) :
    expression.display = String.ofList (tidy raw.toList) := by
  rw [tidy_eq, display, map_token_of_forall₂ (parse_eq_ok_iff.mp h).2]

/-- A text is written back as it is when it has no empty token. -/
theorem display_eq_self_iff {raw : String} {expression : Expression}
    (h : parse raw = .ok expression) :
    expression.display = raw ↔ [] ∉ raw.toList.splitOn '|' := by
  rw [display_of_parse h, tidy_eq]
  constructor
  · intro heq hmem
    have hne : tokens raw.toList ≠ [] := (parse_eq_written_iff.mp h).1.1
    have hsplit := List.splitOn_intercalate '|' (fun _ => not_mem_of_mem_tokens) hne
    rw [← String.toList_ofList (l := ['|'].intercalate (tokens raw.toList)), heq] at hsplit
    rw [hsplit] at hmem
    exact ne_nil_of_mem_tokens hmem rfl
  · intro hmem
    have htokens : tokens raw.toList = raw.toList.splitOn '|' := by
      refine List.filter_eq_self.mpr ?_
      intro token htoken
      exact decide_eq_true fun hnil => hmem (hnil ▸ htoken)
    rw [htokens, List.intercalate_splitOn, String.ofList_toList]

/-! ## Atoms that are found again -/

theorem legible_written {token : List Char} (hne : token ≠ []) (hlone : token ≠ ['!'])
    (hseparator : '|' ∉ token) : (Atom.written token).Legible := by
  by_cases hhead : token.head? = some '!'
  · obtain ⟨name, rfl⟩ : ∃ name, token = '!' :: name :=
      ⟨token.tail, (List.cons_head?_tail hhead).symm⟩
    have hname : name ≠ [] := fun hnil => hlone (by rw [hnil])
    refine ⟨?_, ?_, ?_⟩
    · simpa [Atom.written] using hname
    · simpa [Atom.written] using hseparator
    · intro hnegated
      simp [Atom.written] at hnegated
  · refine ⟨?_, ?_, ?_⟩
    · simpa [Atom.written, hhead] using hne
    · simpa [Atom.written, hhead] using hseparator
    · intro _
      simp [Atom.written, hhead]

section Legible

variable {atom : Atom} (h : atom.Legible)

include h

theorem written_token : Atom.written atom.token = atom := by
  obtain ⟨name, negated⟩ := atom
  cases negated with
  | true => simp [Atom.written, Atom.token]
  | false =>
    have hhead : name.toList.head? ≠ some '!' := h.no_negation rfl
    simp [Atom.written, Atom.token, hhead]

theorem token_ne_nil : atom.token ≠ [] := by
  obtain ⟨name, negated⟩ := atom
  cases negated with
  | true => simp [Atom.token]
  | false => simpa [Atom.token] using h.name_ne_empty

theorem token_ne_lone : atom.token ≠ ['!'] := by
  obtain ⟨name, negated⟩ := atom
  cases negated with
  | true => simpa [Atom.token] using h.name_ne_empty
  | false =>
    intro hlone
    have hname : name.toList = ['!'] := hlone
    refine h.no_negation rfl ?_
    show name.toList.head? = some '!'
    rw [hname]
    rfl

theorem not_mem_token : '|' ∉ atom.token := by
  obtain ⟨name, negated⟩ := atom
  cases negated with
  | true => simpa [Atom.token] using h.no_separator
  | false => simpa [Atom.token] using h.no_separator

end Legible

/-! ## Expressions that read back -/

theorem legible_of_parse {raw : String} {expression : Expression}
    (h : parse raw = .ok expression) :
    expression.atoms ≠ [] ∧ ∀ atom ∈ expression.atoms, atom.Legible := by
  obtain ⟨⟨hne, hlone⟩, hatoms⟩ := parse_eq_written_iff.mp h
  rw [hatoms]
  refine ⟨by simpa using hne, ?_⟩
  intro atom hatom
  obtain ⟨token, htoken, rfl⟩ := List.mem_map.mp hatom
  apply legible_written
  · exact ne_nil_of_mem_tokens htoken
  · intro heq
    exact hlone (heq ▸ htoken)
  · exact not_mem_of_mem_tokens htoken

theorem parse_display_of_legible {expression : Expression} (hne : expression.atoms ≠ [])
    (h : ∀ atom ∈ expression.atoms, atom.Legible) :
    parse expression.display = .ok expression := by
  have htokens : tokens expression.display.toList = expression.atoms.map Atom.token := by
    rw [display, String.toList_ofList]
    apply tokens_intercalate
    · intro token htoken
      obtain ⟨atom, hatom, rfl⟩ := List.mem_map.mp htoken
      exact token_ne_nil (h atom hatom)
    · intro token htoken
      obtain ⟨atom, hatom, rfl⟩ := List.mem_map.mp htoken
      exact not_mem_token (h atom hatom)
  rw [parse_eq_written_iff, htokens]
  refine ⟨⟨by simpa using hne, ?_⟩, ?_⟩
  · intro hlone
    obtain ⟨atom, hatom, heq⟩ := List.mem_map.mp hlone
    exact token_ne_lone (h atom hatom) heq
  · have hwritten : ∀ atom ∈ expression.atoms, (Atom.written ∘ Atom.token) atom = id atom :=
      fun atom hatom => written_token (h atom hatom)
    rw [List.map_map, List.map_congr_left hwritten, List.map_id]

theorem parse_display_iff {expression : Expression} :
    parse expression.display = .ok expression ↔
      expression.atoms ≠ [] ∧ ∀ atom ∈ expression.atoms, atom.Legible := by
  constructor
  · exact legible_of_parse
  · rintro ⟨hne, hlegible⟩
    exact parse_display_of_legible hne hlegible

/-- Reading and writing are inverse exactly on what can be read.  An expression that was
read is read again from its own text, which is the text it came from made tidy.  So
tidying by reading and writing changes nothing the second time, and it changes nothing
the first time exactly for the texts that have no empty token.  An expression, however
built, reads back from its own text exactly when it has atoms and each is legible, and
these are exactly the expressions that some text reads as. -/
theorem reads_back_exactly :
    (∀ raw expression, parse raw = .ok expression →
      parse expression.display = .ok expression ∧
      expression.display = String.ofList (tidy raw.toList) ∧
      (expression.display = raw ↔ [] ∉ raw.toList.splitOn '|')) ∧
    (∀ raw text, (parse raw).map display = .ok text →
      (parse text).map display = .ok text) ∧
    (∀ expression : Expression,
      let readable := expression.atoms ≠ [] ∧ ∀ atom ∈ expression.atoms, atom.Legible
      (parse expression.display = .ok expression ↔ readable) ∧
      ((∃ raw, parse raw = .ok expression) ↔ readable)) := by
  refine ⟨?_, ?_, ?_⟩
  · intro raw expression h
    exact ⟨parse_display_of_parse h, display_of_parse h, display_eq_self_iff h⟩
  · intro raw text h
    cases hparse : parse raw with
    | error cause =>
      rw [hparse] at h
      cases h
    | ok expression =>
      rw [hparse] at h
      obtain rfl : expression.display = text := Except.ok.inj h
      rw [parse_display_of_parse hparse]
      rfl
  · intro expression readable
    refine ⟨parse_display_iff, ?_, ?_⟩
    · rintro ⟨raw, hraw⟩
      exact legible_of_parse hraw
    · intro hreadable
      exact ⟨expression.display, parse_display_iff.mpr hreadable⟩

/-- A name that begins with `!` reads as a negation, and one with a separator as two. -/
example :
    parse (Expression.mk [⟨"!edit", false⟩]).display = .ok ⟨[⟨"edit", true⟩]⟩ ∧
      parse (Expression.mk [⟨"edit|view", false⟩]).display =
        .ok ⟨[⟨"edit", false⟩, ⟨"view", false⟩]⟩ := by
  decide

end Expression
end WikiAccess
