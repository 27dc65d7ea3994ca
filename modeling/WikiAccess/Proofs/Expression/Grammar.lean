import WikiAccess.Proofs.Expression.Tokens

/-!
# The grammar of permission expressions

A token is a maximal run of characters other than the separator.  `HasTokens` lists the
tokens of a text in these terms, from its beginning to its end: a gap of separators, a
run that stops at a separator or at the end, and then the tokens of what follows.
Cutting a text at its separators finds the same (`tokens_eq_iff`), and
`parse_accepts_grammar` says for every text, in terms of its tokens, what reading it
comes to.
-/

namespace WikiAccess

/-- The atom that a token writes: negated when a `!` leads it, and named by the token
without that one `!`. -/
def Atom.written (token : List Char) : Atom where
  name := String.ofList (if token.head? = some '!' then token.tail else token)
  negated := token.head? = some '!'

namespace Expression

/-! ## Runs of characters -/

def IsGap (cs : List Char) : Prop := ∀ c ∈ cs, c = '|'

/-- A run of characters other than the separator that what follows does not lengthen. -/
structure IsRun (run rest : List Char) : Prop where
  ne_nil : run ≠ []
  no_separator : '|' ∉ run
  stops : ∀ c, rest.head? = some c → c = '|'

/-- The tokens of a text in order, and nothing but separators around them. -/
inductive HasTokens : List Char → List (List Char) → Prop
  | nil {cs : List Char} : IsGap cs → HasTokens cs []
  | cons {cs gap run rest : List Char} {later : List (List Char)} :
    IsGap gap → IsRun run rest → HasTokens rest later → cs = gap ++ (run ++ rest) →
    HasTokens cs (run :: later)

theorem isGap_nil : IsGap [] := fun _ h => nomatch h

theorem isGap_cons {cs : List Char} (h : IsGap cs) : IsGap ('|' :: cs) :=
  List.forall_mem_cons.mpr ⟨rfl, h⟩

/-! ## Cutting finds the tokens -/

theorem tokens_append_separator (cs ds : List Char) :
    tokens (cs ++ '|' :: ds) = tokens cs ++ tokens ds := by
  unfold tokens
  rw [List.splitOn_append_cons_self, List.filter_append]

theorem tokens_separator_cons (cs : List Char) : tokens ('|' :: cs) = tokens cs :=
  tokens_append_separator [] cs

theorem tokens_gap_append {gap : List Char} (h : IsGap gap) (cs : List Char) :
    tokens (gap ++ cs) = tokens cs := by
  induction gap with
  | nil => rfl
  | cons c gap ih =>
    obtain ⟨rfl, hgap⟩ := List.forall_mem_cons.mp h
    rw [List.cons_append, tokens_separator_cons, ih hgap]

theorem tokens_run {run : List Char} (hne : run ≠ []) (h : '|' ∉ run) :
    tokens run = [run] := by
  unfold tokens
  rw [List.splitOn_eq_singleton h]
  simp [hne]

theorem tokens_run_append {run rest : List Char} (h : IsRun run rest) :
    tokens (run ++ rest) = run :: tokens rest := by
  have hrun : tokens run = [run] := tokens_run h.ne_nil h.no_separator
  cases rest with
  | nil =>
    rw [List.append_nil, hrun]
    rfl
  | cons c rest =>
    obtain rfl : c = '|' := h.stops c rfl
    rw [tokens_append_separator, hrun, tokens_separator_cons]
    rfl

theorem tokens_eq_of_hasTokens {cs : List Char} {list : List (List Char)}
    (h : HasTokens cs list) : tokens cs = list := by
  induction h with
  | nil hgap =>
    have hcut := tokens_gap_append hgap []
    rw [List.append_nil] at hcut
    exact hcut
  | cons hgap hrun _ heq ih =>
    rw [heq, tokens_gap_append hgap, tokens_run_append hrun, ih]

/-! Every text has tokens, since one more character in front widens the first gap,
lengthens the first run or begins a run of its own. -/

theorem HasTokens.separator_cons {cs : List Char} {list : List (List Char)}
    (h : HasTokens cs list) : HasTokens ('|' :: cs) list := by
  cases h with
  | nil hgap => exact .nil (isGap_cons hgap)
  | cons hgap hrun hlater heq =>
    refine .cons (isGap_cons hgap) hrun hlater ?_
    rw [heq]
    rfl

theorem isRun_singleton {c : Char} (hc : c ≠ '|') {cs : List Char}
    (hcs : ∀ d, cs.head? = some d → d = '|') : IsRun [c] cs :=
  ⟨List.cons_ne_nil c [], by simpa using Ne.symm hc, hcs⟩

theorem IsRun.cons {c : Char} (hc : c ≠ '|') {run rest : List Char} (h : IsRun run rest) :
    IsRun (c :: run) rest :=
  ⟨List.cons_ne_nil c run, List.not_mem_cons_of_ne_of_not_mem (Ne.symm hc) h.no_separator,
    h.stops⟩

theorem HasTokens.exists_cons {c : Char} (hc : c ≠ '|') {cs : List Char}
    {list : List (List Char)} (h : HasTokens cs list) : ∃ more, HasTokens (c :: cs) more := by
  by_cases hcs : ∀ d, cs.head? = some d → d = '|'
  · exact ⟨[c] :: list, .cons isGap_nil (isRun_singleton hc hcs) h rfl⟩
  · -- The text begins with a run already, which the character joins.
    cases h with
    | nil hgap =>
      refine absurd (fun d hd => ?_) hcs
      exact hgap d (List.mem_of_head? hd)
    | @cons _ gap run rest later hgap hrun hlater heq =>
      cases gap with
      | nil =>
        refine ⟨(c :: run) :: later, .cons isGap_nil (hrun.cons hc) hlater ?_⟩
        rw [heq]
        rfl
      | cons g gap =>
        refine absurd (fun d hd => ?_) hcs
        rw [heq] at hd
        have hg : g = '|' := hgap g List.mem_cons_self
        rw [← Option.some_inj.mp hd, hg]

theorem exists_hasTokens (cs : List Char) : ∃ list, HasTokens cs list := by
  induction cs with
  | nil => exact ⟨[], .nil isGap_nil⟩
  | cons c cs ih =>
    obtain ⟨list, hlist⟩ := ih
    by_cases hc : c = '|'
    · subst hc
      exact ⟨list, hlist.separator_cons⟩
    · exact hlist.exists_cons hc

theorem tokens_eq_iff {cs : List Char} {list : List (List Char)} :
    tokens cs = list ↔ HasTokens cs list := by
  constructor
  · intro h
    obtain ⟨found, hfound⟩ := exists_hasTokens cs
    rw [← h, tokens_eq_of_hasTokens hfound]
    exact hfound
  · exact tokens_eq_of_hasTokens

theorem tokens_eq_nil_iff {cs : List Char} : tokens cs = [] ↔ IsGap cs := by
  rw [tokens_eq_iff]
  constructor
  · intro h
    cases h with
    | nil hgap => exact hgap
  · exact .nil

/-! ## Reading tokens -/

theorem ofToken_eq {token : List Char} (hne : token ≠ []) :
    Atom.ofToken token =
      if token = ['!'] then .error (.malformedAtom "!") else .ok (Atom.written token) := by
  unfold Atom.ofToken
  split
  · contradiction
  · rfl
  · next name hname =>
    have hlone : '!' :: name ≠ ['!'] := fun h => hname (List.cons.inj h).2
    rw [if_neg hlone]
    rfl
  · next hlone hbang =>
    have hhead : token.head? ≠ some '!' := by
      intro hhead
      exact hbang token.tail (List.cons_head?_tail hhead).symm
    rw [if_neg hlone]
    simp [Atom.written, hhead]

theorem mapM_ofToken {list : List (List Char)} (hne : ∀ token ∈ list, token ≠ []) :
    list.mapM Atom.ofToken =
      if ['!'] ∈ list then .error (.malformedAtom "!") else .ok (list.map Atom.written) := by
  induction list with
  | nil => rfl
  | cons token rest ih =>
    obtain ⟨htoken, hrest⟩ := List.forall_mem_cons.mp hne
    rw [List.mapM_cons, ih hrest, ofToken_eq htoken]
    by_cases hlone : token = ['!']
    · rw [if_pos hlone, if_pos (List.mem_cons.mpr (.inl hlone.symm))]
      rfl
    · have hmem : ['!'] ∈ token :: rest ↔ ['!'] ∈ rest := by simp [Ne.symm hlone]
      rw [if_neg hlone]
      by_cases hlater : ['!'] ∈ rest
      · rw [if_pos hlater, if_pos (hmem.mpr hlater)]
        rfl
      · rw [if_neg hlater, if_neg (mt hmem.mp hlater)]
        rfl

theorem parse_eq (raw : String) :
    parse raw =
      if ['!'] ∈ tokens raw.toList then .error (.malformedAtom "!")
      else if tokens raw.toList = [] then .error .empty
      else .ok ⟨(tokens raw.toList).map Atom.written⟩ := by
  unfold parse
  rw [mapM_ofToken fun _ => ne_nil_of_mem_tokens]
  by_cases hlone : ['!'] ∈ tokens raw.toList
  · rw [if_pos hlone, if_pos hlone]
    rfl
  · rw [if_neg hlone, if_neg hlone]
    by_cases hnil : tokens raw.toList = []
    · rw [if_pos hnil, hnil]
      rfl
    · rw [if_neg hnil]
      show (if ((tokens raw.toList).map Atom.written).isEmpty then _ else _) = _
      rw [if_neg (by simpa using hnil)]

section Outcomes

variable {raw : String}

theorem parse_eq_malformed_iff {text : String} :
    parse raw = .error (.malformedAtom text) ↔
      text = "!" ∧ ['!'] ∈ tokens raw.toList := by
  rw [parse_eq]
  by_cases hlone : ['!'] ∈ tokens raw.toList
  · simp [hlone, eq_comm]
  · by_cases hnil : tokens raw.toList = [] <;> simp [hlone, hnil]

theorem parse_eq_empty_iff : parse raw = .error .empty ↔ tokens raw.toList = [] := by
  rw [parse_eq]
  by_cases hlone : ['!'] ∈ tokens raw.toList
  · simp [hlone, List.ne_nil_of_mem hlone]
  · by_cases hnil : tokens raw.toList = [] <;> simp [hnil, hlone]

theorem parse_eq_written_iff {expression : Expression} :
    parse raw = .ok expression ↔
      (tokens raw.toList ≠ [] ∧ ['!'] ∉ tokens raw.toList) ∧
        expression.atoms = (tokens raw.toList).map Atom.written := by
  rw [parse_eq]
  by_cases hlone : ['!'] ∈ tokens raw.toList
  · simp [hlone]
  · by_cases hnil : tokens raw.toList = []
    · simp [hnil]
    · simp [hlone, hnil, Expression.ext_iff, eq_comm]

end Outcomes

/-- Reading accepts exactly the grammar.  A text has its tokens, and only one list of
them.  It is malformed exactly when some token is nothing but `!`, and no other token is
ever reported.  It is empty exactly when it has no token, being made of separators, which
no malformed text is.  Every other text reads as the atoms that its tokens write, in
order. -/
theorem parse_accepts_grammar (raw : String) :
    ∃ list, HasTokens raw.toList list ∧
      (∀ other, HasTokens raw.toList other → other = list) ∧
      (parse raw = .error (.malformedAtom "!") ↔ ['!'] ∈ list) ∧
      (∀ text, parse raw = .error (.malformedAtom text) → text = "!") ∧
      (parse raw = .error .empty ↔ list = []) ∧
      (list = [] ↔ ∀ c ∈ raw.toList, c = '|') ∧
      ¬ (['!'] ∈ list ∧ list = []) ∧
      (∀ expression, parse raw = .ok expression ↔
        (list ≠ [] ∧ ['!'] ∉ list) ∧ expression.atoms = list.map Atom.written) := by
  refine ⟨tokens raw.toList, tokens_eq_iff.mp rfl, ?_, ?_, ?_, parse_eq_empty_iff,
    tokens_eq_nil_iff, ?_, fun _ => parse_eq_written_iff⟩
  · intro other hother
    exact (tokens_eq_of_hasTokens hother).symm
  · rw [parse_eq_malformed_iff, and_iff_right rfl]
  · intro text htext
    exact (parse_eq_malformed_iff.mp htext).1
  · rintro ⟨hlone, hnil⟩
    exact List.ne_nil_of_mem hlone hnil

/-- Empty tokens are skipped, only the first `!` negates and blanks are kept. -/
example : parse "|!!edit|| view|" = .ok ⟨[⟨"!edit", true⟩, ⟨" view", false⟩]⟩ := by decide

end Expression
end WikiAccess
