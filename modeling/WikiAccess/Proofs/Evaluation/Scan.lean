import Mathlib.Data.List.Forall2
import WikiAccess.Evaluation.Evaluator

/-!
# Where a scan ends

A scan looks at its items in order and ends at the first whose outcome is
effective, or which cannot be looked at.  `examined` is the part of the items up
to and including that one.  The two main statements say that nothing else counts:
`effects_scan`, that a scan has the effects of its examined items, one after the
other, and `decision_scan`, that the item it ends at decides.

They hold for any way of looking at any kind of item, so also when every item
brings a store and an oracle of its own.
-/

namespace WikiAccess

section Scan

variable {α : Type} (look : α → Run EvaluationError Outcome)

/-- Whether a scan ends at an item: it cannot be looked at, or it is effective. -/
def endsScan (item : α) : Bool :=
  match (look item).result with
  | .ok outcome => outcome.effective
  | .error _ => true

/-- The items that a scan looks at. -/
def examined (items : List α) : List α :=
  items.take (items.findIdx (endsScan look) + 1)

variable {look} {item : α}

theorem endsScan_of_error {error : EvaluationError} (h : (look item).result = .error error) :
    endsScan look item = true := by
  simp only [endsScan, h]

theorem endsScan_of_ok {outcome : Outcome} (h : (look item).result = .ok outcome) :
    endsScan look item = outcome.effective := by
  simp only [endsScan, h]

/-! ## One item of a scan

What the scan of a list does depends on how its first item looks, in one of three
ways. -/

theorem scan_cons_of_error {error : EvaluationError}
    (h : (look item).result = .error error) (rest : List α) :
    scan look (item :: rest) = ⟨(look item).effects, .error error⟩ := by
  rw [scan, Run.bind_of_error h]

theorem scan_cons_of_effective {outcome : Outcome}
    (h : (look item).result = .ok outcome) (he : outcome.effective = true)
    (rest : List α) :
    scan look (item :: rest) = ⟨(look item).effects, .ok ([outcome], .allow)⟩ := by
  rw [scan, Run.bind_of_ok h]
  simp [he]

theorem scan_cons_of_not_effective {outcome : Outcome}
    (h : (look item).result = .ok outcome) (he : outcome.effective = false)
    (rest : List α) :
    scan look (item :: rest) =
      ⟨(look item).effects ++ (scan look rest).effects,
        (scan look rest).result.map fun seen => (outcome :: seen.1, seen.2)⟩ := by
  rw [scan, Run.bind_of_ok h]
  cases hr : (scan look rest).result with
  | ok seen => simp [he, Run.bind_of_ok hr, Except.map]
  | error error => simp [he, Run.bind_of_error hr, Except.map]

/-! ## The examined items -/

variable (look)

theorem examined_cons (item : α) (rest : List α) :
    examined look (item :: rest) =
      if endsScan look item then [item] else item :: examined look rest := by
  unfold examined
  cases h : endsScan look item with
  | true => simp [List.findIdx_cons, h]
  | false => simp [List.findIdx_cons, h]

theorem examined_ne_nil {items : List α} (h : items ≠ []) : examined look items ≠ [] := by
  cases items with
  | nil => exact absurd rfl h
  | cons item rest =>
    rw [examined_cons]
    split <;> exact List.cons_ne_nil _ _

theorem examined_of_not_endsScan {items : List α} (h : ∀ item ∈ items, endsScan look item = false) :
    examined look items = items := by
  have hlength : items.findIdx (endsScan look) = items.length := by
    refine List.findIdx_eq_length.mpr ?_
    intro item hitem
    exact h item hitem
  rw [examined, hlength]
  exact List.take_of_length_le (Nat.le_succ _)

/-- A scan has the effects of the items it examined, in order, and no other. -/
theorem effects_scan (items : List α) :
    (scan look items).effects =
      (examined look items).flatMap fun item => (look item).effects := by
  induction items with
  | nil => rfl
  | cons item rest ih =>
    rw [examined_cons]
    cases h : (look item).result with
    | error error =>
      rw [scan_cons_of_error h, endsScan_of_error h]
      simp
    | ok outcome =>
      rw [endsScan_of_ok h]
      cases he : outcome.effective with
      | true =>
        rw [scan_cons_of_effective h he]
        simp
      | false =>
        rw [scan_cons_of_not_effective h he, ih]
        simp

theorem view_scan {γ : Type} (see : Effect → Option γ) (items : List α) :
    (scan look items).view see =
      (examined look items).flatMap fun item => (look item).view see := by
  rw [Run.view, effects_scan, List.filterMap_flatMap]
  rfl

/-- An observer who sees at most one thing of each item sees of a scan what he sees
of the examined items. -/
theorem view_scan_eq_filterMap {γ : Type} {see : Effect → Option γ} {seen : α → Option γ}
    (h : ∀ item, (look item).view see = (seen item).toList) (items : List α) :
    (scan look items).view see = (examined look items).filterMap seen := by
  rw [view_scan, List.filterMap_eq_flatMap_toList]
  exact List.flatMap_congr fun item _ => h item

variable {look} in
theorem decision_scan_cons_of_not_effective {outcome : Outcome}
    (h : (look item).result = .ok outcome) (he : outcome.effective = false)
    (rest : List α) :
    (scan look (item :: rest)).result.map Prod.snd =
      (scan look rest).result.map Prod.snd := by
  rw [scan_cons_of_not_effective h he]
  cases (scan look rest).result <;> rfl

/-- The item that a scan ends at decides it: a failure is the failure of the scan,
and an effective outcome allows.  A scan that reaches the end denies. -/
theorem decision_scan (items : List α) :
    (scan look items).result.map Prod.snd =
      match items.find? (endsScan look) with
      | some item => (look item).result.map fun _ => Decision.allow
      | none => .ok .deny := by
  induction items with
  | nil => rfl
  | cons item rest ih =>
    cases h : (look item).result with
    | error error =>
      rw [scan_cons_of_error h, List.find?_cons, endsScan_of_error h]
      simp [h, Except.map]
    | ok outcome =>
      rw [List.find?_cons, endsScan_of_ok h]
      cases he : outcome.effective with
      | true =>
        rw [scan_cons_of_effective h he]
        simp [h, Except.map]
      | false =>
        rw [decision_scan_cons_of_not_effective h he]
        exact ih

/-! ## What a scan records

A scan that succeeds recorded the outcomes of its examined items, the last of which
tells how it was decided. -/

variable {look}

theorem cases_of_scan_cons {rest : List α} {outcomes : List Outcome} {decision : Decision}
    (h : (scan look (item :: rest)).result = .ok (outcomes, decision)) :
    (∃ outcome, (look item).result = .ok outcome ∧ outcome.effective = true ∧
      outcomes = [outcome] ∧ decision = .allow) ∨
    (∃ outcome later, (look item).result = .ok outcome ∧ outcome.effective = false ∧
      (scan look rest).result = .ok (later, decision) ∧ outcomes = outcome :: later) := by
  cases hlook : (look item).result with
  | error error =>
    rw [scan_cons_of_error hlook] at h
    cases h
  | ok outcome =>
    cases he : outcome.effective with
    | true =>
      rw [scan_cons_of_effective hlook he] at h
      cases h
      exact .inl ⟨outcome, rfl, he, rfl, rfl⟩
    | false =>
      rw [scan_cons_of_not_effective hlook he] at h
      obtain ⟨⟨later, ending⟩, hrest, heq⟩ := Run.map_eq_ok_iff.mp h
      cases heq
      exact .inr ⟨outcome, later, rfl, he, hrest, rfl⟩

/-- The outcomes that a scan recorded are those of its examined items, in order. -/
theorem forall₂_examined_of_scan {items : List α} {outcomes : List Outcome}
    {decision : Decision} (h : (scan look items).result = .ok (outcomes, decision)) :
    List.Forall₂ (fun item outcome => (look item).result = .ok outcome)
      (examined look items) outcomes := by
  induction items generalizing outcomes with
  | nil =>
    cases h
    exact .nil
  | cons item rest ih =>
    rw [examined_cons]
    rcases cases_of_scan_cons h with ⟨outcome, hlook, he, rfl, rfl⟩ |
      ⟨outcome, later, hlook, he, hrest, rfl⟩
    · rw [endsScan_of_ok hlook, he]
      exact .cons hlook .nil
    · rw [endsScan_of_ok hlook, he]
      exact .cons hlook (ih hrest)

theorem effective_dropLast_of_scan {items : List α} {outcomes : List Outcome}
    {decision : Decision} (h : (scan look items).result = .ok (outcomes, decision)) :
    ∀ outcome ∈ outcomes.dropLast, outcome.effective = false := by
  induction items generalizing outcomes with
  | nil =>
    cases h
    exact fun _ hmem => nomatch hmem
  | cons item rest ih =>
    rcases cases_of_scan_cons h with ⟨outcome, -, -, rfl, -⟩ |
      ⟨outcome, later, -, he, hrest, rfl⟩
    · exact fun _ hmem => nomatch hmem
    · intro other hother
      cases later with
      | nil => exact nomatch hother
      | cons next later =>
        rw [List.dropLast_cons_cons, List.mem_cons] at hother
        rcases hother with rfl | hother
        · exact he
        · exact ih hrest other hother

theorem allow_iff_of_scan {items : List α} {outcomes : List Outcome} {decision : Decision}
    (h : (scan look items).result = .ok (outcomes, decision)) :
    decision = .allow ↔ ∃ last, outcomes.getLast? = some last ∧ last.effective = true := by
  induction items generalizing outcomes with
  | nil =>
    cases h
    simp
  | cons item rest ih =>
    rcases cases_of_scan_cons h with ⟨outcome, -, he, rfl, rfl⟩ |
      ⟨outcome, later, -, he, hrest, rfl⟩
    · simp [he]
    · rw [ih hrest]
      cases later with
      | nil => simp [he]
      | cons next later => rw [List.getLast?_cons_cons]

theorem examined_of_scan_deny {items : List α} {outcomes : List Outcome}
    (h : (scan look items).result = .ok (outcomes, .deny)) : examined look items = items := by
  induction items generalizing outcomes with
  | nil => rfl
  | cons item rest ih =>
    rcases cases_of_scan_cons h with ⟨-, -, -, -, hallow⟩ | ⟨outcome, later, hlook, he, hrest, -⟩
    · cases hallow
    · rw [examined_cons, endsScan_of_ok hlook, he, ih hrest]
      rfl

/-- An examined item that cannot be looked at fails the scan. -/
theorem result_scan_of_examined_error {items : List α} {error : EvaluationError}
    (hitem : item ∈ examined look items) (herror : (look item).result = .error error) :
    (scan look items).result = .error error := by
  induction items with
  | nil => exact nomatch hitem
  | cons first rest ih =>
    rw [examined_cons] at hitem
    cases h : (look first).result with
    | error other =>
      rw [endsScan_of_error h, if_pos rfl, List.mem_singleton] at hitem
      rw [hitem] at herror
      rw [scan_cons_of_error herror]
    | ok outcome =>
      have hne : item ≠ first := by
        rintro rfl
        rw [h] at herror
        cases herror
      rw [endsScan_of_ok h] at hitem
      cases he : outcome.effective with
      | true =>
        rw [he, if_pos rfl, List.mem_singleton] at hitem
        exact absurd hitem hne
      | false =>
        rw [he, if_neg Bool.false_ne_true, List.mem_cons] at hitem
        rw [scan_cons_of_not_effective h he, ih (hitem.resolve_left hne)]
        rfl

/-- A scan that succeeds could look at every item it examined. -/
theorem looked_of_mem_examined {items : List α} {seen : List Outcome × Decision}
    (h : (scan look items).result = .ok seen) (hitem : item ∈ examined look items) :
    ∃ outcome, (look item).result = .ok outcome := by
  cases hlook : (look item).result with
  | ok outcome => exact ⟨outcome, rfl⟩
  | error error =>
    rw [result_scan_of_examined_error hitem hlook] at h
    cases h

/-- A scan that fails ended at the first of its items that cannot be looked at. -/
theorem examined_of_scan_error {items : List α} {error : EvaluationError}
    (h : (scan look items).result = .error error) :
    ∃ before last, examined look items = before ++ [last] ∧ (look last).result = .error error ∧
      ∀ earlier ∈ before, ∃ outcome, (look earlier).result = .ok outcome := by
  induction items with
  | nil => cases h
  | cons item rest ih =>
    rw [examined_cons]
    cases hlook : (look item).result with
    | error other =>
      rw [scan_cons_of_error hlook] at h
      cases h
      rw [endsScan_of_error hlook]
      exact ⟨[], item, rfl, hlook, nofun⟩
    | ok outcome =>
      rw [endsScan_of_ok hlook]
      cases he : outcome.effective with
      | true =>
        rw [scan_cons_of_effective hlook he] at h
        cases h
      | false =>
        rw [scan_cons_of_not_effective hlook he] at h
        obtain ⟨before, last, hexamined, hlast, hbefore⟩ := ih (Run.map_eq_error_iff.mp h)
        rw [hexamined]
        refine ⟨item :: before, last, rfl, hlast, ?_⟩
        exact List.forall_mem_cons.mpr ⟨⟨outcome, hlook⟩, hbefore⟩

/-- A scan depends on how its examined items look, and on nothing else. -/
theorem scan_congr {other : α → Run EvaluationError Outcome} {items : List α}
    (h : ∀ item ∈ examined look items, look item = other item) :
    scan look items = scan other items := by
  induction items with
  | nil => rfl
  | cons item rest ih =>
    rw [examined_cons] at h
    cases hlook : (look item).result with
    | error error =>
      rw [endsScan_of_error hlook, if_pos rfl] at h
      have heq := h item (List.mem_singleton_self item)
      rw [scan_cons_of_error hlook, scan_cons_of_error (heq ▸ hlook), heq]
    | ok outcome =>
      rw [endsScan_of_ok hlook] at h
      cases he : outcome.effective with
      | true =>
        rw [he, if_pos rfl] at h
        have heq := h item (List.mem_singleton_self item)
        rw [scan_cons_of_effective hlook he, scan_cons_of_effective (heq ▸ hlook) he, heq]
      | false =>
        rw [he, if_neg Bool.false_ne_true] at h
        have heq := h item List.mem_cons_self
        have hrest := ih fun later hlater => h later (List.mem_cons_of_mem item hlater)
        rw [scan_cons_of_not_effective hlook he,
          scan_cons_of_not_effective (heq ▸ hlook) he, heq, hrest]

theorem looked_of_scan_cons {rest : List α} {seen : List Outcome × Decision}
    (h : (scan look (item :: rest)).result = .ok seen) :
    ∃ outcome, (look item).result = .ok outcome ∧
      (outcome.effective = false → ∃ later, (scan look rest).result = .ok later) := by
  rcases cases_of_scan_cons h with ⟨outcome, hlook, he, -, -⟩ | ⟨outcome, later, hlook, -, hrest, -⟩
  · exact ⟨outcome, hlook, by simp [he]⟩
  · exact ⟨outcome, hlook, fun _ => ⟨_, hrest⟩⟩

/-- Two scans that both succeed are the scan by a third way of looking, if that one looks as
both do wherever both can look. -/
theorem scan_eq_of_both_ok {first second common : α → Run EvaluationError Outcome}
    (h : ∀ item one two, (first item).result = .ok one → (second item).result = .ok two →
      first item = common item ∧ second item = common item)
    {items : List α} {seen other : List Outcome × Decision}
    (hfirst : (scan first items).result = .ok seen)
    (hsecond : (scan second items).result = .ok other) :
    scan first items = scan common items ∧ scan second items = scan common items := by
  induction items generalizing seen other with
  | nil => exact ⟨rfl, rfl⟩
  | cons item rest ih =>
    obtain ⟨one, hone, hrestFirst⟩ := looked_of_scan_cons hfirst
    obtain ⟨two, htwo, hrestSecond⟩ := looked_of_scan_cons hsecond
    obtain ⟨heqFirst, heqSecond⟩ := h item one two hone htwo
    have hcommon : (common item).result = .ok one := heqFirst ▸ hone
    obtain rfl : two = one := by
      rw [heqSecond, hcommon] at htwo
      exact (Except.ok.inj htwo).symm
    cases he : two.effective with
    | true =>
      rw [scan_cons_of_effective hone he, scan_cons_of_effective htwo he,
        scan_cons_of_effective hcommon he, heqFirst, heqSecond]
      exact ⟨rfl, rfl⟩
    | false =>
      obtain ⟨laterFirst, hlaterFirst⟩ := hrestFirst he
      obtain ⟨laterSecond, hlaterSecond⟩ := hrestSecond he
      obtain ⟨hscanFirst, hscanSecond⟩ := ih hlaterFirst hlaterSecond
      rw [scan_cons_of_not_effective hone he, scan_cons_of_not_effective htwo he,
        scan_cons_of_not_effective hcommon he, heqFirst, heqSecond, hscanFirst, hscanSecond]
      exact ⟨rfl, rfl⟩

/-! ## One list after another

The second list of two is only looked at when the first denies. -/

theorem scan_append_of_ne_deny {first : List α}
    (h : (scan look first).result.map Prod.snd ≠ .ok .deny) (second : List α) :
    scan look (first ++ second) = scan look first := by
  induction first with
  | nil => exact absurd rfl h
  | cons item rest ih =>
    rw [List.cons_append]
    cases hlook : (look item).result with
    | error error => rw [scan_cons_of_error hlook, scan_cons_of_error hlook]
    | ok outcome =>
      cases he : outcome.effective with
      | true => rw [scan_cons_of_effective hlook he, scan_cons_of_effective hlook he]
      | false =>
        rw [decision_scan_cons_of_not_effective hlook he] at h
        rw [scan_cons_of_not_effective hlook he, scan_cons_of_not_effective hlook he, ih h]

theorem scan_append_of_deny {first : List α} {outcomes : List Outcome}
    (h : (scan look first).result = .ok (outcomes, .deny)) (second : List α) :
    scan look (first ++ second) =
      ⟨(scan look first).effects ++ (scan look second).effects,
        (scan look second).result.map fun seen => (outcomes ++ seen.1, seen.2)⟩ := by
  induction first generalizing outcomes with
  | nil =>
    cases h
    refine Run.ext rfl ?_
    show (scan look second).result = (scan look second).result.map id
    cases (scan look second).result <;> rfl
  | cons item rest ih =>
    rcases cases_of_scan_cons h with ⟨-, -, -, -, hallow⟩ | ⟨outcome, later, hlook, he, hrest, rfl⟩
    · cases hallow
    · rw [List.cons_append, scan_cons_of_not_effective hlook he,
        scan_cons_of_not_effective hlook he, ih hrest, List.append_assoc]
      cases (scan look second).result <;> rfl

end Scan
end WikiAccess
