import WikiAccess.Proofs.Evaluation.Examination
import WikiAccess.Store.Memory

/-!
# Evaluating while the store is out

A store that fails decides nothing.  Either an evaluation does not need the store, and
then it is the same run with every store (`evaluate_congr_store`), or it fails with the
failure of the store at the atom that needed it.  `outage_decides_nothing` states this
for a store that fails every read, as one with a poisoned lock does, and that for any
store an error is not one of configuration exactly when a read failed.
-/

namespace WikiAccess

theorem MemoryStore.toPageStore_of_poisoned {memory : MemoryStore}
    (h : memory.poisoned = true) :
    memory.toPageStore = .failing (.unavailable "lock poisoned") := by
  show PageStore.mk memory.newest = PageStore.mk _
  congr 1
  funext name
  show memory.access _ = _
  rw [access, if_pos h]
  rfl

theorem EvaluationError.isConfiguration_eq_false_iff {error : EvaluationError} :
    error.isConfiguration = false ↔ ∃ cause, error = .store cause := by
  cases error <;> simp [isConfiguration]

namespace Evaluator

variable {oracle : Oracle} {store : PageStore} {context : Context} {expression : Expression}

/-! ## Evaluations that do not need the store -/

/-- An evaluation that read nothing is the same run with every store. -/
theorem evaluate_congr_store
    (h : (Evaluator.evaluate ⟨oracle, store⟩ context expression).reads = [])
    (other : PageStore) :
    Evaluator.evaluate ⟨oracle, other⟩ context expression =
      Evaluator.evaluate ⟨oracle, store⟩ context expression := by
  have hruns : SameRuns ⟨oracle, store⟩ ⟨oracle, other⟩ context expression := by
    refine sameRuns_of_look fun atom hatom => look_congr_store ?_ oracle store other
    rw [reads_evaluate, Context.rereads, List.filterMap_eq_nil_iff] at h
    exact h atom hatom
  exact hruns.evaluate.symm

/-- A failed read fails the evaluation. -/
theorem result_evaluate_of_failed_read {name : PageName} {error : StoreError}
    (hread : name ∈ (Evaluator.evaluate ⟨oracle, store⟩ context expression).reads)
    (hstore : store.newest name = .error error) :
    (Evaluator.evaluate ⟨oracle, store⟩ context expression).result =
      .error (.store error) := by
  rw [reads_evaluate] at hread
  obtain ⟨atom, hexamined, hreread⟩ := List.mem_filterMap.mp hread
  have hlook : (Evaluator.look ⟨oracle, store⟩ context atom).result = .error (.store error) :=
    result_look_of_failed_read hreread hstore
  have hne : expression.atoms ≠ [] := List.ne_nil_of_mem (List.mem_of_mem_take hexamined)
  rw [result_evaluate_of_ne_nil _ _ hne, result_scan_of_examined_error hexamined hlook]
  rfl

/-- A failure of the store comes from an edit of the pinned revision at hand, which
settled the evaluation. -/
theorem failed_read_of_store_error {cause : StoreError}
    (h : (Evaluator.evaluate ⟨oracle, store⟩ context expression).result =
      .error (.store cause)) :
    ∃ k atom page,
      Evaluator.SettledAt ⟨oracle, store⟩ context expression.atoms k atom ∧
      (Evaluator.judge ⟨oracle, store⟩ context atom).result = .error (.store cause) ∧
      atom.name = "edit" ∧ context.page? = some page ∧ page.version ≠ .latest ∧
      store.newest page.name = .error cause := by
  rcases settledAt_of_error _ _ h with ⟨-, heq⟩ | ⟨k, atom, hsettled, hjudge⟩
  · cases heq
  · have hlook := (result_look ⟨oracle, store⟩ context atom).trans hjudge
    rw [result_look_eq_error_iff] at hlook
    obtain ⟨hname, page, hpage, hpinned, hstore⟩ := Context.storeError_of_resolve hlook
    exact ⟨k, atom, page, hsettled, hjudge, hname, hpage, hpinned, hstore⟩

theorem isConfiguration_eq_false_iff_failed_read {cause : EvaluationError}
    (h : (Evaluator.evaluate ⟨oracle, store⟩ context expression).result = .error cause) :
    cause.isConfiguration = false ↔
      ∃ name ∈ (Evaluator.evaluate ⟨oracle, store⟩ context expression).reads,
        ∃ failure, store.newest name = .error failure := by
  rw [EvaluationError.isConfiguration_eq_false_iff]
  constructor
  · rintro ⟨failure, rfl⟩
    obtain ⟨k, atom, page, hsettled, -, hname, hpage, hpinned, hstore⟩ :=
      failed_read_of_store_error h
    refine ⟨page.name, ?_, failure, hstore⟩
    rw [reads_evaluate, hsettled.examined_eq]
    refine List.mem_filterMap.mpr ⟨atom, List.mem_append_right _ List.mem_cons_self, ?_⟩
    rw [hname]
    exact Context.reread?_edit hpage hpinned
  · rintro ⟨name, hread, failure, hstore⟩
    have hresult := result_evaluate_of_failed_read hread hstore
    exact ⟨failure, Except.error.inj (h.symm.trans hresult)⟩

/-! ## Evaluations with a store that fails every read -/

variable {error : StoreError}

theorem reads_eq_nil_or_result_of_failing :
    (Evaluator.evaluate ⟨oracle, .failing error⟩ context expression).reads = [] ∨
      (Evaluator.evaluate ⟨oracle, .failing error⟩ context expression).result =
        .error (.store error) := by
  cases h : (Evaluator.evaluate ⟨oracle, .failing error⟩ context expression).reads with
  | nil => exact .inl rfl
  | cons name rest =>
    have hread : name ∈
        (Evaluator.evaluate ⟨oracle, .failing error⟩ context expression).reads := by
      rw [h]
      exact List.mem_cons_self
    exact .inr (result_evaluate_of_failed_read hread rfl)

/-- The atoms before the settling one did not need the store. -/
theorem rereads_take_of_failing {k : Nat} {atom : Atom}
    (h : Evaluator.SettledAt ⟨oracle, .failing error⟩ context expression.atoms k atom) :
    context.rereads (expression.atoms.take k) = [] := by
  refine List.filterMap_eq_nil_iff.mpr fun earlier hearlier => ?_
  obtain ⟨i, hi⟩ := List.mem_iff_getElem?.mp hearlier
  rw [List.getElem?_take] at hi
  split at hi
  · next hlt =>
    have hsettles := h.earlier i hlt earlier hi
    rw [← endsScan_look] at hsettles
    rw [Option.eq_none_iff_forall_ne_some]
    intro name hreread
    rw [endsScan_of_error (result_look_of_failed_read hreread rfl)] at hsettles
    cases hsettles
  · cases hi

theorem reads_of_failing {k : Nat} {atom : Atom} {page : Page}
    (h : Evaluator.SettledAt ⟨oracle, .failing error⟩ context expression.atoms k atom)
    (hname : atom.name = "edit") (hpage : context.page? = some page)
    (hpinned : page.version ≠ .latest) :
    (Evaluator.evaluate ⟨oracle, .failing error⟩ context expression).reads = [page.name] := by
  rw [reads_evaluate, h.examined_eq, Context.rereads, List.filterMap_append]
  show context.rereads (expression.atoms.take k) ++ context.rereads [atom] = _
  rw [rereads_take_of_failing h, Context.rereads, List.filterMap_cons, hname,
    Context.reread?_edit hpage hpinned]
  rfl

/-- Failures of the store neither allow nor deny.  Take a store that fails every read
with the same error.  A decision that is reached with it is reached with every store, by
the same questions and without a read.  When the failure of a store comes out, it is
that error, at the edit of the pinned revision at hand, and its read was the only one.
Every other error comes out with every store.

For any store, an error is not one of configuration exactly when a read failed.  A
store whose lock is poisoned is one that fails every read. -/
theorem outage_decides_nothing (oracle : Oracle) (error : StoreError) (context : Context)
    (expression : Expression) :
    let failed := Evaluator.evaluate ⟨oracle, .failing error⟩ context expression
    (∀ decision, failed.result = .ok decision → ∀ store,
      let run := Evaluator.evaluate ⟨oracle, store⟩ context expression
      run.result = .ok decision ∧ run.asked = failed.asked ∧ run.reads = []) ∧
    (∀ cause, failed.result = .error (.store cause) →
      cause = error ∧ ∃ k atom page,
        Evaluator.SettledAt ⟨oracle, .failing error⟩ context expression.atoms k atom ∧
        (Evaluator.judge ⟨oracle, .failing error⟩ context atom).result =
          .error (.store cause) ∧
        atom.name = "edit" ∧ context.page? = some page ∧ page.version ≠ .latest ∧
        failed.reads = [page.name]) ∧
    (∀ cause, failed.result = .error cause → (∀ failure, cause ≠ .store failure) →
      ∀ store, (Evaluator.evaluate ⟨oracle, store⟩ context expression).result =
        .error cause) ∧
    (∀ store cause,
      let run := Evaluator.evaluate ⟨oracle, store⟩ context expression
      run.result = .error cause →
        (cause.isConfiguration = false ↔
          ∃ name ∈ run.reads, ∃ failure, store.newest name = .error failure)) ∧
    (∀ memory : MemoryStore, memory.poisoned = true →
      memory.toPageStore = .failing (.unavailable "lock poisoned")) := by
  intro failed
  -- Unless the failure of the store comes out, nothing was read and no store matters.
  have hsame : (∀ failure, failed.result ≠ .error (.store failure)) →
      failed.reads = [] ∧
        ∀ store, Evaluator.evaluate ⟨oracle, store⟩ context expression = failed := by
    intro hne
    have hreads : failed.reads = [] :=
      reads_eq_nil_or_result_of_failing.resolve_right (hne error)
    exact ⟨hreads, evaluate_congr_store hreads⟩
  refine ⟨?_, ?_, ?_, ?_, fun memory => MemoryStore.toPageStore_of_poisoned⟩
  · intro decision hdecision store run
    obtain ⟨hreads, hevery⟩ := hsame (by simp [hdecision])
    have hrun : run = failed := hevery store
    rw [hrun]
    exact ⟨hdecision, rfl, hreads⟩
  · intro cause hcause
    obtain ⟨k, atom, page, hsettled, hjudge, hname, hpage, hpinned, hstore⟩ :=
      failed_read_of_store_error hcause
    obtain rfl : error = cause := Except.error.inj hstore
    exact ⟨rfl, k, atom, page, hsettled, hjudge, hname, hpage, hpinned,
      reads_of_failing hsettled hname hpage hpinned⟩
  · intro cause hcause hne store
    obtain ⟨-, hevery⟩ := hsame (by simpa [hcause] using hne)
    rw [hevery store, hcause]
  · intro store cause run hcause
    exact isConfiguration_eq_false_iff_failed_read hcause

end Evaluator
end WikiAccess
