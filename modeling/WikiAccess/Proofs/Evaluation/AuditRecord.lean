import WikiAccess.Policy
import WikiAccess.Proofs.Evaluation.EntryPoints
import WikiAccess.Proofs.Log.Entry

/-!
# The log of an evaluation as an audit record

When neither who decides nor the store adds anything of its own, the log of an evaluation is
made of one part for each atom that was looked at, between an opening and a closing entry.
The main statement, `log_is_audit_record`, gives that log entry by entry, and says that two
evaluations with the same log came to the same.
-/

namespace WikiAccess

def Effect.entry? (effect : Effect) : Option Log.Entry := effect.logged?.map Log.Event.entry

/-- What the log of a run looks like. -/
def Run.entries {ε α : Type} (run : Run ε α) : List Log.Entry := run.view Effect.entry?

/-- Who decides: a policy, which writes to the log through which principal it grants, or
anyone who writes nothing. -/
inductive Decider where
  | granting (policy : Policy)
  | silent (holds : Session → Permission → Bool)

namespace Decider

def oracle : Decider → Oracle
  | .granting policy => policy.oracle
  | .silent holds => .silent holds

/-- The principal that goes to the log. -/
def granter? : Decider → Session → Permission → Option String
  | .granting policy => policy.granter?
  | .silent _ => fun _ _ => none

theorem entries_ask {ε : Type} (decider : Decider) (session : Session) (permission : Permission) :
    (decider.oracle.ask session permission : Run ε Bool).entries =
      (decider.granter? session permission).toList.map (.granted permission) := by
  cases decider with
  | silent holds => rfl
  | granting policy =>
    show (Effect.asked session permission :: ((policy.granter? session permission).toList.map
      fun principal => Log.Event.granted permission principal).map Effect.logged).filterMap
        Effect.entry? = ((policy.granter? session permission).toList.map _)
    cases policy.granter? session permission <;> rfl

end Decider

/-- Where expressions are evaluated: who decides, what is read, and against what. -/
structure EvaluationSetup where
  decider : Decider
  store : PageStore
  context : Context

namespace EvaluationSetup

variable (setup : EvaluationSetup)

def evaluator : Evaluator := ⟨setup.decider.oracle, setup.store⟩

def resolve (name : String) : Run EvaluationError Resolution :=
  setup.context.resolve setup.store name

def look (atom : Atom) : Run EvaluationError Outcome :=
  setup.evaluator.look setup.context atom

def evaluate (expression : Expression) : Run EvaluationError Decision :=
  setup.evaluator.evaluate setup.context expression

def trace (expression : Expression) : Run EvaluationError Trace :=
  setup.evaluator.trace setup.context expression

def evaluateText (raw : String) : Run EvaluationError Decision :=
  setup.evaluator.evaluateText setup.context raw

/-- The atoms that an evaluation looks at. -/
def examined (expression : Expression) : List Atom :=
  WikiAccess.examined setup.look expression.atoms

/-- The part of the log for one atom, which is empty for an atom that fails. -/
def record (atom : Atom) : List Log.Entry :=
  match (setup.resolve atom.name).result with
  | .ok (.check permission) =>
    (setup.decider.granter? setup.context.session permission).toList.map
        (.granted permission) ++
      [.judged atom (setup.decider.oracle.holds setup.context.session permission)]
  | .ok (.stale edit) => [.staleEdit edit, .judged atom false]
  | .error _ => []

/-- The log of an evaluation after its opening. -/
def body (expression : Expression) : List Log.Entry :=
  (setup.examined expression).flatMap setup.record ++
    [.closing (setup.examined expression).getLast? (setup.evaluate expression).result]

/-- The atoms that did not fail, with their answers before negation. -/
def judgements (expression : Expression) : List (Atom × Bool) :=
  (setup.examined expression).filterMap fun atom =>
    (setup.look atom).result.toOption.map fun outcome => (outcome.atom, outcome.raw)

end EvaluationSetup

/-! ## One atom -/

theorem Context.entries_resolve (context : Context) (store : PageStore) (name : String) :
    (context.resolve store name).entries =
      match (context.resolve store name).result with
      | .ok (.stale edit) => [.staleEdit edit]
      | _ => [] := by
  cases hreread : context.reread? name with
  | none =>
    rcases resolve_of_reread?_eq_none hreread with ⟨permission, hrun⟩ | ⟨required, hrun⟩
    · rw [hrun store]
      rfl
    · rw [hrun store]
      rfl
  | some pageName =>
    obtain ⟨rfl, page, hpage, hpinned, -⟩ := reread?_eq_some_iff.mp hreread
    have hneeds : needsNewest ⟨"edit"⟩ page = true := (needsNewest_iff _ _).mpr ⟨rfl, hpinned⟩
    rw [resolve_of_pageScoped rfl hpage]
    cases hstore : store.newest page.name with
    | error error =>
      rw [resolveOnPage_of_error hneeds hstore]
      rfl
    | ok newest =>
      rw [resolveOnPage_of_newest hneeds hstore]
      by_cases hnewest : newest.map Page.version = some page.version
      · rw [if_pos hnewest]
        rfl
      · rw [if_neg hnewest]
        rfl

namespace EvaluationSetup

variable (setup : EvaluationSetup)

theorem entries_find (name : String) :
    (setup.evaluator.find setup.context name).entries =
      match (setup.resolve name).result with
      | .ok (.check permission) =>
        (setup.decider.granter? setup.context.session permission).toList.map
          (.granted permission)
      | .ok (.stale edit) => [.staleEdit edit]
      | .error _ => [] := by
  have hentries := setup.context.entries_resolve setup.store name
  unfold Evaluator.find resolve
  cases h : (setup.context.resolve setup.store name).result with
  | error error =>
    rw [h] at hentries
    exact (Run.view_bind_of_error h _).trans hentries
  | ok resolution =>
    rw [h] at hentries
    refine (Run.view_bind_of_ok h _).trans ?_
    cases resolution with
    | stale edit => exact congrArg (· ++ []) hentries
    | check permission =>
      refine (congrArg (· ++ _) hentries).trans ?_
      refine (Run.view_bind_of_silent _ fun _ => rfl).trans ?_
      exact setup.decider.entries_ask setup.context.session permission

variable {setup}

theorem entries_look_of_error {atom : Atom} {error : EvaluationError}
    (h : (setup.look atom).result = .error error) :
    (setup.look atom).entries = [.failed atom error] ∧ setup.record atom = [] := by
  have hresolve : (setup.resolve atom.name).result = .error error :=
    Evaluator.result_look_eq_error_iff.mp h
  have hfind : (setup.evaluator.find setup.context atom.name).result = .error error := by
    rw [Evaluator.result_find]
    exact congrArg _ hresolve
  have hentries := setup.entries_find atom.name
  rw [hresolve] at hentries
  refine ⟨?_, ?_⟩
  · rw [look, Evaluator.look_of_not_found hfind, Run.entries, Run.view, List.filterMap_append]
    exact congrArg (· ++ _) hentries
  · rw [record, hresolve]

theorem entries_look_of_ok {atom : Atom} {outcome : Outcome}
    (h : (setup.look atom).result = .ok outcome) :
    (setup.look atom).entries = setup.record atom := by
  obtain ⟨resolution, hresolve, -⟩ := Evaluator.resolution_of_look h
  have hfind : (setup.evaluator.find setup.context atom.name).result =
      .ok (setup.evaluator.answer setup.context resolution) := by
    rw [Evaluator.result_find, hresolve]
    rfl
  have hentries := setup.entries_find atom.name
  have hresult : (setup.resolve atom.name).result = .ok resolution := hresolve
  rw [hresult] at hentries
  rw [look, Evaluator.look_of_found hfind, Run.entries, Run.view, List.filterMap_append, record,
    hresult]
  cases resolution with
  | stale edit => exact congrArg (· ++ _) hentries
  | check permission => exact congrArg (· ++ _) hentries

/-! ## The atoms of an expression -/

theorem entries_scan_of_ok {atoms : List Atom} {seen : List Outcome × Decision}
    (h : (scan setup.look atoms).result = .ok seen) :
    (scan setup.look atoms).entries =
      (WikiAccess.examined setup.look atoms).flatMap setup.record := by
  refine (view_scan _ _ _).trans (List.flatMap_congr ?_)
  intro atom hatom
  cases hlook : (setup.look atom).result with
  | ok outcome => exact entries_look_of_ok hlook
  | error error =>
    rw [result_scan_of_examined_error hatom hlook] at h
    cases h

theorem entries_scan_of_error {atoms : List Atom} {error : EvaluationError}
    (h : (scan setup.look atoms).result = .error error) :
    ∃ last, (WikiAccess.examined setup.look atoms).getLast? = some last ∧
      (setup.look last).result = .error error ∧
      (scan setup.look atoms).entries =
        (WikiAccess.examined setup.look atoms).flatMap setup.record ++
          [.failed last error] := by
  -- The atom that fails has no record: its one entry is the closing one.
  obtain ⟨before, last, hexamined, hlast, hbefore⟩ := examined_of_scan_error h
  have hrecords : before.flatMap (fun atom => (setup.look atom).entries) =
      before.flatMap setup.record := by
    refine List.flatMap_congr ?_
    intro atom hatom
    obtain ⟨outcome, hlook⟩ := hbefore atom hatom
    exact entries_look_of_ok hlook
  obtain ⟨hfailed, hnone⟩ := entries_look_of_error hlast
  refine ⟨last, ?_, hlast, ?_⟩
  · rw [hexamined, List.getLast?_concat]
  · refine (view_scan _ _ _).trans ?_
    rw [hexamined, List.flatMap_append, List.flatMap_append, List.flatMap_singleton,
      List.flatMap_singleton, hnone, List.append_nil]
    exact congrArg₂ _ hrecords hfailed

/-! ## Evaluating an expression -/

theorem entries_examine (expression : Expression) :
    (setup.evaluator.examine setup.context expression).entries = setup.body expression := by
  obtain ⟨atoms⟩ := expression
  by_cases hne : atoms = []
  · subst hne
    rfl
  · rw [Evaluator.examine_of_ne_nil _ _ hne, body, evaluate,
      Evaluator.result_evaluate_of_ne_nil _ _ hne]
    cases hscan : (scan (setup.evaluator.look setup.context) atoms).result with
    | error error =>
      obtain ⟨last, hlast, -, hentries⟩ := entries_scan_of_error hscan
      refine (Run.view_bind_of_error hscan _).trans (hentries.trans ?_)
      rw [examined, hlast]
      rfl
    | ok seen =>
      refine (Run.view_bind_of_ok hscan _).trans ?_
      exact congrArg (· ++ _) (entries_scan_of_ok hscan)

theorem entries_evaluate (expression : Expression) :
    (setup.evaluate expression).entries =
      .opening expression setup.context.session.id :: setup.body expression := by
  refine (Run.view_bind_of_ok rfl _).trans ?_
  refine congrArg (_ :: ·) ((Run.view_bind_of_silent _ fun _ => rfl).trans ?_)
  exact entries_examine expression

theorem entries_trace (expression : Expression) :
    (setup.trace expression).entries = setup.body expression :=
  (Run.view_bind_of_silent _ fun _ => rfl).trans (entries_examine expression)

/-! ## What the log tells -/

theorem granted_mem_record_iff {policy : Policy} (hdecider : setup.decider = .granting policy)
    {atom : Atom} {permission : Permission}
    (h : (setup.resolve atom.name).result = .ok (.check permission)) :
    (∃ principal, Log.Entry.granted permission principal ∈ setup.record atom) ↔
      policy.holds setup.context.session permission = true := by
  rw [record, h, hdecider, Policy.holds, Option.isSome_iff_exists]
  refine exists_congr fun principal => ?_
  rw [List.mem_append, List.mem_map]
  constructor
  · rintro (⟨granter, hgranter, heq⟩ | hjudged)
    · simp only [Log.Entry.granted, Log.Entry.message, Log.Entry.mk.injEq, List.cons.injEq,
        Prod.mk.injEq, Log.Field.text.injEq, true_and, and_true] at heq
      exact heq ▸ Option.mem_toList.mp hgranter
    · cases List.mem_singleton.mp hjudged
  · intro hgranter
    exact .inl ⟨principal, Option.mem_toList.mpr hgranter, rfl⟩

theorem isClosing_of_mem_record {atom : Atom} {entry : Log.Entry}
    (h : entry ∈ setup.record atom) : entry.isClosing = false := by
  unfold record at h
  cases hresolve : (setup.resolve atom.name).result with
  | error error =>
    rw [hresolve] at h
    cases h
  | ok resolution =>
    rw [hresolve] at h
    cases resolution with
    | stale edit =>
      rcases List.mem_pair.mp h with rfl | rfl
      · rfl
      · rfl
    | check permission =>
      rcases List.mem_append.mp h with hgranted | hjudged
      · obtain ⟨principal, -, rfl⟩ := List.mem_map.mp hgranted
        rfl
      · rw [List.mem_singleton.mp hjudged]
        rfl

theorem closing_of_body (expression : Expression) :
    (setup.body expression).filter Log.Entry.isClosing =
      [.closing (setup.examined expression).getLast? (setup.evaluate expression).result] := by
  have hrecords : ((setup.examined expression).flatMap setup.record).filter
      Log.Entry.isClosing = [] := by
    refine List.filter_eq_nil_iff.mpr ?_
    intro entry hentry
    obtain ⟨atom, -, hrecord⟩ := List.mem_flatMap.mp hentry
    rw [isClosing_of_mem_record hrecord]
    exact Bool.false_ne_true
  rw [body, List.filter_append, hrecords, List.filter_singleton, Log.Entry.isClosing_closing]
  rfl

theorem judgement_of_record (atom : Atom) :
    (setup.record atom).filterMap Log.Entry.judged? =
      ((setup.look atom).result.toOption.map fun outcome =>
        (outcome.atom, outcome.raw)).toList := by
  cases hlook : (setup.look atom).result with
  | error error =>
    rw [(entries_look_of_error hlook).2]
    rfl
  | ok outcome =>
    obtain ⟨resolution, hresolve, rfl⟩ := Evaluator.resolution_of_look hlook
    have hresult : (setup.resolve atom.name).result = .ok resolution := hresolve
    rw [record, hresult]
    cases resolution with
    | stale edit => exact congrArg Option.toList (Log.Entry.judged?_judged atom false)
    | check permission =>
      have hgranted : ((setup.decider.granter? setup.context.session permission).toList.map
          (Log.Entry.granted permission)).filterMap Log.Entry.judged? = [] := by
        cases setup.decider.granter? setup.context.session permission <;> rfl
      rw [List.filterMap_append, hgranted]
      exact congrArg Option.toList (Log.Entry.judged?_judged atom _)

theorem judgements_of_body (expression : Expression) :
    (setup.body expression).filterMap Log.Entry.judged? = setup.judgements expression := by
  have hclosing : [Log.Entry.closing (setup.examined expression).getLast?
      (setup.evaluate expression).result].filterMap Log.Entry.judged? = [] := by
    rw [List.filterMap_cons, Log.Entry.judged?_closing]
    rfl
  rw [body, List.filterMap_append, hclosing, List.append_nil, List.filterMap_flatMap, judgements,
    List.filterMap_eq_flatMap_toList]
  exact List.flatMap_congr fun atom _ => judgement_of_record atom

theorem result_of_examined_none {expression : Expression}
    (h : (setup.examined expression).getLast? = none) :
    (setup.evaluate expression).result = .error (.expression .empty) := by
  by_cases hne : expression.atoms = []
  · obtain rfl : expression = ⟨[]⟩ := Expression.ext hne
    rfl
  · exact absurd (List.getLast?_eq_none_iff.mp h) (examined_ne_nil _ hne)

theorem examined_error {expression : Expression} {last : Atom} {error : EvaluationError}
    (hlast : (setup.examined expression).getLast? = some last)
    (h : (setup.evaluate expression).result = .error error) :
    (setup.look last).result = .error error := by
  have hne : expression.atoms ≠ [] := by
    intro hnil
    rw [examined, hnil] at hlast
    cases hlast
  rw [evaluate, Evaluator.result_evaluate_of_ne_nil _ _ hne, Run.map_eq_error_iff] at h
  obtain ⟨other, hother, hlook, -⟩ := entries_scan_of_error h
  rw [examined, hother, Option.some_inj] at hlast
  exact hlast ▸ hlook

variable {other : EvaluationSetup}

/-- The log after the opening tells what an evaluation came to, and how each atom was judged. -/
theorem eq_of_body_eq {expression expression' : Expression}
    (h : setup.body expression = other.body expression') :
    (setup.evaluate expression).result = (other.evaluate expression').result ∧
      setup.judgements expression = other.judgements expression' := by
  constructor
  · have hclosing := congrArg List.getLast? h
    rw [body, body, List.getLast?_concat, List.getLast?_concat, Option.some_inj] at hclosing
    exact Log.Entry.result_eq_of_closing_eq hclosing result_of_examined_none
      result_of_examined_none
  · rw [← judgements_of_body, ← judgements_of_body, h]

theorem result_trace_map_decision (expression : Expression) :
    (setup.trace expression).result.map Trace.decision = (setup.evaluate expression).result :=
  (Evaluator.sameVerdict_trace setup.evaluator setup.context expression).result

theorem entries_evaluateText (raw : String) :
    (setup.evaluateText raw).entries =
      match Expression.parse raw with
      | .ok expression => (setup.evaluate expression).entries
      | .error cause => [.unreadable raw cause] := by
  unfold evaluateText
  cases hparse : Expression.parse raw with
  | error cause =>
    rw [Evaluator.evaluateText_of_error _ _ hparse]
    rfl
  | ok expression =>
    rw [Evaluator.evaluateText_of_ok _ _ hparse]
    rfl

theorem result_eq_of_entries_evaluateText {raw raw' : String}
    (h : (setup.evaluateText raw).entries = (other.evaluateText raw').entries) :
    (setup.evaluateText raw).result = (other.evaluateText raw').result := by
  -- Only a text that could be read opens a span, so both could be read or neither could.
  rw [entries_evaluateText, entries_evaluateText] at h
  unfold evaluateText
  cases hparse : Expression.parse raw with
  | error cause =>
    rw [Evaluator.evaluateText_of_error _ _ hparse]
    cases hparse' : Expression.parse raw' with
    | error cause' =>
      rw [Evaluator.evaluateText_of_error _ _ hparse']
      rw [hparse, hparse'] at h
      rw [Log.Entry.unreadable_inj (List.head_eq_of_cons_eq h)]
    | ok expression' =>
      rw [hparse, hparse'] at h
      dsimp only at h
      rw [entries_evaluate] at h
      cases List.head_eq_of_cons_eq h
  | ok expression =>
    rw [Evaluator.evaluateText_of_ok _ _ hparse]
    cases hparse' : Expression.parse raw' with
    | error cause' =>
      rw [hparse, hparse'] at h
      dsimp only at h
      rw [entries_evaluate] at h
      cases List.head_eq_of_cons_eq h
    | ok expression' =>
      rw [Evaluator.evaluateText_of_ok _ _ hparse']
      rw [hparse, hparse'] at h
      dsimp only at h
      rw [entries_evaluate, entries_evaluate] at h
      exact (eq_of_body_eq (List.tail_eq_of_cons_eq h)).1

/-- The log of an evaluation is a faithful record.

An evaluation opens a span with the expression and the session.  Then follow, for each atom
that was looked at, what `record` says of it: the refusal of a stale edit, the grant when a
policy grants, and the judgement when the atom did not fail.  One closing entry ends the log,
with the decision, the atom that failed and its error, or the complaint about an expression
without atoms.  A trace writes the same without the span, and a text that cannot be read is
reported alone.

So the log tells the result: evaluations in any two setups that have the same log came to
the same, and judged the same atoms in the same way. -/
theorem log_is_audit_record (setup : EvaluationSetup) :
    (∀ expression,
      let looked := setup.examined expression
      let result := (setup.evaluate expression).result
      let body := looked.flatMap setup.record ++ [.closing looked.getLast? result]
      (setup.evaluate expression).entries =
        .opening expression setup.context.session.id :: body ∧
      (setup.trace expression).entries = body ∧
      body.filter Log.Entry.isClosing = [.closing looked.getLast? result] ∧
      (∀ last error, looked.getLast? = some last → result = .error error →
        (setup.look last).result = .error error)) ∧
    (∀ policy, setup.decider = .granting policy → ∀ atom permission,
      (setup.resolve atom.name).result = .ok (.check permission) →
      ((∃ principal, .granted permission principal ∈ setup.record atom) ↔
        policy.holds setup.context.session permission = true)) ∧
    (∀ raw, (setup.evaluateText raw).entries =
      match Expression.parse raw with
      | .ok expression => (setup.evaluate expression).entries
      | .error cause => [.unreadable raw cause]) ∧
    (∀ other : EvaluationSetup,
      (∀ expression expression',
        (setup.evaluate expression).entries = (other.evaluate expression').entries →
        (setup.evaluate expression).result = (other.evaluate expression').result ∧
          setup.judgements expression = other.judgements expression') ∧
      (∀ expression expression',
        (setup.trace expression).entries = (other.trace expression').entries →
        (setup.trace expression).result.map Trace.decision =
            (other.trace expression').result.map Trace.decision ∧
          setup.judgements expression = other.judgements expression') ∧
      (∀ raw raw', (setup.evaluateText raw).entries = (other.evaluateText raw').entries →
        (setup.evaluateText raw).result = (other.evaluateText raw').result)) := by
  refine ⟨?_, ?_, entries_evaluateText, ?_⟩
  · intro expression looked result body
    refine ⟨entries_evaluate expression, entries_trace expression, closing_of_body expression, ?_⟩
    intro last error hlast herror
    exact examined_error hlast herror
  · intro policy hdecider atom permission hresolve
    exact granted_mem_record_iff hdecider hresolve
  · intro other
    refine ⟨?_, ?_, fun raw raw' => result_eq_of_entries_evaluateText⟩
    · intro expression expression' h
      rw [entries_evaluate, entries_evaluate] at h
      exact eq_of_body_eq (List.tail_eq_of_cons_eq h)
    · intro expression expression' h
      rw [entries_trace, entries_trace] at h
      rw [result_trace_map_decision, result_trace_map_decision]
      exact eq_of_body_eq h

/-- On an outdated revision, a user who may do nothing is allowed because he may not edit. -/
example :
    let page : Page := ⟨⟨"Main"⟩, ⟨1⟩, none⟩
    let store : PageStore := ⟨fun name => .ok (some ⟨name, ⟨2⟩, none⟩)⟩
    let context : Context := ⟨.anonymous .nil, ⟨"Wiki"⟩, .page page⟩
    let setup : EvaluationSetup := ⟨.granting .empty, store, context⟩
    (setup.trace ⟨[⟨"view", false⟩, ⟨"edit", true⟩]⟩).entries =
      [.judged ⟨"view", false⟩ false, .staleEdit ⟨⟨"Main"⟩, ⟨1⟩, some ⟨2⟩⟩,
        .judged ⟨"edit", true⟩ false, .decided .allow] := by
  decide

end EvaluationSetup
end WikiAccess
