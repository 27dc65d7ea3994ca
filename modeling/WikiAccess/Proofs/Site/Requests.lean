import WikiAccess.Proofs.Evaluation.EntryPoints
import WikiAccess.Proofs.Lookup.Find
import WikiAccess.Proofs.Policy.Grants
import WikiAccess.Proofs.Store.History
import WikiAccess.Site

/-!
# What requests make of a site

A request makes something of one part of a site at most, and nothing of any when it only
asks or fails (`site_step`).  So each part is what the requests that concern it make of it,
in their order, whatever stands between them (`part_after`): the pages are those of a memory
store after its operations, the policy is that of the grants, and a guard is the last one
that was read under its identifier.

From there follows what a site answers after any run from the initial one: what is found was
saved, what is held was granted, and a guard once read does not fail for its text.  The last
statement, `idle_requests_leave_no_trace`, is that questions and failed requests can be left
out of a run, and every other request is answered as before.
-/

namespace WikiAccess

/-! ## One request -/

namespace Request

/-- A request for an answer alone. -/
def isQuestion : Request → Bool
  | .newest _ | .revision _ _ | .find _ | .grantsFor _ | .check _ => true
  | .evaluate _ | .trace _ | .judge _ | .resolve _ | .render _ => true
  | _ => false

/-- The operation on the pages. -/
def operation? : Request → Option MemoryStore.Operation
  | .save name author => some (.save name author)
  | .poison => some .poison
  | _ => none

def grant? : Request → Option (String × Permission)
  | .grant principal permission => some (principal, permission)
  | _ => none

/-- The guard that is read under an identifier. -/
def guardUnder? (id : String) : Request → Option Guard
  | .guard other raw => if other = id then (Guard.parse raw).toOption else none
  | _ => none

theorem operation?_eq_save_iff {request : Request} {name : PageName} {author : Option String} :
    request.operation? = some (.save name author) ↔ request = .save name author := by
  cases request <;> simp [operation?]

theorem grant?_eq_some_iff {request : Request} {principal : String} {permission : Permission} :
    request.grant? = some (principal, permission) ↔ request = .grant principal permission := by
  cases request <;> simp [grant?]

theorem guardUnder?_eq_some_iff {request : Request} {id : String} {guard : Guard} :
    request.guardUnder? id = some guard ↔
      ∃ raw, request = .guard id raw ∧ Guard.parse raw = .ok guard := by
  cases request with
  | guard other raw =>
    by_cases h : other = id
    · subst h
      cases hparse : Guard.parse raw <;> simp [guardUnder?, hparse, Except.toOption]
    · simp [guardUnder?, h]
  | _ => simp [guardUnder?]

end Request

namespace Site

/-- What a request makes of a site.  Asking makes nothing of it, and neither does a request
that fails. -/
def updated (site : Site) : Request → Site
  | .save name author => { site with memory := (site.memory.perform (.save name author)).2 }
  | .poison => { site with memory := (site.memory.perform .poison).2 }
  | .connect outage => { site with outage }
  | .configure environment =>
    { site with settings := (Settings.ofEnvironment environment).toOption.getD site.settings }
  | .grant principal permission => { site with policy := site.policy.grant principal permission }
  | .appoint authority => { site with authority }
  | .enter session application resources =>
    let base := (application.map (⟨session, ·, .application⟩)).getD (site.settings.context session)
    { site with context := resources.foldl Context.on base }
  | .guard id raw =>
    { site with guards := ((Guard.parse raw).toOption.map (id, ·)).toList ++ site.guards }
  | _ => site

theorem updated_of_isQuestion {request : Request} (h : request.isQuestion = true) (site : Site) :
    site.updated request = site := by
  cases request with
  | save | poison | connect | configure | grant | appoint | enter | guard => cases h
  | _ => rfl

theorem step_of_ok {site after : Site} {request : Request} {answer : Answer}
    (h : (site.handle request).result = .ok (answer, after)) :
    site.step request = (⟨(site.handle request).effects, .ok answer⟩, after) := by
  simp only [step, h]

theorem step_of_error {site : Site} {request : Request} {error : RequestError}
    (h : (site.handle request).result = .error error) :
    site.step request = (⟨(site.handle request).effects, .error error⟩, site) := by
  simp only [step, h]

/-- A request that is handled by asking leaves the site as it was, answered or not. -/
theorem step_of_asked {α : Type} {site : Site} {request : Request} {run : Run RequestError α}
    {answer : α → Answer}
    (h : site.handle request = run >>= fun value => return (answer value, site)) :
    (site.step request).1.result = run.result.map answer ∧ (site.step request).2 = site := by
  have hhandle : (site.handle request).result =
      run.result.map fun value => (answer value, site) := by
    rw [h]
    exact Run.result_bind_of_total run fun _ => rfl
  cases hrun : run.result with
  | error error =>
    rw [hrun] at hhandle
    rw [step_of_error hhandle]
    exact ⟨rfl, rfl⟩
  | ok value =>
    rw [hrun] at hhandle
    rw [step_of_ok hhandle]
    exact ⟨rfl, rfl⟩

theorem handle_render_of_unknown {site : Site} {id : String} (h : site.guards.lookup id = none) :
    site.handle (.render id) = Run.fail (.unknownGuard id) := by
  simp only [handle, h]

theorem handle_render {site : Site} {id : String} {guard : Guard}
    (h : site.guards.lookup id = some guard) :
    site.handle (.render id) =
      ((guard.render site.evaluator site.context).mapError .evaluation) >>= fun visibility =>
        return (.visibility visibility, site) := by
  simp only [handle, h]

theorem site_step (site : Site) (request : Request) :
    (site.step request).2 = site.updated request := by
  cases request with
  | save name author =>
    simp only [step, handle, updated, MemoryStore.perform]
    cases site.memory.save name author <;> rfl
  | poison =>
    simp only [step, handle, updated, MemoryStore.perform]
    cases site.memory.poison <;> rfl
  | connect outage => rfl
  | configure environment =>
    simp only [step, handle, updated]
    cases Settings.ofEnvironment environment <;> rfl
  | grant principal permission => rfl
  | appoint authority => rfl
  | enter session application resources => cases application <;> rfl
  | guard id raw =>
    simp only [step, handle, updated]
    cases Guard.parse raw <;> rfl
  | newest name => exact (step_of_asked rfl).2
  | revision name version => exact (step_of_asked rfl).2
  | find raw => exact (step_of_asked rfl).2
  | grantsFor principal => rfl
  | check permission => exact (step_of_asked rfl).2
  | evaluate source => cases source <;> exact (step_of_asked rfl).2
  | trace source => exact (step_of_asked rfl).2
  | judge source => exact (step_of_asked rfl).2
  | resolve name => exact (step_of_asked rfl).2
  | render id =>
    unfold updated
    cases hguard : site.guards.lookup id with
    | none => rw [step_of_error (congrArg Run.result (handle_render_of_unknown hguard))]
    | some guard => exact (step_of_asked (handle_render hguard)).2

theorem site_step_of_error {site : Site} {request : Request} {error : RequestError}
    (h : (site.step request).1.result = .error error) : (site.step request).2 = site := by
  cases hhandle : (site.handle request).result with
  | error cause => rw [step_of_error hhandle]
  | ok answered =>
    rw [step_of_ok hhandle] at h
    cases h

/-! ## Runs of requests -/

def after (site : Site) (requests : List Request) : Site :=
  requests.foldl (fun site request => (site.step request).2) site

/-- The requests of a run with how they were handled. -/
def transcript (site : Site) : List Request → List (Request × Run RequestError Answer)
  | [] => []
  | request :: rest =>
    (request, (site.step request).1) :: transcript (site.step request).2 rest

/-- A part of a site is made by the requests that concern it.  When each of them acts on the
part alone, so does a run. -/
theorem part_after {α β : Type} (part : Site → β) (concern : Request → Option α)
    (act : β → α → β)
    (h : ∀ site request,
      part (site.updated request) = (concern request).elim (part site) (act (part site)))
    (site : Site) (requests : List Request) :
    part (site.after requests) = (requests.filterMap concern).foldl act (part site) := by
  induction requests generalizing site with
  | nil => rfl
  | cons request rest ih =>
    have hstep := h site request
    rw [← site_step] at hstep
    show part ((site.step request).2.after rest) = _
    rw [ih, hstep, List.filterMap_cons]
    cases concern request <;> rfl

theorem memory_after (site : Site) (requests : List Request) :
    (site.after requests).memory =
      site.memory.after (requests.filterMap Request.operation?) := by
  refine part_after memory Request.operation?
    (fun memory operation => (memory.perform operation).2) ?_ site requests
  intro site request
  cases request <;> rfl

theorem policy_after (requests : List Request) :
    (initial.after requests).policy = .ofGrants (requests.filterMap Request.grant?) := by
  refine part_after policy Request.grant?
    (fun policy grant => policy.grant grant.1 grant.2) ?_ initial requests
  intro site request
  cases request <;> rfl

theorem foldl_some {α : Type} (values : List α) (before : Option α) :
    values.foldl (fun _ value => some value) before = values.getLast?.or before := by
  induction values generalizing before with
  | nil => rfl
  | cons value rest ih =>
    rw [List.foldl_cons, ih, List.getLast?_cons]
    cases rest.getLast? <;> rfl

theorem guard_after (requests : List Request) (id : String) :
    (initial.after requests).guards.lookup id =
      (requests.filterMap (Request.guardUnder? id)).getLast? := by
  refine (part_after (fun site => site.guards.lookup id) (Request.guardUnder? id)
    (fun _ guard => some guard) ?_ initial requests).trans ?_
  · intro site request
    cases request with
    | guard other raw =>
      by_cases h : other = id
      · subst h
        cases hparse : Guard.parse raw <;>
          simp [updated, Request.guardUnder?, hparse, Except.toOption]
      · have hne : (id == other) = false := beq_false_of_ne (Ne.symm h)
        cases hparse : Guard.parse raw <;>
          simp [updated, Request.guardUnder?, hparse, Except.toOption, h, List.lookup_cons, hne]
    | _ => rfl
  · rw [foldl_some]
    exact Option.or_none

/-! ## What a site answers -/

/-- Under the policy of a site a permission is held because of a grant that was requested. -/
theorem holds_after_iff (requests : List Request) (session : Session) (permission : Permission) :
    (initial.after requests).policy.holds session permission = true ↔
      ∃ principal held, .grant principal held ∈ requests ∧ held.implies permission = true ∧
        session.SpeaksFor principal := by
  rw [policy_after, Policy.holds_ofGrants_iff]
  constructor
  · intro h
    obtain ⟨⟨principal, held⟩, hgrant, himplies, hspeaks⟩ := h
    obtain ⟨request, hmem, hrequest⟩ := List.mem_filterMap.mp hgrant
    rw [Request.grant?_eq_some_iff.mp hrequest] at hmem
    exact ⟨principal, held, hmem, himplies, hspeaks⟩
  · intro h
    obtain ⟨principal, held, hmem, himplies, hspeaks⟩ := h
    exact ⟨(principal, held), List.mem_filterMap.mpr ⟨_, hmem, rfl⟩, himplies, hspeaks⟩

/-- What a site reads under a name was saved under it, and has the number of a revision. -/
theorem saved_of_newest {requests : List Request} {name : PageName} {page : Page}
    (h : (initial.after requests).pageStore.newest name = .ok (some page)) :
    page.name = name ∧ page.version ≠ .latest ∧ .save name page.author ∈ requests := by
  have hmemory : (initial.after requests).memory.newest name = .ok (some page) := by
    unfold pageStore at h
    cases houtage : (initial.after requests).outage with
    | none => rwa [houtage] at h
    | some error =>
      rw [houtage] at h
      cases h
  rw [memory_after] at hmemory
  have hnumbered := MemoryStore.numbered_after MemoryStore.numbered_empty
    (requests.filterMap Request.operation?)
  obtain ⟨-, hlast⟩ := MemoryStore.access_eq_ok_iff.mp hmemory
  have hpage := List.mem_of_getLast? hlast
  obtain ⟨i, hi⟩ := List.mem_iff_getElem?.mp hpage
  obtain ⟨hname, hversion⟩ := hnumbered name i page hi
  refine ⟨hname, hversion ▸ PageVersion.natCast_ne_latest (i + 1), ?_⟩
  rcases MemoryStore.mem_history_after MemoryStore.numbered_empty hpage with hbefore | hsave
  · cases hbefore
  · obtain ⟨request, hmem, hrequest⟩ := List.mem_filterMap.mp hsave
    rwa [Request.operation?_eq_save_iff.mp hrequest] at hmem

/-- A page that is found was saved, under the typed name or its other number. -/
theorem saved_of_find {requests : List Request} {raw : String} {page : Page}
    (h : ((initial.after requests).step (.find raw)).1.result = .ok (.page page)) :
    (page.name = ⟨raw⟩ ∨ IsOtherNumber raw page.name) ∧ page.version ≠ .latest ∧
      .save page.name page.author ∈ requests := by
  rw [(step_of_asked rfl).1, Run.result_mapError, Run.map_eq_ok_iff] at h
  obtain ⟨found, hfind, hanswer⟩ := h
  cases hanswer
  obtain ⟨-, hexact | ⟨-, variant, hvariant, hother⟩⟩ :=
    PageIndex.result_find_eq_ok_iff.mp (Run.mapError_eq_ok_iff.mp hfind)
  · obtain ⟨hname, hversion, hsave⟩ := saved_of_newest hexact
    exact ⟨.inl hname, hversion, hname ▸ hsave⟩
  · obtain ⟨hname, hversion, hsave⟩ := saved_of_newest hother
    exact ⟨.inr (hname ▸ (PageIndex.variant?_eq_some_iff.mp hvariant).2), hversion, hname ▸ hsave⟩

/-- What is saved while the store is cut off is found once it is connected again. -/
example :
    let site := initial.after
      [.connect (some (.unavailable "")), .save ⟨"Page"⟩ (some "alice"), .connect none]
    (site.step (.find "Pages")).1.result = .ok (.page ⟨⟨"Page"⟩, ⟨1⟩, some "alice"⟩) := by
  decide

/-- A guard is known when some text was read under its identifier. -/
theorem lookup_guard_eq_none_iff {requests : List Request} {id : String} :
    (initial.after requests).guards.lookup id = none ↔
      ∀ raw, .guard id raw ∈ requests → ∃ cause, Guard.parse raw = .error cause := by
  rw [guard_after, List.getLast?_eq_none_iff, List.filterMap_eq_nil_iff]
  constructor
  · intro h raw hmem
    have hnone := h _ hmem
    cases hparse : Guard.parse raw with
    | error cause => exact ⟨cause, rfl⟩
    | ok guard =>
      have hsome : Request.guardUnder? id (.guard id raw) = some guard :=
        Request.guardUnder?_eq_some_iff.mpr ⟨raw, rfl, hparse⟩
      rw [hnone] at hsome
      cases hsome
  · intro h request hmem
    rw [Option.eq_none_iff_forall_ne_some]
    intro guard hguard
    obtain ⟨raw, rfl, hparse⟩ := Request.guardUnder?_eq_some_iff.mp hguard
    obtain ⟨cause, herror⟩ := h raw hmem
    rw [hparse] at herror
    cases herror

theorem atoms_ne_nil_of_guard {requests : List Request} {id : String} {guard : Guard}
    (h : (initial.after requests).guards.lookup id = some guard) :
    guard.expression.atoms ≠ [] := by
  rw [guard_after] at h
  obtain ⟨request, -, hrequest⟩ := List.mem_filterMap.mp (List.mem_of_getLast? h)
  obtain ⟨raw, -, hparse⟩ := Request.guardUnder?_eq_some_iff.mp hrequest
  have hread := Guard.map_expression_parse raw
  rw [hparse] at hread
  exact (Expression.parse_eq_ok_iff.mp hread.symm).1

/-- A guard that fails was never read, or fails for the context or the store.  It does not
fail for its text, which was read when the guard was made. -/
theorem error_of_render {requests : List Request} {id : String} {error : RequestError}
    (h : ((initial.after requests).step (.render id)).1.result = .error error) :
    (error = .unknownGuard id ∧
      ∀ raw, .guard id raw ∈ requests → ∃ cause, Guard.parse raw = .error cause) ∨
    (∃ name required, error = .evaluation (.missingResource name required)) ∨
    ∃ cause, error = .evaluation (.store cause) := by
  cases hguard : (initial.after requests).guards.lookup id with
  | none =>
    rw [step_of_error (congrArg Run.result (handle_render_of_unknown hguard))] at h
    cases h
    exact .inl ⟨rfl, lookup_guard_eq_none_iff.mp hguard⟩
  | some guard =>
    right
    rw [(step_of_asked (handle_render hguard)).1, Run.map_eq_error_iff, Run.result_mapError,
      Run.mapError_eq_error_iff] at h
    obtain ⟨cause, hrender, rfl⟩ := h
    have hevaluate := (Evaluator.sameVerdict_render (initial.after requests).evaluator
      (initial.after requests).context guard).result
    rw [hrender] at hevaluate
    rcases Evaluator.error_of_evaluate _ _ (atoms_ne_nil_of_guard hguard) hevaluate.symm with
      ⟨name, required, rfl⟩ | ⟨failure, rfl⟩
    · exact .inl ⟨name, required, rfl⟩
    · exact .inr ⟨failure, rfl⟩

/-! ## Requests that leave no trace -/

/-- Questions and failed requests, or some of them, can be left out of a run.  The others are
handled as before, with the same effects, and the site is the same after them. -/
theorem idle_requests_leave_no_trace {keep : Request × Run RequestError Answer → Bool}
    (h : ∀ entry, keep entry = false →
      entry.1.isQuestion = true ∨ ∃ error, entry.2.result = .error error)
    (site : Site) (requests : List Request) :
    let kept := (site.transcript requests).filter keep
    site.transcript (kept.map Prod.fst) = kept ∧
      site.after (kept.map Prod.fst) = site.after requests := by
  induction requests generalizing site with
  | nil => exact ⟨rfl, rfl⟩
  | cons request rest ih =>
    intro kept
    obtain ⟨htranscript, hafter⟩ := ih (site.step request).2
    cases hkeep : keep (request, (site.step request).1) with
    | false =>
      have hkept : kept = ((site.step request).2.transcript rest).filter keep := by
        simp only [kept, transcript, List.filter_cons, hkeep]
        rfl
      have hsite : (site.step request).2 = site := by
        rcases h _ hkeep with hquestion | ⟨error, herror⟩
        · rw [site_step, updated_of_isQuestion hquestion]
        · exact site_step_of_error herror
      rw [hsite] at hkept htranscript hafter
      rw [hkept]
      refine ⟨htranscript, hafter.trans ?_⟩
      show _ = (site.step request).2.after rest
      rw [hsite]
    | true =>
      have hkept : kept = (request, (site.step request).1) ::
          ((site.step request).2.transcript rest).filter keep := by
        simp only [kept, transcript, List.filter_cons, hkeep]
        rfl
      rw [hkept]
      exact ⟨congrArg (_ :: ·) htranscript, hafter⟩

end Site
end WikiAccess
