import WikiAccess.Log.Event
import WikiAccess.Session

/-!
# Computations with observable effects

Evaluating an expression asks an oracle, reads a store and writes to the log.  A
`Run` is the record of such a computation: its effects in order, and what it came
to.  A failed run keeps the effects it had before it failed.  Because the effects
are data, that two runs do the same is an equation.
-/

namespace WikiAccess

/-- Something that an observer of a run can see. -/
inductive Effect where
  /-- An oracle was asked whether a session holds a permission. -/
  | asked (session : Session) (permission : Permission)
  /-- A store was asked for the newest revision of a page. -/
  | read (name : PageName)
  | logged (event : Log.Event)
  deriving DecidableEq, Repr

namespace Effect

def asked? : Effect → Option (Session × Permission)
  | .asked session permission => some (session, permission)
  | _ => none

def read? : Effect → Option PageName
  | .read name => some name
  | _ => none

def logged? : Effect → Option Log.Event
  | .logged event => some event
  | _ => none

/-- A question or a read. -/
def call? : Effect → Option Effect
  | .logged _ => none
  | call => some call

end Effect

/-- The effects of a computation in order, and its value or error. -/
@[ext]
structure Run (ε α : Type) where
  effects : List Effect
  result : Except ε α

namespace Run

variable {ε α β : Type}

/-! ## The views of a run -/

def asked (run : Run ε α) : List (Session × Permission) :=
  run.effects.filterMap Effect.asked?

def reads (run : Run ε α) : List PageName := run.effects.filterMap Effect.read?

def log (run : Run ε α) : List Log.Event := run.effects.filterMap Effect.logged?

/-- The questions and reads of a run, in the one order in which they took place. -/
def calls (run : Run ε α) : List Effect := run.effects.filterMap Effect.call?

/-! ## Building runs -/

/-- Two runs in sequence.  After a failure the second does not take place. -/
protected def bind (run : Run ε α) (next : α → Run ε β) : Run ε β :=
  match run.result with
  | .ok value => ⟨run.effects ++ (next value).effects, (next value).result⟩
  | .error error => ⟨run.effects, .error error⟩

instance : Monad (Run ε) where
  pure value := ⟨[], .ok value⟩
  bind := Run.bind

/-- Fail without an effect. -/
def fail (error : ε) : Run ε α := ⟨[], .error error⟩

/-- A result that was reached without an effect. -/
def ofExcept (result : Except ε α) : Run ε α := ⟨[], result⟩

def note (event : Log.Event) : Run ε Unit := ⟨[.logged event], .ok ()⟩

/-- The same run with its error, if it fails, turned into another. -/
def mapError {ε' : Type} (f : ε → ε') (run : Run ε α) : Run ε' α :=
  ⟨run.effects, run.result.mapError f⟩

/-- The same run, which after a failure also writes an event to the log. -/
def noteError (run : Run ε α) (event : ε → Log.Event) : Run ε α :=
  match run.result with
  | .ok _ => run
  | .error error => ⟨run.effects ++ [.logged (event error)], .error error⟩

/-! ## The parts of composed runs -/

@[simp]
theorem pure_eq (value : α) : (pure value : Run ε α) = ⟨[], .ok value⟩ := rfl

@[simp]
theorem bind_ok (effects : List Effect) (value : α) (next : α → Run ε β) :
    ((⟨effects, .ok value⟩ : Run ε α) >>= next) =
      ⟨effects ++ (next value).effects, (next value).result⟩ := rfl

@[simp]
theorem bind_error (effects : List Effect) (error : ε) (next : α → Run ε β) :
    ((⟨effects, .error error⟩ : Run ε α) >>= next) = ⟨effects, .error error⟩ := rfl

theorem bind_of_ok {run : Run ε α} {value : α} (h : run.result = .ok value)
    (next : α → Run ε β) :
    run >>= next = ⟨run.effects ++ (next value).effects, (next value).result⟩ := by
  obtain ⟨effects, result⟩ := run
  subst h
  rfl

theorem bind_of_error {run : Run ε α} {error : ε} (h : run.result = .error error)
    (next : α → Run ε β) : run >>= next = ⟨run.effects, .error error⟩ := by
  obtain ⟨effects, result⟩ := run
  subst h
  rfl

/-- What is done with a result, and cannot fail, only changes the value. -/
theorem result_bind_of_total (run : Run ε α) {next : α → Run ε β} {f : α → β}
    (h : ∀ value, (next value).result = .ok (f value)) :
    (run >>= next).result = run.result.map f := by
  cases hrun : run.result with
  | error error =>
    rw [bind_of_error hrun]
    rfl
  | ok value =>
    rw [bind_of_ok hrun]
    exact h value

@[simp]
theorem result_mapError {ε' : Type} (f : ε → ε') (run : Run ε α) :
    (run.mapError f).result = run.result.mapError f := rfl

@[simp]
theorem result_noteError (run : Run ε α) (event : ε → Log.Event) :
    (run.noteError event).result = run.result := by
  obtain ⟨effects, result⟩ := run
  cases result <;> rfl

theorem map_eq_ok_iff {f : α → β} {result : Except ε α} {value : β} :
    result.map f = .ok value ↔ ∃ before, result = .ok before ∧ f before = value := by
  cases result with
  | ok before => simp [Except.map]
  | error error => simp [Except.map]

theorem map_eq_error_iff {f : α → β} {result : Except ε α} {error : ε} :
    result.map f = .error error ↔ result = .error error := by
  cases result with
  | ok before => simp [Except.map]
  | error other => simp [Except.map]

theorem mapError_eq_ok_iff {ε' : Type} {f : ε → ε'} {result : Except ε α} {value : α} :
    result.mapError f = .ok value ↔ result = .ok value := by
  cases result with
  | ok other =>
    show (.ok other : Except ε' α) = .ok value ↔ _
    simp
  | error before =>
    show (.error (f before) : Except ε' α) = .ok value ↔ _
    simp

theorem mapError_eq_error_iff {ε' : Type} {f : ε → ε'} {result : Except ε α} {error : ε'} :
    result.mapError f = .error error ↔ ∃ before, result = .error before ∧ f before = error := by
  cases result with
  | ok value =>
    show (.ok value : Except ε' α) = .error error ↔ _
    simp
  | error before =>
    show (.error (f before) : Except ε' α) = .error error ↔ _
    simp

/-! ## The view of an observer

An observer picks out of a run the effects that concern him, as `asked`, `reads`
and `log` do.  To one who does not see the log, writing to it changes nothing. -/

/-- What an observer sees of a run, in order. -/
def view {γ : Type} (see : Effect → Option γ) (run : Run ε α) : List γ :=
  run.effects.filterMap see

/-- An observer who sees no entry of the log. -/
def BlindToLog {γ : Type} (see : Effect → Option γ) : Prop :=
  ∀ event, see (.logged event) = none

theorem blindToLog_asked? : BlindToLog Effect.asked? := fun _ => rfl

theorem blindToLog_read? : BlindToLog Effect.read? := fun _ => rfl

theorem blindToLog_call? : BlindToLog Effect.call? := fun _ => rfl

variable {γ : Type} {see : Effect → Option γ}

theorem view_bind_of_ok {run : Run ε α} {value : α} (h : run.result = .ok value)
    (next : α → Run ε β) :
    (run >>= next).view see = run.view see ++ (next value).view see := by
  rw [bind_of_ok h, view, List.filterMap_append]
  rfl

theorem view_bind_of_error {run : Run ε α} {error : ε} (h : run.result = .error error)
    (next : α → Run ε β) : (run >>= next).view see = run.view see := by
  rw [bind_of_error h]
  rfl

/-- What is done with a result is not seen when nothing of it is. -/
theorem view_bind_of_silent (run : Run ε α) {next : α → Run ε β}
    (h : ∀ value, (next value).view see = []) : (run >>= next).view see = run.view see := by
  cases hrun : run.result with
  | error error => exact view_bind_of_error hrun next
  | ok value =>
    rw [view_bind_of_ok hrun, h value]
    exact List.append_nil _

theorem view_logged (hsee : BlindToLog see) (events : List Log.Event) :
    (events.map Effect.logged).filterMap see = [] := by
  refine List.filterMap_eq_nil_iff.mpr ?_
  intro effect heffect
  obtain ⟨event, _, rfl⟩ := List.mem_map.mp heffect
  exact hsee event

theorem view_note_bind (hsee : BlindToLog see) (event : Log.Event) (next : Run ε α) :
    (note event >>= fun _ => next).view see = next.view see := by
  rw [view_bind_of_ok rfl, view, note, List.filterMap_cons, hsee event]
  rfl

theorem view_noteError (hsee : BlindToLog see) (run : Run ε α) (event : ε → Log.Event) :
    (run.noteError event).view see = run.view see := by
  obtain ⟨effects, result⟩ := run
  cases result with
  | ok value => rfl
  | error error =>
    show (effects ++ [Effect.logged (event error)]).filterMap see = effects.filterMap see
    rw [List.filterMap_append, List.filterMap_cons, hsee]
    exact List.append_nil _

end Run

namespace PageStore

def read (store : PageStore) (name : PageName) : Run StoreError (Option Page) :=
  ⟨[.read name], store.newest name⟩

variable {ε : Type} {store : PageStore} {name : PageName}

theorem mapError_read_of_ok {found : Option Page} (h : store.newest name = .ok found)
    (f : StoreError → ε) : (store.read name).mapError f = ⟨[.read name], .ok found⟩ := by
  rw [read, h]
  rfl

theorem mapError_read_of_error {error : StoreError} (h : store.newest name = .error error)
    (f : StoreError → ε) :
    (store.read name).mapError f = ⟨[.read name], .error (f error)⟩ := by
  rw [read, h]
  rfl

end PageStore
end WikiAccess
