import WikiAccess.Evaluation.Guard
import WikiAccess.Lookup
import WikiAccess.Policy
import WikiAccess.Settings
import WikiAccess.Store.Memory

/-!
# A site

A site is a wiki in operation: its pages, its policy, its settings, the context
that questions are asked in, and the guards that were read so far.  It handles
requests one after another.  A request that fails leaves the site as it was.

For rehearsals the store can be cut off, so that every read of a newest revision
fails, and the policy can be replaced by a simpler oracle.
-/

namespace WikiAccess

inductive Authority where
  | policy
  /-- Everything is granted to whoever has logged in. -/
  | authenticated
  /-- Permissions are looked up by their text. -/
  | table (answers : List (String × Bool)) (fallback : Bool)
  deriving Repr

structure Site where
  memory : MemoryStore
  /-- The failure of every read while the store is cut off. -/
  outage : Option StoreError
  policy : Policy
  authority : Authority
  settings : Settings
  context : Context
  /-- The guards by their identifiers, the latest first. -/
  guards : List (String × Guard)

inductive ExpressionSource where
  | text (raw : String)
  | atoms (expression : Expression)
  deriving Repr

inductive AtomSource where
  | token (raw : String)
  | built (atom : Atom)
  deriving Repr

inductive Request where
  | save (name : PageName) (author : Option String)
  | poison
  | newest (name : PageName)
  | revision (name : PageName) (version : PageVersion)
  /-- Cut the store off, or connect it again. -/
  | connect (outage : Option StoreError)
  | configure (environment : Environment)
  | find (raw : String)
  | grant (principal : String) (permission : Permission)
  | grantsFor (principal : String)
  | appoint (authority : Authority)
  | check (permission : Permission)
  /-- Ask from now on in a context on the last of the resources, by default in
  the configured application. -/
  | enter (session : Session) (application : Option ApplicationName)
      (resources : List Resource)
  | evaluate (source : ExpressionSource)
  | trace (source : ExpressionSource)
  | judge (source : AtomSource)
  | resolve (name : String)
  | guard (id raw : String)
  | render (id : String)

inductive Answer where
  | done
  | poisoned
  | page (page : Page)
  | newest (page : Option Page)
  | settings (settings : Settings)
  | permissions (permissions : List Permission)
  | holds (answer : Bool)
  | context (context : Context)
  | decision (decision : Decision)
  | trace (trace : Trace)
  | outcome (outcome : Outcome)
  | resolution (resolution : Resolution)
  | expression (expression : Expression)
  | visibility (visibility : Visibility)
  deriving DecidableEq, Repr

inductive RequestError where
  | store (cause : StoreError)
  | settings (cause : SettingsError)
  | lookup (cause : LookupError)
  | evaluation (cause : EvaluationError)
  /-- No guard was read under the identifier. -/
  | unknownGuard (id : String)
  deriving DecidableEq, Repr

namespace ExpressionSource

def expression : ExpressionSource → Except EvaluationError Expression
  | .text raw => (Expression.parse raw).mapError .expression
  | .atoms expression => .ok expression

end ExpressionSource

namespace AtomSource

def atom : AtomSource → Except EvaluationError Atom
  | .token raw => (Atom.parse raw).mapError .expression
  | .built atom => .ok atom

end AtomSource

namespace Site

/-- A site without pages, grants and guards, where an anonymous session asks about
the default application. -/
def initial : Site where
  memory := .empty
  outage := none
  policy := .empty
  authority := .policy
  settings := .defaults
  context := Settings.defaults.context (.anonymous .nil)
  guards := []

def pageStore (site : Site) : PageStore :=
  match site.outage with
  | none => site.memory.toPageStore
  | some error => .failing error

def oracle (site : Site) : Oracle :=
  match site.authority with
  | .policy => site.policy.oracle
  | .authenticated => .authenticatedOnly
  | .table answers fallback => .ofTable answers fallback

def evaluator (site : Site) : Evaluator := ⟨site.oracle, site.pageStore⟩

def index (site : Site) : PageIndex := ⟨site.pageStore, site.settings.matchesPlurals⟩

/-- The answer to a request and the site after it. -/
def handle (site : Site) : Request → Run RequestError (Answer × Site)
  | .save name author => do
    let (page, memory) ← Run.ofExcept ((site.memory.save name author).mapError .store)
    Run.note (.saved page)
    return (.page page, { site with memory })
  | .poison => do
    let memory ← Run.ofExcept (site.memory.poison.mapError .store)
    return (.poisoned, { site with memory })
  | .newest name => do
    return (.newest (← (site.pageStore.read name).mapError .store), site)
  | .revision name version => do
    let page ← Run.ofExcept ((site.memory.revision name version).mapError .store)
    return (.newest page, site)
  | .connect outage => return (.done, { site with outage })
  | .configure environment => do
    let settings ← Run.ofExcept ((Settings.ofEnvironment environment).mapError .settings)
    return (.settings settings, { site with settings })
  | .find raw => do
    return (.page (← (site.index.find raw).mapError .lookup), site)
  | .grant principal permission =>
    let policy := site.policy.grant principal permission
    return (.permissions (policy.grantsFor principal), { site with policy })
  | .grantsFor principal => return (.permissions (site.policy.grantsFor principal), site)
  | .appoint authority => return (.done, { site with authority })
  | .check permission => do
    return (.holds (← site.oracle.ask site.context.session permission), site)
  | .enter session application resources =>
    let base := match application with
      | some application => ⟨session, application, .application⟩
      | none => site.settings.context session
    let context := resources.foldl Context.on base
    return (.context context, { site with context })
  | .evaluate (.text raw) => do
    let decision ← (site.evaluator.evaluateText site.context raw).mapError .evaluation
    return (.decision decision, site)
  | .evaluate (.atoms expression) => do
    let decision ← (site.evaluator.evaluate site.context expression).mapError .evaluation
    return (.decision decision, site)
  | .trace source => do
    let trace ← Run.mapError .evaluation do
      site.evaluator.trace site.context (← Run.ofExcept source.expression)
    return (.trace trace, site)
  | .judge source => do
    let outcome ← Run.mapError .evaluation do
      site.evaluator.judge site.context (← Run.ofExcept source.atom)
    return (.outcome outcome, site)
  | .resolve name => do
    let resolution ← (site.context.resolve site.pageStore name).mapError .evaluation
    return (.resolution resolution, site)
  | .guard id raw => do
    let guard ← Run.ofExcept ((Guard.parse raw).mapError (.evaluation <| .expression ·))
    return (.expression guard.expression, { site with guards := (id, guard) :: site.guards })
  | .render id =>
    match site.guards.lookup id with
    | none => Run.fail (.unknownGuard id)
    | some guard => do
      let visibility ← (guard.render site.evaluator site.context).mapError .evaluation
      return (.visibility visibility, site)

/-- Handle a request.  The site stays as it was when the request fails. -/
def step (site : Site) (request : Request) : Run RequestError Answer × Site :=
  let run := site.handle request
  match run.result with
  | .ok (answer, after) => (⟨run.effects, .ok answer⟩, after)
  | .error error => (⟨run.effects, .error error⟩, site)

end Site
end WikiAccess
