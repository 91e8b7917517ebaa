/-
  Admission.Session.Basic — sessions: a list of tasks, a clock, and the commands that drive them.

  A command changes the session at once, but runs no task.  Afterwards the tasks SETTLE: in rounds,
  every unfinished task is polled once, in the order of creation, until a round shows nothing new.
  Only the advance of the clock moves time, and by whole milliseconds.
-/
import Admission.Session.Dispatch

namespace Admission

/-! ## §1. Sessions. -/

/-- A session. -/
structure Session where
  site : Session.Site
  scene : Session.Scene
  contexts : List (String × Context)
  /-- All tasks ever created, oldest first. -/
  tasks : List Session.Task

namespace Session

/-- A session over a gate, at the start of the clock.  The clock has no end and spans alone are
measured on it, so that nothing depends on where it starts. -/
def ofGate (gate : Gate) (policy : Policy) (site : Site) (metrics : Option Metrics) : Session :=
  { site
    scene :=
      { now := .zero, gate, policy, tokens := .empty, metrics, permits := [], kept := [], log := [] }
    contexts := []
    tasks := [] }

/-! ## §2. Settling. -/

/-- Polls tasks in order. -/
def pollAll : List Task → Scene → List Task × Scene
  | [], s => ([], s)
  | t :: rest, s =>
    let (t, s) := t.poll s
    let (rest, s) := pollAll rest s
    (t :: rest, s)

/-- One round: every task is polled once. -/
def round (x : Session) : Session :=
  let (tasks, scene) := pollAll x.tasks x.scene
  { x with tasks, scene }

/-- Rounds until one shows nothing new, at most `n` of them. -/
def settleWithin : Nat → Session → Session
  | 0, x => x
  | n + 1, x =>
    let y := x.round
    if y.scene.log.length = x.scene.log.length then y else settleWithin n y

/-- Rounds until one shows nothing new.  A task shows two events at most, which bounds the rounds. -/
def settle (x : Session) : Session := settleWithin (2 * x.tasks.length + 1) x

/-! ## §3. Commands. -/

/-- What a new context is made from. -/
inductive Origin where
  | root
  | childOf (name : String)
  | cloneOf (name : String)

/-- A deadline, from now on or on the clock. -/
inductive Limit where
  | within (d : Duration)
  | instant (t : Duration)

/-- A handler, as a caller describes it. -/
structure Handler where
  hold : Bool
  sleep : Option Duration
  panic : Option String
  value : Json.Value

namespace Handler

/-- What the handler does before it ends. -/
def actions (h : Handler) : List Action :=
  [.announce] ++ (if h.hold then [.awaitPermit] else []) ++ (h.sleep.map Action.sleep).toList

/-- The handler of a call that returns a value. -/
def valueScript (h : Handler) : Script :=
  ⟨h.actions, match h.panic with | some text => .panic text | none => .value h.value⟩

/-- The handler of a page: a text is its body, and any other value leaves it empty. -/
def pageScript (h : Handler) : Script :=
  ⟨h.actions, match h.panic with
    | some text => .panic text
    | none => .response (.ofText .ok (h.value.asText?.getD ""))⟩

end Handler

/-- What can be done with a session. -/
inductive Command where
  | context (name : String) (origin : Origin) (tokenOf : Option String)
      (requestId : Option String) (limits : List Limit)
  | cancel (context : String)
  | watch (name context : String)
  | acquire (name : String) (context : Option String)
  | handle (name : String) (context : Option String) (handler : Handler)
  /-- A request to a router with one page, behind the gate and behind deadline guards, the first of
  them innermost. -/
  | layer (name : String) (context : Option String) (handler : Handler)
      (deadlines : List Duration) (request : Http.Request)
  /-- A request to the application's router. -/
  | http (name : String) (context : Option String) (request : Http.Request)
  | finish (name : String)
  | release (name : String)
  | drop (name : String)
  /-- The clock moves, in whole milliseconds. -/
  | advance (d : Duration) (times : Nat)
  | report (interval : Duration)
  | metrics
  | batch (commands : List Command)

/-- What a command answers at once. -/
inductive Answer where
  | nothing
  /-- Whether the ticket was released before, and whether it is now. -/
  | released (before after : Bool)
  | droppedTicket
  | droppedPending
  | exposition (lines : List String)
  | many (answers : List Answer)

/-- The context of a name. -/
def context? (x : Session) (name : Option String) : Option Context :=
  name.bind fun n => x.contexts.lookup n

def addTask (x : Session) (name : String) (job : Job) : Session :=
  { x with tasks := x.tasks ++ [⟨x.tasks.length, name, job, .fresh⟩] }

/-- Makes a context. -/
def makeContext (x : Session) (name : String) (origin : Origin) (tokenOf requestId : Option String)
    (limits : List Limit) : Session :=
  let tokens := x.scene.tokens
  let (c, tokens) := match origin with
    | .root => Context.root tokens
    | .childOf p =>
      match x.contexts.lookup p with
      | some parent => parent.child tokens
      | none => Context.root tokens
    | .cloneOf p =>
      match x.contexts.lookup p with
      | some c => (c, tokens)
      | none => Context.root tokens
  let c := match x.context? tokenOf with
    | some other => c.withToken other.token
    | none => c
  let c := match requestId with
    | some id => c.withRequestId id
    | none => c
  let c := limits.foldl (fun (c : Context) limit =>
    match limit with
    | .within d => c.withTimeout x.scene.now d
    | .instant t => c.withDeadline t) c
  { x with contexts := Scene.assign name c x.contexts, scene := { x.scene with tokens } }

/-- Releases the ticket kept under a name. -/
def releaseKept (x : Session) (name : String) : Session × Answer :=
  match x.scene.kept.lookup name with
  | none => (x, .nothing)
  | some key =>
    match x.scene.gate.ticket? key with
    | none => (x, .nothing)
    | some t =>
      ({ x with scene := { x.scene with gate := x.scene.gate.release key } },
        .released t.isReleased true)

/-- Aborts the first unfinished task of a name. -/
def abortFirst (name : String) : List Task → Scene → Option (List Task × Scene)
  | [], _ => none
  | t :: rest, s =>
    if !t.isFinished && t.isNamed name then
      let (t, s) := t.abort s
      some (t :: rest, s)
    else (abortFirst name rest s).map fun p => (t :: p.1, p.2)

/-- Drops the ticket kept under a name, or else the unfinished task of that name. -/
def dropNamed (x : Session) (name : String) : Session × Answer :=
  match x.scene.kept.lookup name with
  | some key =>
    let scene := x.scene.discardTicket key
    ({ x with scene := { scene with kept := scene.kept.filter (·.1 != name) } }, .droppedTicket)
  | none =>
    match abortFirst name x.tasks x.scene with
    | some (tasks, scene) => ({ x with tasks, scene }, .droppedPending)
    | none => (x, .nothing)

/-- Moves the clock by milliseconds. -/
def tick (x : Session) (ms : Nat) : Session :=
  { x with scene := { x.scene with now := x.scene.now + .ofMillis ms } }

/-- Moves the clock several times, settling between. -/
def tickTimes (ms : Nat) : Nat → Session → Session
  | 0, x => x
  | 1, x => x.tick ms
  | n + 2, x => tickTimes ms (n + 1) (x.tick ms).settle

mutual

/-- Carries out a command; no task is polled, save between moves of the clock. -/
def apply (x : Session) : Command → Session × Answer
  | .context name origin tokenOf requestId limits =>
    (x.makeContext name origin tokenOf requestId limits, .nothing)
  | .cancel context =>
    match x.contexts.lookup context with
    | some c =>
      ({ x with scene := { x.scene with tokens := x.scene.tokens.cancel c.token } }, .nothing)
    | none => (x, .nothing)
  | .watch name context =>
    match x.contexts.lookup context with
    | some c => (x.addTask name (.watch c), .nothing)
    | none => (x, .nothing)
  | .acquire name context =>
    (x.addTask name (.call ⟨.ticket, [], x.context? context, ⟨[], .value .null⟩⟩), .nothing)
  | .handle name context handler =>
    (x.addTask name (.call ⟨.value, [], x.context? context, handler.valueScript⟩), .nothing)
  | .layer name context handler deadlines request =>
    (x.addTask name (layerJob (x.context? context) handler.pageScript deadlines request), .nothing)
  | .http name context request =>
    (x.addTask name (siteJob x.site (x.context? context) request), .nothing)
  | .finish name => ({ x with scene := x.scene.givePermit name }, .nothing)
  | .release name => x.releaseKept name
  | .drop name => x.dropNamed name
  | .advance d times => (tickTimes d.wholeMillis times x, .nothing)
  | .report interval => (x.addTask "" (.report interval), .nothing)
  | .metrics =>
    match x.scene.metrics with
    | some m => (x, .exposition m.lines)
    | none => (x, .nothing)
  | .batch commands =>
    let (x, answers) := applyAll x commands
    (x, .many answers)

/-- Carries out commands one after the other. -/
def applyAll (x : Session) : List Command → Session × List Answer
  | [] => (x, [])
  | c :: rest =>
    let (x, a) := apply x c
    let (x, as) := applyAll x rest
    (x, a :: as)

end

/-- Carries out a command and settles; gives the events since. -/
def step (x : Session) (c : Command) : Session × Answer × List Event :=
  let quiet := { x with scene := { x.scene with log := [] } }
  let (y, answer) := quiet.apply c
  let y := y.settle
  (y, answer, y.scene.log)

end Session

end Admission
