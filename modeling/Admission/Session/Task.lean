/-
  Admission.Session.Task — requests as tasks, and what one poll of a task does.

  A poll takes a task as far as it can go at the present instant.  A throttled request passes its
  deadline guards first, the outermost before the others; then the gate; then its handler, which
  holds the ticket until it ends.  A guard whose deadline has come cancels its context, answers, and
  drops everything within it, wherever that stands.
-/
import Admission.Http.Router
import Admission.Session.Scene

namespace Admission.Session

/-! ## §1. Tasks. -/

/-- What a caller gets for a throttled request. -/
inductive Reply where
  /-- The ticket itself. -/
  | ticket
  /-- What the handler returns, or the refusal. -/
  | value
  /-- An HTTP answer. -/
  | http (frame : Http.Frame)
deriving DecidableEq

/-- A request that passes the gate. -/
structure Call where
  reply : Reply
  /-- The spans of the deadline guards around it, outermost first. -/
  timeouts : List Duration
  /-- The context that the request came with. -/
  ambient : Option Context
  script : Script

/-- What a task is there for. -/
inductive Job where
  | call (c : Call)
  /-- A request that does not concern the gate. -/
  | free (v : Http.Visit)
  /-- Waits for the end of a context. -/
  | watch (c : Context)
  /-- Reports the gate's figures to the recorder at an interval. -/
  | report (interval : Duration)

/-- A deadline guard that was reached: its deadline, and the token of the context that it made. -/
structure Guard where
  deadline : Duration
  token : Token
deriving DecidableEq

/-- How far a task has come. -/
inductive Stage where
  /-- Never polled. -/
  | fresh
  /-- Waits at the gate, with the context that may end the wait. -/
  | parked (guards : List Guard) (context : Option Context)
  /-- Its handler has this left to do. -/
  | running (guards : List Guard) (todo : List Action)
  /-- Reports next at an instant. -/
  | reporting (next : Duration)
  | finished

/-- A task. -/
structure Task where
  /-- Its number, under which the gate knows it. -/
  key : Nat
  name : String
  job : Job
  stage : Stage

namespace Task

def isFinished (t : Task) : Bool :=
  match t.stage with
  | .finished => true
  | _ => false

/-- The task is a request of this name. -/
def isNamed (t : Task) (name : String) : Bool :=
  match t.job with
  | .report _ => false
  | _ => t.name == name

def finish (t : Task) : Task := { t with stage := .finished }

/-! ## §2. Guards. -/

/-- The guards of a request as its first poll reaches them. -/
structure Armed where
  guards : List Guard
  /-- The context within the innermost guard. -/
  context : Option Context
  tokens : Tokens
  /-- The last guard had no time at all: nothing within it is polled. -/
  fired : Bool

/-- Reaches guards from the outside to the inside.  Each makes a context of its own, from the one
around it, whose deadline is its own or an earlier one. -/
def arm (now : Duration) : List Duration → Option Context → Tokens → Armed
  | [], c, ts => ⟨[], c, ts, false⟩
  | d :: rest, c, ts =>
    let (inner, ts) := match c with
      | some parent => parent.child ts
      | none => Context.root ts
    let inner := inner.withDeadline (now + d)
    let guard : Guard := ⟨now + d, inner.token⟩
    if Timer.Due guard.deadline now then ⟨[guard], some inner, ts.cancel inner.token, true⟩
    else
      let armed := arm now rest (some inner) ts
      { armed with guards := guard :: armed.guards }

/-- The outermost guard whose deadline has come. -/
def dueGuard? (now : Duration) (guards : List Guard) : Option Guard :=
  guards.find? fun g => Timer.Due g.deadline now

/-! ## §3. Throttled requests. -/

/-- The end of a handler, as the observer sees it. -/
def endingEvent (name : String) (reply : Reply) : Ending → Event
  | .value v => .done name v
  | .panic text => .panicked name text
  | .response r =>
    match reply with
    | .http frame => .response name (frame.finish r)
    | _ => .response name r

/-- A refusal, as the observer sees it. -/
def refusalEvent (name : String) (reply : Reply) (policy : Policy) (reason : Reason) : Event :=
  match reply with
  | .ticket => .rejected name reason
  | .value => .refused name (policy.reject reason)
  | .http frame => .response name (frame.finish (.ofRejection (policy.reject reason)))

/-- The answer of a guard, as the observer sees it. -/
def deadlineEvent (name : String) (reply : Reply) : Event :=
  match reply with
  | .http frame => .response name (frame.finish .deadlineExceeded)
  | _ => .response name .deadlineExceeded

/-- A handler goes on; when it ends, its ticket is dropped before its end is seen. -/
def proceed (t : Task) (c : Call) (guards : List Guard) (todo : List Action) (s : Scene) :
    Task × Scene :=
  match s.perform t.name todo with
  | ([], s) => (t.finish, (s.discardTicket t.key).emit (endingEvent t.name c.reply c.script.ending))
  | (todo, s) => ({ t with stage := .running guards todo }, s)

/-- What follows from the gate's verdict. -/
def settleVerdict (t : Task) (c : Call) (guards : List Guard) (context : Option Context)
    (s : Scene) : Verdict → Task × Scene
  | .parked => ({ t with stage := .parked guards context }, s)
  | .rejected reason =>
    (t.finish,
      (s.record (·.recordRejected reason)).emit (refusalEvent t.name c.reply s.policy reason))
  | .admitted =>
    let s := s.record (·.recordAdmitted)
    match c.reply with
    | .ticket => (t.finish, (s.keepTicket t.name t.key).emit (.admitted t.name))
    | _ => t.proceed c guards c.script.actions s

/-- The context, if there is one, has ended. -/
def isOver (context : Option Context) (s : Scene) : Bool :=
  match context with
  | some c => c.isDone s.tokens s.now
  | none => false

/-- A guard answers that the deadline has come. -/
def missDeadline (t : Task) (c : Call) (s : Scene) : Task × Scene :=
  (t.finish, (s.record (·.recordDeadlineExceeded)).emit (deadlineEvent t.name c.reply))

/-- The first poll of a throttled request. -/
def enter (t : Task) (c : Call) (s : Scene) : Task × Scene :=
  let armed := arm s.now c.timeouts c.ambient s.tokens
  let s := { s with tokens := armed.tokens }
  if armed.fired then t.missDeadline c s
  else
    let (gate, verdict) := s.gate.enter t.key s.now (isOver armed.context s)
    t.settleVerdict c armed.guards armed.context { s with gate } verdict

/-- A later poll of a throttled request that waits. -/
def resume (t : Task) (c : Call) (guards : List Guard) (context : Option Context) (s : Scene) :
    Task × Scene :=
  match dueGuard? s.now guards with
  | some g =>
    t.missDeadline c ({ s with tokens := s.tokens.cancel g.token }.abandon t.key)
  | none =>
    let (gate, verdict) := s.gate.resume t.key s.now (isOver context s)
    t.settleVerdict c guards context { s with gate } verdict

/-- A later poll of a throttled request whose handler runs. -/
def advance (t : Task) (c : Call) (guards : List Guard) (todo : List Action) (s : Scene) :
    Task × Scene :=
  match dueGuard? s.now guards with
  | some g =>
    t.missDeadline c ({ s with tokens := s.tokens.cancel g.token }.discardTicket t.key)
  | none => t.proceed c guards todo s

/-! ## §4. One poll. -/

/-- Reports the gate's figures. -/
def reportFigures (s : Scene) : Scene := s.record (·.recordSnapshot s.gate.snapshot)

/-- The first instant after `now` that is a whole number of intervals after `next`. -/
def nextReport (interval next now : Duration) : Duration :=
  ⟨next.nanos + interval.nanos * ((now.nanos - next.nanos) / interval.nanos + 1)⟩

/-- One poll of a task. -/
def poll (t : Task) (s : Scene) : Task × Scene :=
  match t.job, t.stage with
  | _, .finished => (t, s)
  | .call c, .fresh => t.enter c s
  | .call c, .parked guards context => t.resume c guards context s
  | .call c, .running guards todo => t.advance c guards todo s
  | .call _, .reporting _ => (t, s)
  | .free v, _ =>
    (t.finish, s.emit (.response t.name (v.freeResponse s.gate.snapshot s.metrics)))
  | .watch c, _ =>
    if c.wakes s.tokens s.now then (t.finish, s.emit (.contextDone t.name)) else (t, s)
  | .report interval, .reporting next =>
    if Timer.Due next s.now then
      ({ t with stage := .reporting (nextReport interval next s.now) }, reportFigures s)
    else (t, s)
  | .report interval, _ =>
    if interval.nanos = 0 then (t.finish, s)
    else ({ t with stage := .reporting (s.now + interval) }, reportFigures s)

/-- The task is dropped by its caller: it gives back what it holds. -/
def abort (t : Task) (s : Scene) : Task × Scene :=
  match t.stage with
  | .parked _ _ => (t.finish, s.abandon t.key)
  | .running _ _ => (t.finish, s.discardTicket t.key)
  | _ => (t.finish, s)

end Task

end Admission.Session
