/-
  Admission.Session.Scene — what the tasks of a session share, and what a handler does with it.

  The scene holds the clock, the gate with its policy, the cancellation tokens, the recorder, the
  permits given to handlers and the tickets that callers keep.  Time stands still while a task is
  polled.  A handler is a SCRIPT: actions that are performed in order, as far as the present instant
  lets them, and an ending.
-/
import Admission.Context
import Admission.Http.Routing

namespace Admission.Session

/-! ## §1. Events. -/

/-- What a session lets its observer see of a named request. -/
inductive Event where
  | admitted (name : String)
  | rejected (name : String) (reason : Reason)
  | refused (name : String) (rejection : Rejection)
  | started (name : String)
  | done (name : String) (value : Json.Value)
  | panicked (name : String) (text : String)
  | response (name : String) (answer : Http.Response)
  | contextDone (name : String)

/-! ## §2. The scene. -/

/-- What the tasks of a session share. -/
structure Scene where
  now : Duration
  gate : Gate
  policy : Policy
  tokens : Tokens
  /-- The recorder, once it is installed. -/
  metrics : Option Metrics
  /-- Permits to go on, by the name of the request whose handler waits for them. -/
  permits : List (String × Nat)
  /-- The tickets that callers keep under a name, by the number of the request. -/
  kept : List (String × Nat)
  /-- The events so far, oldest first. -/
  log : List Event

namespace Scene

def emit (s : Scene) (e : Event) : Scene := { s with log := s.log ++ [e] }

def record (s : Scene) (f : Metrics → Metrics) : Scene := { s with metrics := s.metrics.map f }

/-- The value under a name, with another value put in its place. -/
def assign {α : Type} (name : String) (value : α) : List (String × α) → List (String × α)
  | [] => [(name, value)]
  | (n, v) :: rest => if n = name then (n, value) :: rest else (n, v) :: assign name value rest

/-- Gives one permit to the handler of a request. -/
def givePermit (s : Scene) (name : String) : Scene :=
  { s with permits := assign name ((s.permits.lookup name).getD 0 + 1) s.permits }

/-- Takes one permit of a request, if there is one. -/
def takePermit? (s : Scene) (name : String) : Option Scene :=
  match s.permits.lookup name with
  | some (n + 1) => some { s with permits := assign name n s.permits }
  | _ => none

/-- Drops the ticket of a request. -/
def discardTicket (s : Scene) (key : Nat) : Scene := { s with gate := s.gate.discard key }

/-- Keeps the ticket of a request under a name; a ticket kept there before is dropped. -/
def keepTicket (s : Scene) (name : String) (key : Nat) : Scene :=
  let s := match s.kept.lookup name with
    | some old => s.discardTicket old
    | none => s
  { s with kept := assign name key s.kept }

/-- A parked request is dropped by whoever polls it. -/
def abandon (s : Scene) (key : Nat) : Scene :=
  if (s.gate.waiter? key).isSome then
    { s with gate := s.gate.abandon key }.record (·.recordRejected (.timeout true))
  else s

end Scene

/-! ## §3. Scripts. -/

/-- One thing that a handler does. -/
inductive Action where
  /-- Lets the observer see that the handler started. -/
  | announce
  /-- Waits for a permit to go on. -/
  | awaitPermit
  /-- Starts a timer and waits for it. -/
  | sleep (d : Duration)
  /-- Waits for a timer that was started. -/
  | sleepUntil (t : Duration)
deriving DecidableEq

/-- How a handler ends. -/
inductive Ending where
  | value (v : Json.Value)
  | response (r : Http.Response)
  | panic (text : String)

/-- What a handler does. -/
structure Script where
  actions : List Action
  ending : Ending

namespace Scene

/-- Performs actions as far as the present instant lets them; gives what is left to do. -/
def perform (name : String) : List Action → Scene → List Action × Scene
  | [], s => ([], s)
  | .announce :: rest, s => perform name rest (s.emit (.started name))
  | .awaitPermit :: rest, s =>
    match s.takePermit? name with
    | some s => perform name rest s
    | none => (.awaitPermit :: rest, s)
  | .sleep d :: rest, s =>
    if Timer.Due (Timer.after s.now d) s.now then perform name rest s
    else (.sleepUntil (Timer.after s.now d) :: rest, s)
  | .sleepUntil t :: rest, s =>
    if Timer.Due t s.now then perform name rest s else (.sleepUntil t :: rest, s)

end Scene

end Admission.Session
