/-
  Admission.Context — cancellation and deadlines of a request.

  A cancellation token knows its LINEAGE: itself and the tokens that it descends from.  Cancelling a
  token puts it on the list of cancelled tokens, and a token counts as cancelled as soon as one of
  its lineage is on that list; so a token reaches its descendants only, and a child of a cancelled
  token is born cancelled.  A context carries a token and, possibly, a deadline, which only ever
  moves EARLIER.
-/
import Admission.Timer

namespace Admission

/-! ## §1. Tokens. -/

/-- A cancellation token: its own number and its ancestors', nearest first. -/
structure Token where
  id : Nat
  ancestors : List Nat
deriving DecidableEq

/-- The tokens made so far, and those that were cancelled. -/
structure Tokens where
  /-- The number that the next token gets. -/
  fresh : Nat
  cancelled : List Nat
deriving DecidableEq

namespace Token

/-- The token and its ancestors. -/
def lineage (t : Token) : List Nat := t.id :: t.ancestors

def isCancelled (t : Token) (ts : Tokens) : Bool := t.lineage.any fun i => ts.cancelled.contains i

end Token

namespace Tokens

def empty : Tokens := ⟨0, []⟩

/-- A token without ancestors. -/
def root (ts : Tokens) : Token × Tokens := (⟨ts.fresh, []⟩, { ts with fresh := ts.fresh + 1 })

/-- A token that follows `parent`. -/
def child (ts : Tokens) (parent : Token) : Token × Tokens :=
  (⟨ts.fresh, parent.lineage⟩, { ts with fresh := ts.fresh + 1 })

/-- Cancels a token, and with it all that descend from it. -/
def cancel (ts : Tokens) (t : Token) : Tokens := { ts with cancelled := t.id :: ts.cancelled }

end Tokens

/-! ## §2. Contexts. -/

/-- What a request is accompanied by. -/
structure Context where
  /-- The name of the request in logs; drawn at random where none was set. -/
  requestId : Option String
  token : Token
  deadline : Option Duration
deriving DecidableEq

namespace Context

/-- A context that never ends of itself. -/
def root (ts : Tokens) : Context × Tokens :=
  let (token, ts) := ts.root
  (⟨none, token, none⟩, ts)

/-- A context that ends when its parent does, and inherits its deadline. -/
def child (c : Context) (ts : Tokens) : Context × Tokens :=
  let (token, ts) := ts.child c.token
  ({ c with token }, ts)

/-- Sets a deadline; an earlier one stays. -/
def withDeadline (c : Context) (t : Duration) : Context :=
  { c with deadline := some <| match c.deadline with
      | some current => current.earlier t
      | none => t }

/-- Sets a deadline `d` from now. -/
def withTimeout (c : Context) (now d : Duration) : Context := c.withDeadline (now + d)

def withToken (c : Context) (token : Token) : Context := { c with token }

def withRequestId (c : Context) (id : String) : Context := { c with requestId := some id }

/-- The deadline has come. -/
def isPast (c : Context) (now : Duration) : Bool :=
  match c.deadline with
  | some t => t ≤ now
  | none => false

/-- Cancelled, or past the deadline. -/
def isDone (c : Context) (ts : Tokens) (now : Duration) : Bool :=
  c.token.isCancelled ts || c.isPast now

/-- The span that is left before the deadline. -/
def remaining? (c : Context) (now : Duration) : Option Duration := c.deadline.map fun t => t - now

end Context

/-! ## §3. Waiting for the end. -/

/-- What can wake one who waits. -/
inductive Signal where
  | cancelled (token : Token)
  | due (t : Duration)
deriving DecidableEq

def Signal.isReady (ts : Tokens) (now : Duration) : Signal → Bool
  | .cancelled token => token.isCancelled ts
  | .due t => Timer.Due t now

namespace Context

/-- What one waits for at once who waits for the end of a context. -/
def signals (c : Context) : List Signal :=
  match c.deadline with
  | some t => [.cancelled c.token, .due t]
  | none => [.cancelled c.token]

/-- Whoever waits for the end of the context is woken: the first signal suffices. -/
def wakes (c : Context) (ts : Tokens) (now : Duration) : Bool :=
  c.signals.any fun signal => signal.isReady ts now

end Context

end Admission
