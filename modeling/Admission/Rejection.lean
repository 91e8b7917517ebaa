/-
  Admission.Rejection — why a request is refused, and what its client is told.

  A refusal names its reason, carries the status of the policy and a fixed message, and may advise
  when to try again.  The retry advice is asked with `true` exactly when the request's OWN context
  ended its wait.
-/
import Admission.Options

namespace Admission

/-! ## §1. Reasons. -/

/-- Why the gate refuses a request. -/
inductive Reason where
  /-- As many requests run or wait as may. -/
  | capacity
  /-- The wait was given up: by the request's own context, or else by the gate's timer. -/
  | timeout (ambientCancel : Bool)
deriving DecidableEq

namespace Reason

/-- The label of a reason in figures and logs. -/
def label : Reason → String
  | .capacity => "capacity"
  | .timeout false => "timeout"
  | .timeout true => "cancelled"

/-- A reason written out as a value. -/
def render : Reason → String
  | .capacity => "Capacity"
  | .timeout b => "Timeout \x7b ambient_cancel: " ++ (if b then "true" else "false") ++ " \x7d"

/-- The request's own context brought the refusal about. -/
def isAmbient : Reason → Bool
  | .capacity => false
  | .timeout b => b

/-- The fixed message of a reason. -/
def message : Reason → String
  | .capacity => "Server capacity exceeded."
  | .timeout _ => "Timed out while waiting for a pending request to complete."

end Reason

/-! ## §2. Refusals and the policy that renders them. -/

/-- One refusal, as the client is told. -/
structure Rejection where
  reason : Reason
  status : Status
  message : String
  retryAfter : Option Duration
deriving DecidableEq

namespace Rejection

/-- The message as a line. -/
def body (r : Rejection) : String := r.message ++ "\n"

/-- The retry advice in whole seconds, rounded down. -/
def retryHeader? (r : Rejection) : Option String :=
  r.retryAfter.map fun d => toString d.wholeSecs

def render (r : Rejection) : String := r.message ++ " (" ++ r.status.render ++ ")"

end Rejection

/-- How refusals are rendered. -/
structure Policy where
  status : Status
  retryAfter : Option RetryAdvice

namespace Policy

/-- The policy used where nothing is set. -/
def standard : Policy := ⟨.tooManyRequests, none⟩

def ofOptions (o : Options) : Policy := ⟨o.status, o.retryAfter⟩

/-- The refusal for a reason. -/
def reject (p : Policy) (reason : Reason) : Rejection :=
  { reason
    status := p.status
    message := reason.message
    retryAfter := p.retryAfter.map fun advice => advice reason.isAmbient }

/-- The policy written out as a record. -/
def render (p : Policy) : String :=
  "RejectionPolicy \x7b status_code: " ++ toString p.status.code ++
  ", retry_after: " ++ (if p.retryAfter.isSome then "true" else "false") ++ " \x7d"

end Policy

end Admission
