/-
  Admission.Options — what a gate is built from, and when that is sound.

  Options are frozen when the gate is built.  They are sound iff the limit is POSITIVE and the limit
  and the backlog together do not exceed the permits that one pool can hold.  Signed numbers from the
  outside are checked in a fixed order: the limit, then the backlog, then their sum.
-/
import Admission.Duration
import Admission.Status

namespace Admission

/-! ## §1. Waiting. -/

/-- How long a request may wait for a run slot.  No time at all means that it does not wait;
waiting without end has to be asked for. -/
inductive BacklogWait where
  | upTo (d : Duration)
  | unbounded
deriving DecidableEq

namespace BacklogWait

/-- The finite span of a wait. -/
def duration? : BacklogWait → Option Duration
  | .upTo d => some d
  | .unbounded => none

def render : BacklogWait → String
  | .upTo d => "After(" ++ d.render ++ ")"
  | .unbounded => "Unbounded"

end BacklogWait

/-! ## §2. Options. -/

/-- The span after which a refused client may try again: for a refusal by the gate itself (`false`)
and for one that the request's own context brought about (`true`). -/
abbrev RetryAdvice := Bool → Duration

/-- What a gate and its refusals are built from. -/
structure Options where
  /-- How many requests run at once. -/
  limit : UInt64
  /-- How many more may wait. -/
  backlogLimit : UInt64
  wait : BacklogWait
  /-- The status of a refusal. -/
  status : Status
  retryAfter : Option RetryAdvice

/-- Why options are unsound. -/
inductive OptionsError where
  | limitNotPositive (got : Int)
  | backlogNegative (got : Int)
  | sumTooLarge
  | sumOverflows
  | invalidStatus (code : Nat)
deriving DecidableEq

namespace Options

/-- The permits that one pool can hold. -/
def maxPermits : Nat := 2305843009213693951

/-- The largest unsigned word. -/
def maxWord : Nat := 18446744073709551615

end Options

namespace OptionsError

/-- What is wrong, without the words common to all. -/
def detail : OptionsError → String
  | .limitNotPositive got => "limit must be greater than 0, got " ++ toString got
  | .backlogNegative got => "backlog_limit must not be negative, got " ++ toString got
  | .sumTooLarge => "limit + backlog_limit must not exceed " ++ toString Options.maxPermits
  | .sumOverflows => "limit + backlog_limit overflows"
  | .invalidStatus code => "invalid status code " ++ toString code

/-- The wording of each cause. -/
def message (e : OptionsError) : String := "invalid throttle configuration: " ++ e.detail

end OptionsError

namespace Options

/-- The span used where a limit is given alone. -/
def defaultWait : Duration := .ofSecs 60

/-- A limit alone: nothing waits. -/
def ofLimit (limit : UInt64) : Options :=
  { limit, backlogLimit := 0, wait := .upTo .zero, status := .tooManyRequests, retryAfter := none }

def withBacklog (o : Options) (backlogLimit : UInt64) (wait : BacklogWait) : Options :=
  { o with backlogLimit, wait }

def withStatus (o : Options) (status : Status) : Options := { o with status }

def withRetryAfter (o : Options) (advice : RetryAdvice) : Options :=
  { o with retryAfter := some advice }

/-- How many requests may run or wait, if that is a word. -/
def capacity? (o : Options) : Option Nat :=
  let sum := o.limit.toNat + o.backlogLimit.toNat
  if sum ≤ maxWord then some sum else none

/-- The check that every gate makes. -/
def validate (o : Options) : Except OptionsError Unit :=
  if o.limit = 0 then .error (.limitNotPositive 0)
  else match o.capacity? with
    | some capacity => if capacity ≤ maxPermits then .ok () else .error .sumTooLarge
    | none => .error .sumTooLarge

/-- Options from signed numbers. -/
def ofSigned (limit backlogLimit : Int64) (wait : BacklogWait) : Except OptionsError Options :=
  if limit.toInt ≤ 0 then .error (.limitNotPositive limit.toInt)
  else if backlogLimit.toInt < 0 then .error (.backlogNegative backlogLimit.toInt)
  else
    let o := (ofLimit limit.toUInt64).withBacklog backlogLimit.toUInt64 wait
    match o.validate with
    | .ok () => .ok o
    | .error e => .error e

/-- The options written out as a record. -/
def render (o : Options) : String :=
  "ThrottleOpts \x7b limit: " ++ toString o.limit.toNat ++
  ", backlog_limit: " ++ toString o.backlogLimit.toNat ++
  ", backlog_timeout: " ++ o.wait.render ++
  ", status_code: " ++ toString o.status.code ++
  ", retry_after: " ++ (if o.retryAfter.isSome then "true" else "false") ++ " \x7d"

end Options

end Admission
