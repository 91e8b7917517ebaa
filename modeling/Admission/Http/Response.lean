/-
  Admission.Http.Response — HTTP answers.

  An answer has a status, headers and a body.  The body is kept as what it tells, so that its text
  and its length are functions of it; only the exposition of the metrics, which also shows the wall
  clock's figures, has no length that is known here.
-/
import Admission.Failure
import Admission.Gate.Figures
import Admission.Metrics

namespace Admission.Http

/-! ## §1. Bodies. -/

/-- What a body tells. -/
inductive Body where
  | text (s : String)
  | failure (f : Failure)
  | figures (s : Gate.Snapshot)
  | exposition (lines : List String)
deriving DecidableEq

namespace Body

/-- The body without content. -/
def empty : Body := .text ""

/-- The text of a body written at `timestamp`. -/
def render (b : Body) (timestamp : UInt64) : String :=
  match b with
  | .text s => s
  | .failure f => (FailureReport.ofFailure f timestamp).toValue.compact
  | .figures s => s.toValue.compact
  | .exposition lines => String.join (lines.map (· ++ "\n"))

/-- A time of the present age: its seconds since the epoch have ten digits. -/
def presentTime : UInt64 := 1700000000

/-- The length of the body in bytes, where it is known. -/
def length? : Body → Option Nat
  | .exposition _ => none
  | b => some (b.render presentTime).utf8ByteSize

end Body

/-! ## §2. Answers. -/

/-- An answer. -/
structure Response where
  status : Status
  headers : List (String × String)
  body : Body
deriving DecidableEq

namespace Response

def hasHeader (r : Response) (name : String) : Bool := r.headers.any (·.1 == name)

/-- Sets a header, in place of one of the same name. -/
def setHeader (r : Response) (name value : String) : Response :=
  { r with headers := r.headers.filter (·.1 != name) ++ [(name, value)] }

/-- An answer without headers and body. -/
def bare (status : Status) : Response := ⟨status, [], .empty⟩

def plainType : String := "text/plain; charset=utf-8"

/-- A plain text. -/
def ofText (status : Status) (s : String) : Response :=
  ⟨status, [("content-type", plainType)], .text s⟩

/-- The answer that reports a failure. -/
def ofFailure (f : Failure) : Response :=
  ⟨f.kind.status, [("content-type", "application/json")], .failure f⟩

/-- The answer with a gate's figures. -/
def ofSnapshot (s : Gate.Snapshot) : Response :=
  ⟨.ok, [("content-type", "application/json")], .figures s⟩

/-- The answer with the exposition of the metrics; a failure if there is no recorder. -/
def ofMetrics : Option Metrics → Response
  | some m =>
    ⟨.ok, [("content-type", "text/plain; version=0.0.4; charset=utf-8")], .exposition m.lines⟩
  | none => .ofFailure ⟨.serviceUnavailable, "metrics not initialized"⟩

/-- The answer of a refusal. -/
def ofRejection (r : Rejection) : Response :=
  let answer : Response :=
    ⟨r.status, [("content-type", plainType), ("x-content-type-options", "nosniff")], .text r.body⟩
  match r.retryHeader? with
  | some seconds => answer.setHeader "retry-after" seconds
  | none => answer

/-- The answer of a request that took longer than its deadline. -/
def deadlineExceeded : Response := .ofText .gatewayTimeout "Service Timeout\n"

end Response

end Admission.Http
