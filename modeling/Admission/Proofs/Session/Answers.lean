/-
  Admission.Proofs.Session.Answers — what the answers to a call say.

  A call ends with an answer of its handler, with a refusal or with the answer of a deadline guard.
  Each says the same to every client, however the router finishes it: which status it has, what its
  text is, and whether it advises to try again.

  Main results:
    * `exists_refusalEvent_eq` — **what a refusal says**;
    * `exists_deadlineEvent_eq` — **what a guard says**;
    * `worded` — what all events say that a call can end with.
-/
import Admission.Proofs.Http.Refusal
import Admission.Session.Task

namespace Admission.Session

open Http (Frame Response)

/-- The answer is the refusal for a reason, as a router finishes it. -/
structure SaysRefusal (policy : Policy) (reason : Reason) (frame : Frame) (a : Response) :
    Prop where
  status : a.status = policy.status
  contentType : a.header? "content-type" = some "text/plain; charset=utf-8"
  typeOptions : a.header? "x-content-type-options" = some "nosniff"
  /-- The advice is asked for with `true` iff the context of the request has ended. -/
  retryAfter : a.header? "retry-after" = (policy.retryAfter.map fun advice =>
    advice (reason == .timeout true)).map fun d => toString (d.nanos / 1000000000)
  /-- The text is left out where the method asks for none. -/
  body : frame.method ≠ "HEAD" → frame.method ≠ "CONNECT" ∨ policy.status.isSuccess = false →
    a.body = .text (Config.GateSettings.lineOf reason)

/-- The answer says that the time of the request is over. -/
structure SaysLate (reply : Reply) (a : Response) : Prop where
  status : a.status.code = 504
  contentType : a.header? "content-type" = some "text/plain; charset=utf-8"
  unadvised : a.header? "retry-after" = none
  body : (∀ frame, reply = .http frame → frame.method ≠ "HEAD") →
    a.body = .text "Service Timeout\n"

theorem exists_refusalEvent_eq (name : String) (policy : Policy) (reason : Reason)
    (frame : Frame) :
    ∃ a, Task.refusalEvent name (.http frame) policy reason = .response name a
      ∧ SaysRefusal policy reason frame a := by
  have hkeeps := frame.keeps_finish (.ofRejection (policy.reject reason))
  have hstatus := status_ofRejection (policy.reject reason)
  refine ⟨_, rfl, ?_⟩
  -- the router keeps each of the five, so they are those of the refusal
  constructor
  case status => exact hkeeps.status.trans hstatus
  case contentType =>
    rw [hkeeps.contentType, header?_ofRejection_of_ne (by decide)]
    rfl
  case typeOptions =>
    rw [hkeeps.typeOptions, header?_ofRejection_of_ne (by decide)]
    rfl
  case retryAfter =>
    have hambient : reason.isAmbient = (reason == .timeout true) := by
      cases reason with
      | capacity => rfl
      | timeout ambient => cases ambient <;> rfl
    rw [hkeeps.retryAfter, header?_ofRejection_retryAfter, ← hambient]
    rfl
  case body =>
    intro hmethod htunnel
    rw [hkeeps.body hmethod (htunnel.imp_right fun hs => by rw [hstatus]; exact hs),
      body_ofRejection, Config.GateSettings.body_reject]

theorem exists_deadlineEvent_eq (name : String) (reply : Reply) :
    ∃ a, Task.deadlineEvent name reply = .response name a ∧ SaysLate reply a := by
  cases reply with
  | ticket | value => exact ⟨_, rfl, rfl, rfl, rfl, fun _ => rfl⟩
  | http frame =>
      have hkeeps := frame.keeps_finish .deadlineExceeded
      refine ⟨_, rfl, congrArg Status.code hkeeps.status, hkeeps.contentType, hkeeps.retryAfter,
        fun hmethod => ?_⟩
      exact hkeeps.body (hmethod frame rfl) (.inr rfl)

/-- **WHAT THE EVENTS SAY** with which a call ends whose answers leave through `frame`. -/
structure Worded (policy : Policy) (name : String) (c : Call) (frame : Frame) : Prop where
  refusal : ∀ reason, ∃ a, Task.refusalEvent name c.reply policy reason = .response name a
    ∧ SaysRefusal policy reason frame a
  late : ∃ a, Task.deadlineEvent name c.reply = .response name a ∧ SaysLate c.reply a
  /-- What the inner service answers is passed on. -/
  answer : ∀ r, c.script.ending = .response r →
    ∃ a, Task.endingEvent name c.reply c.script.ending = .response name a ∧ frame.Keeps r a
  panic : ∀ text, c.script.ending = .panic text →
    Task.endingEvent name c.reply c.script.ending = .panicked name text

theorem worded {c : Call} {frame : Frame} (h : c.reply = .http frame) (policy : Policy)
    (name : String) : Worded policy name c frame := by
  constructor
  case refusal =>
    intro reason
    rw [h]
    exact exists_refusalEvent_eq name policy reason frame
  case late => exact exists_deadlineEvent_eq name c.reply
  case answer =>
    intro r hr
    rw [h, hr]
    exact ⟨_, rfl, frame.keeps_finish r⟩
  case panic =>
    intro text ht
    rw [ht]
    rfl

end Admission.Session
