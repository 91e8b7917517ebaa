/-
  Admission.Proofs.Http.Refusal — what the client of a refused request reads.

  A refusal is made from settings in five steps: the settings make options, the options a policy, the
  policy a refusal, the refusal an answer, and the router finishes the answer.  Defaults are filled in
  at three of them.  Here the steps are put together, for all settings that are accepted and for all
  reasons.

  Main results:
    * `header?_ofRejection_retryAfter` — the advice of a refusal as the client reads it;
    * `promised_reject` — **what settings promise of a refusal**.
-/
import Admission.Proofs.Config.Limits
import Admission.Proofs.Http.Frame

namespace Admission

/-! ## §1. Answers of refusals. -/

open Http (Response)

/-- The advice of a refusal as the header tells it. -/
theorem header?_ofRejection_retryAfter (r : Rejection) :
    (Response.ofRejection r).header? "retry-after"
      = r.retryAfter.map fun d => toString (d.nanos / 1000000000) := by
  unfold Response.ofRejection Rejection.retryHeader?
  cases r.retryAfter with
  | none => rfl
  | some d => exact (Response.header?_setHeader _ _ _ _).trans (if_pos rfl)

/-- The other headers hold for any refusal. -/
theorem header?_ofRejection_of_ne {name : String} (h : name ≠ "retry-after") (r : Rejection) :
    (Response.ofRejection r).header? name
      = List.lookup name
          [("content-type", "text/plain; charset=utf-8"), ("x-content-type-options", "nosniff")] := by
  unfold Response.ofRejection
  cases r.retryHeader? with
  | none => rfl
  | some seconds => exact Response.header?_setHeader_of_ne h _ _

theorem status_ofRejection (r : Rejection) : (Response.ofRejection r).status = r.status := by
  unfold Response.ofRejection
  cases r.retryHeader? <;> rfl

theorem body_ofRejection (r : Rejection) : (Response.ofRejection r).body = .text r.body := by
  unfold Response.ofRejection
  cases r.retryHeader? <;> rfl

/-! ## §2. What settings promise. -/

namespace Config.GateSettings

/-- The text of a reason, as a line. -/
def lineOf : Reason → String
  | .capacity => "Server capacity exceeded.\n"
  | .timeout _ => "Timed out while waiting for a pending request to complete.\n"

/-- The seconds after which the settings advise to try again: those for cancelled requests stand back
for the others where they are not set, and count for nothing where the others are not. -/
def advisedSecs? (s : GateSettings) : Reason → Option UInt64
  | .capacity | .timeout false => s.retryAfterSecs
  | .timeout true => s.retryAfterSecs.map fun secs => s.retryAfterCancelledSecs.getD secs

/-- **WHAT SETTINGS PROMISE OF A REFUSAL**, and of the answer that it makes. -/
structure Promised (s : GateSettings) (r : Rejection) : Prop where
  /-- The status code 0 stands for 429. -/
  status : r.status.code = if s.statusCode.toNat = 0 then 429 else s.statusCode.toNat
  message : r.body = lineOf r.reason
  answerStatus : (Response.ofRejection r).status = r.status
  answerBody : (Response.ofRejection r).body = .text (lineOf r.reason)
  contentType :
    (Response.ofRejection r).header? "content-type" = some "text/plain; charset=utf-8"
  typeOptions : (Response.ofRejection r).header? "x-content-type-options" = some "nosniff"
  /-- The advice is written in decimals. -/
  retryAfter : (Response.ofRejection r).header? "retry-after"
    = (s.advisedSecs? r.reason).map fun secs => toString secs.toNat
  /-- It is there iff the settings have any. -/
  advised : ((Response.ofRejection r).header? "retry-after").isSome = s.retryAfterSecs.isSome

theorem isSome_advisedSecs? (s : GateSettings) (reason : Reason) :
    (s.advisedSecs? reason).isSome = s.retryAfterSecs.isSome := by
  cases reason with
  | capacity => rfl
  | timeout ambient => cases ambient with
    | false => rfl
    | true => exact Option.isSome_map

theorem body_reject (p : Policy) (reason : Reason) : (p.reject reason).body = lineOf reason := by
  cases reason <;> rfl

/-- The span that settings advise is a number of whole seconds. -/
theorem retryAfter_reject (s : GateSettings) (status : Status) (reason : Reason) :
    ((Policy.ofOptions (s.optionsWith status)).reject reason).retryAfter
      = (s.advisedSecs? reason).map fun secs => .ofSecs secs.toNat := by
  show (s.retryAdvice?.map fun advice => advice reason.isAmbient) = _
  unfold retryAdvice? advisedSecs?
  cases s.retryAfterSecs with
  | none => cases reason with
    | capacity => rfl
    | timeout ambient => cases ambient <;> rfl
  | some secs => cases reason with
    | capacity => rfl
    | timeout ambient => cases ambient <;> rfl

theorem code_of_status? {s : GateSettings} {status : Status} (h : s.status? = some status) :
    status.code = if s.statusCode.toNat = 0 then 429 else s.statusCode.toNat := by
  have hzero : s.statusCode = 0 ↔ s.statusCode.toNat = 0 := UInt16.toNat_inj.symm
  unfold status? at h
  split at h
  next hcode =>
    rw [if_pos (hzero.mp hcode), ← Option.some.inj h]
    rfl
  next hcode =>
    rw [if_neg fun hn => hcode (hzero.mpr hn)]
    exact Status.code_of_ofNat? h

/-- **EVERY REFUSAL KEEPS THE PROMISE** of the settings that its policy was made from. -/
theorem promised_reject {s : GateSettings} {o : Options} (h : s.toOptions = .ok o)
    (reason : Reason) : Promised s ((Policy.ofOptions o).reject reason) := by
  obtain ⟨hfault, hstatus⟩ := s.exists_options_iff.mp ⟨o, h⟩
  obtain ⟨status, hs⟩ := Option.isSome_iff_exists.mp hstatus
  rw [toOptions_eq, hfault, hs] at h
  cases h
  -- the header tells whole seconds, and these are what the settings gave
  have hheader : (Response.ofRejection ((Policy.ofOptions (s.optionsWith status)).reject
        reason)).header? "retry-after"
      = (s.advisedSecs? reason).map fun secs => toString secs.toNat := by
    rw [header?_ofRejection_retryAfter, retryAfter_reject, Option.map_map]
    congr 1
    funext secs
    exact congrArg toString (Duration.wholeSecs_ofSecs secs.toNat)
  constructor
  case status => exact code_of_status? hs
  case message => exact body_reject _ reason
  case answerStatus => exact status_ofRejection _
  case answerBody =>
    rw [body_ofRejection, body_reject]
    rfl
  case contentType =>
    rw [header?_ofRejection_of_ne (by decide)]
    rfl
  case typeOptions =>
    rw [header?_ofRejection_of_ne (by decide)]
    rfl
  case retryAfter => exact hheader
  case advised => rw [hheader, Option.isSome_map, isSome_advisedSecs?]

end Config.GateSettings

end Admission
