/-
  Admission.Session.Dispatch — what becomes of a request that a router takes to its page.

  The layers around the page decide.  Cross-origin rules are outside of everything else, and answer
  an OPTIONS request themselves.  A page with the gate around it is reached by a CALL, and the
  deadline guards around the gate are the guards of this call; a page with neither answers at once.
  No task goes through layers in another order, and the routers here have none.
-/
import Admission.Session.Task

namespace Admission.Session

open Http (Layer Router Visit)

/-! ## §1. Layers. -/

/-- What is done behind the gate, where `work` is what the gate is there for; nothing for a page that
is not put behind a gate. -/
def script? (v : Visit) (work : Script) : Option Script :=
  if v.refusesMethod then some ⟨[], .response (.bare .methodNotAllowed)⟩
  else match v.service.page with
    | .work => some work
    | .nothing => some ⟨[], .response (.bare .notFound)⟩
    | .stats | .metrics | .health | .missing => none

/-- A call with the deadline guards that are around the gate. -/
def guardedCall? (c : Call) : List Layer → Option Call
  | [.throttle] => some c
  | .deadline d :: inner => (guardedCall? c inner).map fun c => { c with timeouts := d :: c.timeouts }
  | _ => none

/-- What a visit becomes within these layers; nothing if no task goes through them. -/
def jobWithin? (v : Visit) (context : Option Context) (work : Script) : List Layer → Option Job
  | [] => if v.service.page = .work then none else some (.free v)
  | .sharing :: inner =>
    if v.request.method = "OPTIONS" then some (.free v) else jobWithin? v context work inner
  | layer :: inner =>
    (script? v work).bind fun script =>
      (guardedCall? ⟨.http v.frame, [], context, script⟩ (layer :: inner)).map .call

/-- What a visit becomes within the layers of its service. -/
def job? (v : Visit) (context : Option Context) (work : Script) : Option Job :=
  jobWithin? v context work v.service.layers

/-- What a page does that may only be read. -/
def readScript (r : Http.Request) (work : Script) : Script :=
  if r.isRead then work else ⟨[], .response (.bare .methodNotAllowed)⟩

theorem script?_of_page {v : Visit} (he : v.endpoint = .page) (hp : v.service.page = .work)
    (work : Script) : script? v work = some (readScript v.request work) := by
  unfold script? readScript Visit.refusesMethod
  rw [he, hp]
  cases v.request.isRead <;> rfl

theorem guardedCall?_gateLayers (c : Call) (deadlines : List Duration) :
    guardedCall? c (deadlines.map .deadline ++ [.throttle])
      = some { c with timeouts := deadlines ++ c.timeouts } := by
  induction deadlines with
  | nil => rfl
  | cons d rest ih =>
      show (guardedCall? c (rest.map .deadline ++ [.throttle])).map _ = _
      rw [ih]
      rfl

/-- Within guards and the gate, a visit becomes a call. -/
theorem jobWithin?_gateLayers {v : Visit} (context : Option Context) {work script : Script}
    (hs : script? v work = some script) (deadlines : List Duration) :
    jobWithin? v context work (Router.gateLayers deadlines)
      = some (.call ⟨.http v.frame, deadlines.reverse, context, script⟩) := by
  have hcall := guardedCall?_gateLayers ⟨.http v.frame, [], context, script⟩ deadlines.reverse
  unfold Router.gateLayers
  -- there is a layer, and it is not that of the cross-origin rules
  have hjob : ∀ ds : List Duration, jobWithin? v context work (ds.map .deadline ++ [.throttle])
      = (script? v work).bind fun script =>
          (guardedCall? ⟨.http v.frame, [], context, script⟩
            (ds.map .deadline ++ [.throttle])).map .call := by
    rintro (_ | ⟨d, rest⟩) <;> rfl
  rw [hjob, hs, Option.bind_some, hcall, List.append_nil, Option.map_some]

/-! ## §2. The application's router. -/

/-- What the application's router is built with. -/
structure Site where
  /-- How long the page behind the gate takes. -/
  workDelay : Duration
  /-- How long a request for that page may take at all. -/
  requestTimeout : Option Duration
deriving DecidableEq

/-- Where the application's router takes a request. -/
def Site.visit (site : Site) (request : Http.Request) : Visit :=
  (Router.application site.requestTimeout).visit request

/-- What the application's page does. -/
def workScript (site : Site) : Script :=
  ⟨if site.workDelay.nanos = 0 then [] else [.sleep site.workDelay], .response (.ofText .ok ".")⟩

section

variable (site : Site) (context : Option Context) {request : Http.Request} (work : Script)

/-- The page behind the gate makes a call, behind the guard of the router if it has one. -/
theorem job?_of_page (hpath : request.path = "/") (hmethod : request.method ≠ "OPTIONS") :
    job? (site.visit request) context work = some (.call
      { reply := .http (site.visit request).frame, timeouts := site.requestTimeout.toList
        ambient := context, script := readScript request work }) := by
  have hvisit : site.visit request
      = ⟨request, .page, ⟨.sharing :: Router.gateLayers site.requestTimeout.toList, .work⟩⟩ := by
    refine Router.visit_of_find? _ ?_
    rw [Router.find?_application, if_pos hpath]
  have hscript : script? (site.visit request) work = some (readScript request work) := by
    rw [hvisit]
    exact script?_of_page rfl rfl work
  have htimeouts : site.requestTimeout.toList.reverse = site.requestTimeout.toList := by
    cases site.requestTimeout <;> rfl
  have hjob := jobWithin?_gateLayers context hscript site.requestTimeout.toList
  rw [htimeouts] at hjob
  rw [← hjob]
  unfold job?
  rw [show (site.visit request).service.layers = _ from
    congrArg (fun v : Visit => v.service.layers) hvisit]
  exact if_neg hmethod

/-- Any other request answers at once, and so does every preflight. -/
theorem job?_of_aside (h : request.path ≠ "/" ∨ request.method = "OPTIONS") :
    job? (site.visit request) context work = some (.free (site.visit request)) := by
  unfold job?
  rw [show (site.visit request).service
    = (Router.application site.requestTimeout).service request.path from rfl]
  by_cases hpath : request.path = "/"
  · have hmethod := h.resolve_left fun hne => hne hpath
    rw [hpath, Router.service_application_root]
    exact if_pos hmethod
  · obtain ⟨page, hpage, hservice⟩ := Router.service_application_of_ne _ site.requestTimeout hpath
    have hvisit : (site.visit request).service.page = page :=
      congrArg Http.Service.page hservice
    rw [hservice]
    show (if request.method = "OPTIONS" then _
      else if (site.visit request).service.page = .work then none else _) = _
    rw [hvisit, if_neg hpage, ite_self]

/-- There is no third case. -/
theorem job?_cases (request : Http.Request) :
    job? (site.visit request) context work = some (.free (site.visit request))
      ∨ job? (site.visit request) context work = some (.call
        { reply := .http (site.visit request).frame, timeouts := site.requestTimeout.toList
          ambient := context, script := readScript request work }) := by
  by_cases hmethod : request.method = "OPTIONS"
  · exact .inl (job?_of_aside site context work (.inr hmethod))
  by_cases hpath : request.path = "/"
  · exact .inr (job?_of_page site context work hpath hmethod)
  · exact .inl (job?_of_aside site context work (.inl hpath))

theorem isSome_job? (request : Http.Request) :
    (job? (site.visit request) context work).isSome := by
  rcases job?_cases site context work request with h | h
  · rw [h]
    rfl
  · rw [h]
    rfl

/-- The job that a request to the application's router makes. -/
def siteJob (request : Http.Request) : Job :=
  (job? (site.visit request) context (workScript site)).get
    (isSome_job? site context (workScript site) request)

theorem siteJob_of_page (hpath : request.path = "/") (hmethod : request.method ≠ "OPTIONS") :
    siteJob site context request = .call
      { reply := .http (site.visit request).frame, timeouts := site.requestTimeout.toList
        ambient := context, script := readScript request (workScript site) } :=
  Option.get_of_eq_some _ (job?_of_page site context _ hpath hmethod)

theorem siteJob_of_aside (h : request.path ≠ "/" ∨ request.method = "OPTIONS") :
    siteJob site context request = .free (site.visit request) :=
  Option.get_of_eq_some _ (job?_of_aside site context _ h)

theorem siteJob_cases (request : Http.Request) :
    siteJob site context request = .free (site.visit request)
      ∨ siteJob site context request = .call
        { reply := .http (site.visit request).frame, timeouts := site.requestTimeout.toList
          ambient := context, script := readScript request (workScript site) } :=
  (job?_cases site context (workScript site) request).imp (Option.get_of_eq_some _)
    (Option.get_of_eq_some _)

end

/-! ## §3. A router with one page. -/

/-- Where a router with one page takes a request. -/
def layerVisit (deadlines : List Duration) (request : Http.Request) : Visit :=
  (Router.gated deadlines).visit request

/-- What is done behind its gate: the page has its script, and all other paths have none. -/
def layerScript (request : Http.Request) (work : Script) : Script :=
  if request.path = "/" then readScript request work else ⟨[], .response (.bare .notFound)⟩

section

variable (context : Option Context) (work : Script) (deadlines : List Duration)
  (request : Http.Request)

/-- Whatever is asked of it, the gate is asked first, behind all guards. -/
theorem job?_layerVisit :
    job? (layerVisit deadlines request) context work = some (.call
      { reply := .http (layerVisit deadlines request).frame, timeouts := deadlines.reverse
        ambient := context, script := layerScript request work }) := by
  -- the page and the default fallback have the same layers around them
  have hlayers : (layerVisit deadlines request).service.layers = Router.gateLayers deadlines := by
    show ((Router.gated deadlines).service request.path).layers = _
    unfold Router.service
    rw [Router.find?_gated, Router.fallback_gated]
    split <;> rfl
  have hscript : script? (layerVisit deadlines request) work
      = some (layerScript request work) := by
    unfold layerScript
    split
    next hpath =>
      have hvisit : layerVisit deadlines request
          = ⟨request, .page, ⟨Router.gateLayers deadlines, .work⟩⟩ := by
        refine Router.visit_of_find? _ ?_
        rw [Router.find?_gated, if_pos hpath]
      rw [hvisit]
      exact script?_of_page rfl rfl work
    next hpath =>
      -- another path is answered by the fallback, but behind the gate
      have hnone : (Router.gated deadlines).find? request.path = none := by
        rw [Router.find?_gated, if_neg hpath]
      have hpage : (layerVisit deadlines request).service.page = .nothing := by
        show ((Router.gated deadlines).service request.path).page = _
        unfold Router.service
        rw [hnone, Router.fallback_gated]
        rfl
      have hrefuses : (layerVisit deadlines request).refusesMethod = false :=
        Router.refusesMethod_of_none _ hnone
      unfold script?
      rw [hrefuses, hpage]
      rfl
  unfold job?
  rw [hlayers]
  exact jobWithin?_gateLayers context hscript deadlines

/-- The job that a request to a router with one page makes. -/
def layerJob : Job :=
  (job? (layerVisit deadlines request) context work).get
    (by rw [job?_layerVisit]; rfl)

theorem layerJob_eq :
    layerJob context work deadlines request = .call
      { reply := .http (layerVisit deadlines request).frame, timeouts := deadlines.reverse
        ambient := context, script := layerScript request work } :=
  Option.get_of_eq_some _ (job?_layerVisit context work deadlines request)

end

end Admission.Session
