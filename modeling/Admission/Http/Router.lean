/-
  Admission.Http.Router — routers, and the layers around their pages.

  A router is put together step by step, and the ORDER of the steps says what is around a page.  A
  layer goes around all pages that are there when it is put on, and around the fallback; what comes
  later stays outside of it.  Pages that are taken over from another router keep the layers they
  have, and a fallback that is set anew has none.
-/
import Admission.Http.Routing

namespace Admission

/-- What is found under a name, if all values are mapped. -/
theorem lookup_map_snd {α β : Type} (f : α → β) (name : String) (l : List (String × α)) :
    (l.map fun p => (p.1, f p.2)).lookup name = (l.lookup name).map f := by
  induction l with
  | nil => rfl
  | cons p l ih =>
      rw [List.map_cons, List.lookup_cons, List.lookup_cons]
      cases name == p.1 with
      | true => rfl
      | false => exact ih

namespace Http

/-! ## §1. Pages and layers. -/

/-- What answers a request in the end. -/
inductive Page where
  /-- What the gate is there for. -/
  | work
  | stats
  | metrics
  | health
  /-- The application's own answer to a path without a page. -/
  | missing
  /-- The answer of a router that has no fallback of its own. -/
  | nothing
deriving DecidableEq

/-- What a request goes through on its way to a page. -/
inductive Layer where
  | throttle
  /-- A guard that lets a request take no longer than this. -/
  | deadline (d : Duration)
  /-- Cross-origin rules. -/
  | sharing
deriving DecidableEq

/-- A page with the layers around it, outermost first. -/
structure Service where
  layers : List Layer
  page : Page
deriving DecidableEq

/-- Puts a layer around what is there. -/
def Service.wrap (l : Layer) (s : Service) : Service := { s with layers := l :: s.layers }

/-! ## §2. Routers. -/

/-- A router. -/
structure Router where
  /-- The services by their paths. -/
  routes : List (String × Service)
  /-- What is behind all other paths. -/
  fallback : Service
  /-- No path has two services. -/
  nodup : (routes.map (·.1)).Nodup

namespace Router

def paths (r : Router) : List String := r.routes.map (·.1)

/-- The router without pages. -/
def empty : Router := ⟨[], ⟨[], .nothing⟩, .nil⟩

/-- Adds a page under a path of its own. -/
def route (r : Router) (path : String) (page : Page) (h : path ∉ r.paths) : Router :=
  { r with routes := (path, ⟨[], page⟩) :: r.routes, nodup := List.nodup_cons.mpr ⟨h, r.nodup⟩ }

/-- Puts a layer around all pages so far and around the fallback. -/
def layer (r : Router) (l : Layer) : Router where
  routes := r.routes.map fun p => (p.1, p.2.wrap l)
  fallback := r.fallback.wrap l
  nodup := by
    rw [List.map_map]
    exact r.nodup

/-- The routers can become one: no path is in both, and one of them has no fallback of its own. -/
structure Mergeable (r r' : Router) : Prop where
  apart : ∀ p ∈ r.paths, ∀ q ∈ r'.paths, p ≠ q
  fallback : r.fallback.page = .nothing ∨ r'.fallback.page = .nothing

/-- Takes over the pages of another router, with the layers that they have.  If neither router has a
fallback of its own, what is behind all other paths is that of the other one, with its layers. -/
def merge (r r' : Router) (h : Mergeable r r') : Router where
  routes := r.routes ++ r'.routes
  fallback := if r.fallback.page = .nothing then r'.fallback else r.fallback
  nodup := by
    rw [List.map_append]
    exact List.nodup_append.mpr ⟨r.nodup, r'.nodup, h.apart⟩

/-- Sets what is behind all other paths. -/
def withFallback (r : Router) (page : Page) : Router := { r with fallback := ⟨[], page⟩ }

/-- Puts deadline guards around everything, one after the other. -/
def guard (r : Router) (deadlines : List Duration) : Router :=
  deadlines.foldl (fun r d => r.layer (.deadline d)) r

/-- The service of a path, if it has one of its own. -/
def find? (r : Router) (path : String) : Option Service := r.routes.lookup path

/-- What a request for a path gets to. -/
def service (r : Router) (path : String) : Service := (r.find? path).getD r.fallback

/-- Where a path belongs. -/
def endpoint (r : Router) (path : String) : Endpoint :=
  if (r.find? path).isSome then .page
  else if r.fallback.page = .nothing ∧ path.toList.head? = some '/' then .unmatched
  else .everything

end Router

/-! ## §3. Visits. -/

/-- A request that a router has taken to its service. -/
structure Visit where
  request : Request
  endpoint : Endpoint
  service : Service
deriving DecidableEq

def Router.visit (r : Router) (request : Request) : Visit :=
  ⟨request, r.endpoint request.path, r.service request.path⟩

/-- What a page answers of itself. -/
def Page.answer (page : Page) (path : String) (s : Gate.Snapshot) (m : Option Metrics) :
    Response :=
  match page with
  | .work => .ofText .ok "."
  | .stats => .ofSnapshot s
  | .metrics => .ofMetrics m
  | .health => .ofText .ok "ok"
  | .missing => .ofFailure ⟨.notFound, "no route for " ++ path⟩
  | .nothing => .bare .notFound

namespace Visit

/-- The cross-origin rules answer it themselves. -/
def isPreflight (v : Visit) : Bool :=
  v.request.method == "OPTIONS" && v.service.layers.contains .sharing

/-- The page may be read, but something else is asked for. -/
def refusesMethod (v : Visit) : Bool := v.endpoint == .page && !v.request.isRead

/-- How the router finishes the answer.  The metrics grow while they are told, so their length is
not. -/
def frame (v : Visit) : Frame :=
  { method := v.request.method
    endpoint := v.endpoint
    shared := v.service.layers.contains .sharing
    measured := v.service.page != .metrics }

/-- The answer to a request that does not concern the gate. -/
def freeResponse (v : Visit) (s : Gate.Snapshot) (m : Option Metrics) : Response :=
  if v.isPreflight then v.frame.preflight
  else v.frame.finish
    (if v.refusesMethod then .bare .methodNotAllowed
      else v.service.page.answer v.request.path s m)

end Visit

/-! ## §4. What is found after each step. -/

namespace Router

variable (r r' : Router) (q : String)

@[simp] theorem paths_empty : empty.paths = [] := rfl

@[simp] theorem paths_route (path : String) (page : Page) (h : path ∉ r.paths) :
    (r.route path page h).paths = path :: r.paths := rfl

@[simp] theorem paths_layer (l : Layer) : (r.layer l).paths = r.paths := by
  unfold paths layer
  rw [List.map_map]
  rfl

@[simp] theorem paths_merge (h : Mergeable r r') :
    (r.merge r' h).paths = r.paths ++ r'.paths := List.map_append

@[simp] theorem paths_guard (deadlines : List Duration) :
    (r.guard deadlines).paths = r.paths := by
  induction deadlines generalizing r with
  | nil => rfl
  | cons d rest ih => exact (ih (r.layer (.deadline d))).trans (paths_layer r _)

theorem mergeable_empty : Mergeable empty r := ⟨nofun, .inl rfl⟩

theorem find?_route (path : String) (page : Page) (h : path ∉ r.paths) :
    (r.route path page h).find? q = if q = path then some ⟨[], page⟩ else r.find? q := by
  unfold find? route
  rw [List.lookup_cons]
  by_cases hq : q = path
  · rw [if_pos hq, beq_iff_eq.mpr hq]
  · rw [if_neg hq, beq_false_of_ne hq]

theorem find?_layer (l : Layer) : (r.layer l).find? q = (r.find? q).map (·.wrap l) :=
  lookup_map_snd (Service.wrap l) q r.routes

theorem find?_merge (h : Mergeable r r') :
    (r.merge r' h).find? q = (r.find? q).or (r'.find? q) := List.lookup_append

theorem find?_withFallback (page : Page) : (r.withFallback page).find? q = r.find? q := rfl

theorem find?_guard (deadlines : List Duration) :
    (r.guard deadlines).find? q = (r.find? q).map fun s =>
      { s with layers := deadlines.reverse.map .deadline ++ s.layers } := by
  induction deadlines generalizing r with
  | nil => cases h : r.find? q <;> simpa [guard] using h
  | cons d rest ih =>
      show ((r.layer (.deadline d)).guard rest).find? q = _
      rw [ih, find?_layer, Option.map_map, List.reverse_cons, List.map_append]
      simp [Function.comp_def, Service.wrap]

theorem fallback_guard (deadlines : List Duration) :
    (r.guard deadlines).fallback = { r.fallback with
      layers := deadlines.reverse.map .deadline ++ r.fallback.layers } := by
  induction deadlines generalizing r with
  | nil => rfl
  | cons d rest ih =>
      show ((r.layer (.deadline d)).guard rest).fallback = _
      rw [ih, List.reverse_cons, List.map_append]
      simp [layer, Service.wrap]

/-! ## §5. The application's router. -/

/-- A router with one page, behind the gate and behind deadline guards, the first of them
innermost. -/
def gated (deadlines : List Duration) : Router :=
  ((empty.route "/" .work (by simp)).layer .throttle).guard deadlines

theorem paths_gated (deadlines : List Duration) : (gated deadlines).paths = ["/"] := by
  simp [gated]

/-- The pages of the application.  Only the first one is behind the gate, and behind the guard of
the requests' time if there is one. -/
def pages (requestTimeout : Option Duration) : Router :=
  ((((empty.merge (gated requestTimeout.toList) (mergeable_empty _)).route
      "/throttle/stats" .stats (by simp [paths_gated])).route
      "/metrics" .metrics (by simp [paths_gated])).route
      "/healthz" .health (by simp [paths_gated])).withFallback .missing

/-- The application's router: cross-origin rules around all its pages. -/
def application (requestTimeout : Option Duration) : Router :=
  (empty.merge (pages requestTimeout) (mergeable_empty _)).layer .sharing

/-- What is around the page behind the gate. -/
def gateLayers (deadlines : List Duration) : List Layer :=
  deadlines.reverse.map .deadline ++ [.throttle]

theorem find?_gated (deadlines : List Duration) :
    (gated deadlines).find? q
      = if q = "/" then some ⟨gateLayers deadlines, .work⟩ else none := by
  unfold gated
  rw [find?_guard, find?_layer, find?_route]
  split <;> rfl

theorem fallback_gated (deadlines : List Duration) :
    (gated deadlines).fallback = ⟨gateLayers deadlines, .nothing⟩ :=
  fallback_guard _ deadlines

theorem find?_pages (requestTimeout : Option Duration) :
    (pages requestTimeout).find? q
      = if q = "/" then some ⟨gateLayers requestTimeout.toList, .work⟩
        else if q = "/throttle/stats" then some ⟨[], .stats⟩
        else if q = "/metrics" then some ⟨[], .metrics⟩
        else if q = "/healthz" then some ⟨[], .health⟩
        else none := by
  have hempty : empty.find? q = none := rfl
  unfold pages
  rw [find?_withFallback, find?_route, find?_route, find?_route, find?_merge, hempty,
    Option.none_or, find?_gated]
  -- the page that was added last is looked for first
  by_cases hwork : q = "/"
  · subst hwork
    rfl
  by_cases hstats : q = "/throttle/stats"
  · subst hstats
    rfl
  by_cases hmetrics : q = "/metrics"
  · subst hmetrics
    rfl
  rw [if_neg hwork, if_neg hwork, if_neg hstats, if_neg hstats, if_neg hmetrics, if_neg hmetrics]

/-- **WHAT IS BEHIND A PATH OF THE APPLICATION**, and what is around it. -/
theorem find?_application (requestTimeout : Option Duration) :
    (application requestTimeout).find? q
      = if q = "/" then some ⟨.sharing :: gateLayers requestTimeout.toList, .work⟩
        else if q = "/throttle/stats" then some ⟨[.sharing], .stats⟩
        else if q = "/metrics" then some ⟨[.sharing], .metrics⟩
        else if q = "/healthz" then some ⟨[.sharing], .health⟩
        else none := by
  have hempty : empty.find? q = none := rfl
  unfold application
  rw [find?_layer, find?_merge, hempty, Option.none_or, find?_pages]
  simp only [apply_ite (Option.map _), Option.map_some, Option.map_none]
  rfl

theorem fallback_application (requestTimeout : Option Duration) :
    (application requestTimeout).fallback = ⟨[.sharing], .missing⟩ := rfl

/-- Put on one line later, the gate would be around the other pages as well. -/
example (requestTimeout : Option Duration) :
    (((pages requestTimeout).layer .throttle).service "/healthz").layers = [.throttle] := rfl

/-- Without a fallback of its own, the application would have the gate around everything else. -/
example :
    ((empty.merge (gated [.ofMillis 30]) (mergeable_empty _)).service "/missing").layers
      = [.deadline (.ofMillis 30), .throttle] := by decide

theorem visit_of_find? {request : Request} {s : Service} (h : r.find? request.path = some s) :
    r.visit request = ⟨request, .page, s⟩ := by
  unfold visit endpoint service
  rw [h]
  rfl

/-- Only a page refuses a method. -/
theorem refusesMethod_of_none {request : Request} (h : r.find? request.path = none) :
    (r.visit request).refusesMethod = false := by
  have hendpoint : (r.endpoint request.path == .page) = false := by
    unfold endpoint
    rw [h]
    show ((if _ then Endpoint.unmatched else Endpoint.everything) == Endpoint.page) = false
    split <;> rfl
  show (r.endpoint request.path == .page && _) = false
  rw [hendpoint, Bool.false_and]

/-- The page behind the gate has the gate around it, and guards around the gate. -/
theorem service_application_root (requestTimeout : Option Duration) :
    (application requestTimeout).service "/"
      = ⟨.sharing :: gateLayers requestTimeout.toList, .work⟩ := by
  unfold service
  rw [find?_application, if_pos rfl]
  rfl

/-- Everything else has cross-origin rules around it, and no more. -/
theorem service_application_of_ne (requestTimeout : Option Duration) (hq : q ≠ "/") :
    ∃ page, page ≠ .work ∧ (application requestTimeout).service q = ⟨[.sharing], page⟩ := by
  unfold service
  rw [find?_application, fallback_application, if_neg hq]
  split
  · exact ⟨.stats, nofun, rfl⟩
  split
  · exact ⟨.metrics, nofun, rfl⟩
  split
  · exact ⟨.health, nofun, rfl⟩
  · exact ⟨.missing, nofun, rfl⟩

end Router

end Http

end Admission
