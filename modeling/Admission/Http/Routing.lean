/-
  Admission.Http.Routing — requests, and how a router finishes their answers.

  A router looks at the path first and at the method afterwards.  Before an answer leaves, the router
  adds what the method and the path ask for: which methods are allowed, the length of the body, and
  no body at all for HEAD.  Cross-origin rules sit OUTSIDE of everything else, and answer every
  OPTIONS request themselves.
-/
import Admission.Http.Response

namespace Admission.Http

/-! ## §1. Requests. -/

/-- A request, as far as a router looks at it. -/
structure Request where
  method : String
  /-- The target: a path, possibly followed by a query. -/
  target : String
deriving DecidableEq

namespace Request

/-- A character of a scheme. -/
def isSchemeChar (c : Char) : Bool := c.isAlphanum || c == '+' || c == '-' || c == '.' || c == '~'

/-- The rest of a target after its scheme, if it has one. -/
def afterScheme? (cs : List Char) : Option (List Char) :=
  match cs.dropWhile isSchemeChar with
  | ':' :: '/' :: '/' :: r => some r
  | _ => none

/-- The character ends an authority. -/
def endsAuthority (c : Char) : Bool := c == '/' || c == '?' || c == '#'

/-- The start of a target up to its query and its fragment. -/
def beforeQuery (cs : List Char) : String := String.ofList (cs.takeWhile fun c => c != '?' && c != '#')

/-- The path of a request: its target up to the query.  After a scheme and an authority the path may
be missing, and then is the root; an authority alone has no path. -/
def path (r : Request) : String :=
  match r.target.toList with
  | '/' :: cs => beforeQuery ('/' :: cs)
  | ['*'] => "*"
  | cs =>
    match afterScheme? cs with
    | none => ""
    | some rest =>
      let path := beforeQuery (rest.dropWhile fun c => !endsAuthority c)
      if path = "" then "/" else path

/-- The request asks for a page: its method is GET or HEAD. -/
def isRead (r : Request) : Bool := r.method == "GET" || r.method == "HEAD"

end Request

/-! ## §2. Finishing an answer. -/

/-- Where a router found a request to belong. -/
inductive Endpoint where
  /-- A page, which may be read only. -/
  | page
  /-- What answers every path that has no page, whatever the method. -/
  | everything
  /-- No page: the answer leaves as it is. -/
  | unmatched
deriving DecidableEq

/-- What a router remembers of a request until its answer leaves. -/
structure Frame where
  method : String
  endpoint : Endpoint
  /-- Cross-origin rules apply. -/
  shared : Bool
  /-- The length of a successful answer is told. -/
  measured : Bool := true
deriving DecidableEq

namespace Frame

/-- The headers on which cross-origin rules look. -/
def varyNames : String := "origin, access-control-request-method, access-control-request-headers"

/-- What cross-origin rules add to an answer. -/
def addSharing (f : Frame) (r : Response) : Response :=
  if f.shared then
    ((r.setHeader "access-control-allow-origin" "*").setHeader "vary" varyNames).setHeader
      "access-control-expose-headers" "*"
  else r

/-- The header that names the allowed methods, where the method is not one of them. -/
def addAllow (f : Frame) (r : Response) : Response :=
  if f.endpoint == .page && f.method != "GET" && f.method != "HEAD" && !r.hasHeader "allow" then
    r.setHeader "allow" "GET,HEAD"
  else r

/-- The header with the length of the body, where it is known and told. -/
def addLength (f : Frame) (r : Response) : Response :=
  if r.hasHeader "content-length" || (!f.measured && r.status.isSuccess) then r
  else match r.body.length? with
    | some n => r.setHeader "content-length" (toString n)
    | none => r

/-- What a router does last.  A tunnel that was opened has no body and no length. -/
def close (f : Frame) (r : Response) : Response :=
  if f.method == "CONNECT" && r.status.isSuccess then
    if r.body.length? == some 0 then r else { r with body := .empty }
  else if f.endpoint == .unmatched then r
  else
    let r := f.addLength (f.addAllow r)
    if f.method == "HEAD" then { r with body := .empty } else r

/-- The answer as it leaves. -/
def finish (f : Frame) (r : Response) : Response := f.close (f.addSharing r)

/-- The answer to an OPTIONS request under cross-origin rules. -/
def preflight (f : Frame) : Response :=
  f.close
    ⟨.ok,
      [("access-control-allow-origin", "*"), ("vary", varyNames),
       ("access-control-allow-methods", "*"), ("access-control-allow-headers", "*")],
      .empty⟩

end Frame

end Admission.Http
