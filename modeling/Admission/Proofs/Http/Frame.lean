/-
  Admission.Proofs.Http.Frame — what a router leaves of an answer.

  A router finishes every answer: it adds the headers of the cross-origin rules, names the methods
  that it allows, tells the length, and takes the body away where none was asked for.  What an answer
  says beside that passes through unchanged.

  Main results:
    * `Response.header?_setHeader` — headers are set one by one;
    * `Frame.header?_finish`, `Frame.status_finish`, `Frame.body_finish` — the headers that are not
      the router's own, the status and the body stay;
    * `Frame.keeps_finish` — **a router keeps what an answer says**.
-/
import Admission.Http.Routing

namespace Admission.Http

/-! ## §1. Headers. -/

/-- The value of a header, if the answer has it. -/
def Response.header? (r : Response) (name : String) : Option String := r.headers.lookup name

theorem lookup_filter_of_ne {name other : String} (h : other ≠ name) (l : List (String × String)) :
    (l.filter (·.1 != name)).lookup other = l.lookup other := by
  induction l with
  | nil => rfl
  | cons p rest ih =>
      obtain ⟨n, v⟩ := p
      by_cases hn : n = name
      · have hne : (other == n) = false := by
          rw [hn]
          exact beq_eq_false_iff_ne.mpr h
        rw [List.filter_cons_of_neg (by simp [hn]), ih, List.lookup_cons, hne]
      · rw [List.filter_cons_of_pos (by simpa using hn), List.lookup_cons, List.lookup_cons, ih]

theorem lookup_filter_self (name : String) (l : List (String × String)) :
    (l.filter (·.1 != name)).lookup name = none := by
  refine List.lookup_eq_none_iff.mpr fun p hp => ?_
  have hne : p.1 ≠ name := by simpa using (List.mem_filter.mp hp).2
  exact bne_iff_ne.mpr (Ne.symm hne)

namespace Response

/-- **A HEADER IS SET** beside all others. -/
theorem header?_setHeader (r : Response) (name value other : String) :
    (r.setHeader name value).header? other = if other = name then some value else r.header? other := by
  unfold header? setHeader
  rw [List.lookup_append]
  by_cases h : other = name
  · subst h
    rw [if_pos rfl, lookup_filter_self, Option.none_or, List.lookup_cons_self]
  · rw [if_neg h, lookup_filter_of_ne h, List.lookup_cons, beq_eq_false_iff_ne.mpr h]
    exact Option.or_none

theorem header?_setHeader_of_ne {name other : String} (h : other ≠ name) (r : Response)
    (value : String) : (r.setHeader name value).header? other = r.header? other := by
  rw [header?_setHeader, if_neg h]

end Response

/-! ## §2. The headers that a router sets. -/

namespace Frame

/-- The headers that a router sets of itself. -/
def ownNames : List String :=
  ["access-control-allow-origin", "vary", "access-control-expose-headers", "allow",
    "content-length"]

variable {name : String}

theorem header?_addSharing (f : Frame) (r : Response) (h : name ∉ ownNames) :
    (f.addSharing r).header? name = r.header? name := by
  unfold addSharing
  split
  · rw [Response.header?_setHeader_of_ne (by rintro rfl; exact h (by decide)),
      Response.header?_setHeader_of_ne (by rintro rfl; exact h (by decide)),
      Response.header?_setHeader_of_ne (by rintro rfl; exact h (by decide))]
  · rfl

theorem header?_addAllow (f : Frame) (r : Response) (h : name ∉ ownNames) :
    (f.addAllow r).header? name = r.header? name := by
  unfold addAllow
  split
  · exact Response.header?_setHeader_of_ne (by rintro rfl; exact h (by decide)) r _
  · rfl

theorem header?_addLength (f : Frame) (r : Response) (h : name ∉ ownNames) :
    (f.addLength r).header? name = r.header? name := by
  unfold addLength
  split
  · rfl
  · split
    · exact Response.header?_setHeader_of_ne (by rintro rfl; exact h (by decide)) r _
    · rfl

/-- **A ROUTER LEAVES ALL OTHER HEADERS** as they are. -/
theorem header?_finish (f : Frame) (r : Response) (h : name ∉ ownNames) :
    (f.finish r).header? name = r.header? name := by
  have hclose : ∀ r : Response, (f.close r).header? name = r.header? name := by
    intro r
    unfold close
    split
    · split <;> rfl
    split
    · rfl
    have hlength : (f.addLength (f.addAllow r)).header? name = r.header? name := by
      rw [f.header?_addLength _ h, f.header?_addAllow _ h]
    split <;> exact hlength
  unfold finish
  rw [hclose, f.header?_addSharing _ h]

/-! ## §3. What is left of an answer. -/

section

variable (f : Frame) (r : Response)

@[simp] theorem status_addSharing : (f.addSharing r).status = r.status := by
  unfold addSharing
  split <;> rfl

@[simp] theorem body_addSharing : (f.addSharing r).body = r.body := by
  unfold addSharing
  split <;> rfl

@[simp] theorem status_addAllow : (f.addAllow r).status = r.status := by
  unfold addAllow
  split <;> rfl

@[simp] theorem body_addAllow : (f.addAllow r).body = r.body := by
  unfold addAllow
  split <;> rfl

@[simp] theorem status_addLength : (f.addLength r).status = r.status := by
  unfold addLength
  split
  · rfl
  · split <;> rfl

@[simp] theorem body_addLength : (f.addLength r).body = r.body := by
  unfold addLength
  split
  · rfl
  · split <;> rfl

@[simp] theorem status_close : (f.close r).status = r.status := by
  unfold close
  split
  · split <;> rfl
  split
  · rfl
  simp only
  split <;> rw [status_addLength, status_addAllow]

/-- A router leaves the status of an answer as it is. -/
@[simp] theorem status_finish : (f.finish r).status = r.status := by
  unfold finish
  rw [status_close, status_addSharing]

end

variable {f : Frame} {r : Response}

theorem body_close (hf : f.method ≠ "HEAD")
    (hr : f.method ≠ "CONNECT" ∨ r.status.isSuccess = false) : (f.close r).body = r.body := by
  have htunnel : (f.method == "CONNECT" && r.status.isSuccess) = false := by
    rcases hr with hr | hr
    · rw [beq_false_of_ne hr, Bool.false_and]
    · rw [hr, Bool.and_false]
  unfold close
  rw [htunnel, if_neg Bool.false_ne_true]
  split
  · rfl
  · show (if (f.method == "HEAD") = true then _ else f.addLength (f.addAllow r)).body = _
    rw [if_neg (by simpa using hf), body_addLength, body_addAllow]

/-- Unless only the headers were asked for, it leaves the body as it is; a tunnel that was opened
has none. -/
theorem body_finish (hf : f.method ≠ "HEAD")
    (hr : f.method ≠ "CONNECT" ∨ r.status.isSuccess = false) : (f.finish r).body = r.body := by
  unfold finish
  rw [body_close hf (by rwa [status_addSharing]), body_addSharing]

/-- What an answer says of a refusal is the same in another answer: the status, the type of the text
and the advice; and, unless the method asks for no body, the text. -/
structure Keeps (f : Frame) (r r' : Response) : Prop where
  status : r'.status = r.status
  contentType : r'.header? "content-type" = r.header? "content-type"
  typeOptions : r'.header? "x-content-type-options" = r.header? "x-content-type-options"
  retryAfter : r'.header? "retry-after" = r.header? "retry-after"
  /-- A tunnel that was opened has no body. -/
  body : f.method ≠ "HEAD" → f.method ≠ "CONNECT" ∨ r.status.isSuccess = false → r'.body = r.body

/-- **A ROUTER KEEPS WHAT A REFUSAL SAYS.** -/
theorem keeps_finish (f : Frame) (r : Response) : f.Keeps r (f.finish r) where
  status := f.status_finish r
  contentType := f.header?_finish r (by decide)
  typeOptions := f.header?_finish r (by decide)
  retryAfter := f.header?_finish r (by decide)
  body := fun hmethod hr => body_finish hmethod hr

end Frame

end Admission.Http
