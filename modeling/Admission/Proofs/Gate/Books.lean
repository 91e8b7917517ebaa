/-
  Admission.Proofs.Gate.Books — the books of a floor, kept in parts.

  Most moves touch run permits or backlog permits and not both, so the books of a floor are kept in
  parts that do not know of each other: where the run permits are, who is under way at which number,
  and what a half release does to the tickets.

  Main results:
    * `RunBooks.takeRun`, …, `RunBooks.dropRun` — each move of a run permit keeps its books;
    * `Roster.call`, …, `Roster.unpark` — each move of a call keeps the roster;
    * `Roster.length_lt` — a call that is not parked is one more than those that are.
-/
import Mathlib.Data.List.Perm.Subperm
import Admission.Proofs.Gate.Floor

namespace Admission.Gate

/-! ## §1. Run permits. -/

/-- **THE BOOKS OF THE RUN PERMITS**: all `limit` of them, of which `r` are in transit. -/
structure RunBooks (limit : Nat) (g : Gate) (r : Nat) : Prop where
  sum : g.freeRun + g.tickets.countP (·.run) + g.promised.length + r = limit
  /-- While somebody is in line, no run permit lies idle. -/
  saturated : 0 < g.freeRun → g.line = []

namespace RunBooks

variable {limit r : Nat} {g : Gate}

theorem takeRun (h : RunBooks limit g r) (hr : 0 < g.freeRun) :
    RunBooks limit g.takeRun (r + 1) := by
  refine ⟨?_, fun _ => h.saturated hr⟩
  have := h.sum
  show g.freeRun - 1 + g.tickets.countP (·.run) + g.promised.length + (r + 1) = limit
  omega

theorem issue (h : RunBooks limit g (r + 1)) (id : Nat) : RunBooks limit (g.issue id) r := by
  refine ⟨?_, h.saturated⟩
  have := h.sum
  show g.freeRun + (g.tickets ++ [(⟨id, true, true⟩ : Ticket)]).countP (·.run)
    + g.promised.length + r = limit
  rw [List.countP_append, List.countP_singleton, if_pos rfl]
  omega

/-- A run permit arrives in the pool, or with the first in line. -/
theorem returnRun (h : RunBooks limit g (r + 1)) : RunBooks limit g.returnRun r := by
  have hret := returnRun_runReturn g
  have hsum := h.sum
  generalize g.returnRun = g' at hret ⊢
  cases hret with
  | toPool hl =>
      refine ⟨?_, fun _ => hl⟩
      show g.freeRun + 1 + g.tickets.countP (·.run) + g.promised.length + r = limit
      omega
  | @toFirst pre post w hg hpre hw =>
      refine ⟨?_, fun hpos => ?_⟩
      · have hold : g.promised.length = pre.countP (·.handed) + post.countP (·.handed) := by
          rw [promised, hg, ← List.countP_eq_length_filter, List.countP_append, List.countP_cons,
            hw]
          rfl
        have hnew : (promised { g with waiters := pre ++ { w with handed := true } :: post }).length
            = pre.countP (·.handed) + (post.countP (·.handed) + 1) := by
          rw [promised, ← List.countP_eq_length_filter, List.countP_append, List.countP_cons]
          rfl
        rw [hnew]
        show g.freeRun + g.tickets.countP (·.run) + _ + r = limit
        omega
      · -- the pool was empty, since `w` was in line
        have hl := (line_eq_nil_iff g).mp (h.saturated hpos) w (by simp [hg])
        rw [hw] at hl
        cases hl

/-- A parked call leaves the line with what it was handed. -/
theorem unpark (h : RunBooks limit g r) (hn : (g.waiters.map (·.id)).Nodup) {u : Waiter}
    (hu : g.waiter? u.id = some u) :
    RunBooks limit (g.unpark u.id) (r + if u.handed then 1 else 0) := by
  obtain ⟨pre, post, hg, hid, hpre, hpost⟩ := exists_split_of_find? _ hn hu
  have hun : (g.unpark u.id).waiters = pre ++ post := by
    show g.waiters.filter _ = _
    rw [hg]
    exact filter_ne_split _ hid hpre hpost
  refine ⟨?_, fun hpos => ?_⟩
  · have hold : g.promised.length
        = pre.countP (·.handed) + (post.countP (·.handed) + if u.handed then 1 else 0) := by
      rw [promised, hg, ← List.countP_eq_length_filter, List.countP_append, List.countP_cons]
    have hnew : (g.unpark u.id).promised.length
        = pre.countP (·.handed) + post.countP (·.handed) := by
      rw [promised, hun, ← List.countP_eq_length_filter, List.countP_append]
    have hsum := h.sum
    rw [hnew]
    show g.freeRun + g.tickets.countP (·.run) + _ + _ = limit
    omega
  · refine (line_eq_nil_iff _).mpr fun v hv => ?_
    exact (line_eq_nil_iff g).mp (h.saturated hpos) v (List.mem_filter.mp hv).1

theorem park (h : RunBooks limit g r) (id : Nat) (now : Duration) (hr : g.freeRun = 0) :
    RunBooks limit (g.park id now) r := by
  refine ⟨?_, fun hpos => absurd hr (Nat.ne_of_gt hpos)⟩
  have hpromised : (g.park id now).promised = g.promised := by
    simp [Gate.park, promised, List.filter_append]
  rw [hpromised]
  exact h.sum

/-- A ticket lets go of its run permit. -/
theorem dropRun (h : RunBooks limit g r) (hn : (g.tickets.map (·.id)).Nodup) {t : Ticket}
    (ht : g.ticket? t.id = some t) (hr : t.run = true) :
    RunBooks limit (g.dropRun t.id) (r + 1) := by
  obtain ⟨pre, post, hg, hid, hpre, hpost⟩ := exists_split_of_find? _ hn ht
  have hdrop : (g.dropRun t.id).tickets = pre ++ withoutRun t :: post := by
    show g.tickets.map _ = _
    rw [hg]
    exact map_ite_split Ticket.id _ hid hpre hpost
  refine ⟨?_, h.saturated⟩
  have hsum := h.sum
  rw [hg, List.countP_append, List.countP_cons, hr, if_pos rfl] at hsum
  rw [hdrop, List.countP_append, List.countP_cons]
  show g.freeRun + (_ + (_ + 0)) + g.promised.length + _ = limit
  omega

/-- A change that no ticket's run permit is part of. -/
theorem congr {g' : Gate} (h : RunBooks limit g r) (hf : g'.freeRun = g.freeRun)
    (ht : g'.tickets.countP (·.run) = g.tickets.countP (·.run)) (hw : g'.waiters = g.waiters) :
    RunBooks limit g' r := by
  constructor
  · rw [hf, ht, promised, hw]
    exact h.sum
  · rw [hf, line, hw]
    exact h.saturated

end RunBooks

/-! ## §2. Calls and tickets. -/

/-- **WHO IS WHERE**: the numbers of the tickets, the calls under way, the numbers of those that are
parked, and the number of the next call. -/
structure Roster (tickets : List Nat) (callers : List Caller) (parked : List Nat) (n : Nat) :
    Prop where
  /-- No call is under way twice, or has two tickets, or is under way with a ticket. -/
  nodup : (tickets ++ callers.map (·.id)).Nodup
  below : ∀ i ∈ tickets ++ callers.map (·.id), i < n
  parked_nodup : parked.Nodup
  /-- Whoever is parked is under way, and so holds a backlog permit. -/
  waiting : ∀ i ∈ parked, ⟨i, .parked⟩ ∈ callers

namespace Roster

variable {ts ps : List Nat} {cs : List Caller} {n : Nat}

theorem callers_nodup (h : Roster ts cs ps n) : (cs.map (·.id)).Nodup :=
  (List.nodup_append.mp h.nodup).2.1

theorem notMem_tickets (h : Roster ts cs ps n) {c : Caller} (hc : c ∈ cs) : c.id ∉ ts := by
  intro ht
  exact (List.nodup_append.mp h.nodup).2.2 c.id ht c.id (List.mem_map_of_mem hc) rfl

/-- A call with another move to make is not parked. -/
theorem notMem_parked (h : Roster ts cs ps n) {c : Caller} (hc : c ∈ cs)
    (hs : c.stage ≠ .parked) : c.id ∉ ps := by
  intro hp
  have heq := List.inj_on_of_nodup_map h.callers_nodup hc (h.waiting c.id hp) rfl
  rw [heq] at hs
  exact hs rfl

/-- All who are parked are other calls than one that is not. -/
theorem length_lt (h : Roster ts cs ps n) {c : Caller} (hc : c ∈ cs) (hs : c.stage ≠ .parked) :
    ps.length < cs.length := by
  have hsub : c.id :: ps ⊆ cs.map (·.id) := by
    intro i hi
    rcases List.mem_cons.mp hi with rfl | hi
    · exact List.mem_map_of_mem hc
    · exact List.mem_map_of_mem (h.waiting i hi)
  have hn : (c.id :: ps).Nodup := List.nodup_cons.mpr ⟨h.notMem_parked hc hs, h.parked_nodup⟩
  have hle := (List.subperm_of_subset hn hsub).length_le
  rw [List.length_map] at hle
  exact hle

theorem length_le (h : Roster ts cs ps n) : ps.length ≤ cs.length := by
  have hsub : ps ⊆ cs.map (·.id) := fun i hi => List.mem_map_of_mem (h.waiting i hi)
  have hle := (List.subperm_of_subset h.parked_nodup hsub).length_le
  rwa [List.length_map] at hle

/-- A number is used up. -/
theorem skip (h : Roster ts cs ps n) : Roster ts cs ps (n + 1) :=
  ⟨h.nodup, fun i hi => Nat.lt_succ_of_lt (h.below i hi), h.parked_nodup, h.waiting⟩

theorem call (h : Roster ts cs ps n) (stage : Stage) :
    Roster ts (cs ++ [⟨n, stage⟩]) ps (n + 1) := by
  have hfresh : n ∉ ts ++ cs.map (·.id) := fun hm => Nat.lt_irrefl n (h.below n hm)
  have hids : ts ++ (cs ++ [(⟨n, stage⟩ : Caller)]).map (·.id) = (ts ++ cs.map (·.id)) ++ [n] := by
    simp
  refine ⟨?_, fun i hi => ?_, h.parked_nodup,
    fun i hi => List.mem_append_left _ (h.waiting i hi)⟩
  · rw [hids, List.nodup_append]
    refine ⟨h.nodup, List.nodup_singleton n, fun i hi j hj => ?_⟩
    rw [List.mem_singleton.mp hj]
    rintro rfl
    exact hfresh hi
  · rw [hids] at hi
    rcases List.mem_append.mp hi with hi | hi
    · exact Nat.lt_succ_of_lt (h.below i hi)
    · rw [List.mem_singleton.mp hi]
      exact Nat.lt_succ_self n

/-- A call that is not parked ends. -/
theorem finish (h : Roster ts cs ps n) {i : Nat} (hp : i ∉ ps) :
    Roster ts (cs.filter (·.id != i)) ps n := by
  have hsub : (ts ++ (cs.filter (·.id != i)).map (·.id)).Sublist (ts ++ cs.map (·.id)) :=
    (List.filter_sublist.map _).append_left ts
  refine ⟨h.nodup.sublist hsub, fun j hj => h.below j (hsub.subset hj), h.parked_nodup,
    fun j hj => List.mem_filter.mpr ⟨h.waiting j hj, ?_⟩⟩
  have hne : j ≠ i := by
    rintro rfl
    exact hp hj
  simpa using hne

/-- A call that is not parked gets its ticket. -/
theorem ticket (h : Roster ts cs ps n) {c : Caller} (hc : c ∈ cs) (hp : c.id ∉ ps) :
    Roster (ts ++ [c.id]) (cs.filter (·.id != c.id)) ps n := by
  have hend := h.finish hp
  have hnew : c.id ∉ ts ++ (cs.filter (·.id != c.id)).map (·.id) := by
    intro hm
    rcases List.mem_append.mp hm with ht | hm
    · exact h.notMem_tickets hc ht
    · obtain ⟨d, hd, he⟩ := List.mem_map.mp hm
      simp [he] at hd
  refine ⟨?_, fun i hi => ?_, hend.parked_nodup, hend.waiting⟩
  · rw [List.append_assoc, List.singleton_append, List.nodup_middle, List.nodup_cons]
    exact ⟨hnew, hend.nodup⟩
  · rw [List.append_assoc, List.singleton_append, List.mem_append, List.mem_cons] at hi
    rcases hi with hi | rfl | hi
    · exact hend.below i (List.mem_append_left _ hi)
    · exact h.below _ (List.mem_append_right _ (List.mem_map_of_mem hc))
    · exact hend.below i (List.mem_append_right _ hi)

/-- A call that is not parked has another move to make. -/
theorem goOn (h : Roster ts cs ps n) {i : Nat} (hp : i ∉ ps) (stage : Stage) :
    Roster ts (cs.map fun c => if c.id == i then c.withStage stage else c) ps n := by
  have hids : (cs.map fun c => if c.id == i then c.withStage stage else c).map (·.id)
      = cs.map (·.id) := map_key_map_ite Caller.id (Caller.withStage stage) (fun _ => rfl) cs i
  refine ⟨?_, ?_, h.parked_nodup, fun j hj => List.mem_map.mpr ⟨_, h.waiting j hj, ?_⟩⟩
  · rw [hids]
    exact h.nodup
  · rw [hids]
    exact h.below
  · refine if_neg fun he => hp ?_
    have hji : j = i := by simpa using he
    exact hji ▸ hj

/-- A call is parked. -/
theorem park (h : Roster ts cs ps n) {c : Caller} (hc : c ∈ cs) (hp : c.id ∉ ps) :
    Roster ts (cs.map fun d => if d.id == c.id then d.withStage .parked else d)
      (ps ++ [c.id]) n := by
  have hgo := h.goOn hp .parked
  refine ⟨hgo.nodup, hgo.below, ?_, fun i hi => ?_⟩
  · rw [List.nodup_append]
    refine ⟨h.parked_nodup, List.nodup_singleton _, fun i hi j hj => ?_⟩
    rw [List.mem_singleton.mp hj]
    rintro rfl
    exact hp hi
  · rcases List.mem_append.mp hi with hi | hi
    · exact hgo.waiting i hi
    · rw [List.mem_singleton.mp hi]
      exact List.mem_map.mpr ⟨c, hc, if_pos (beq_self_eq_true c.id)⟩

/-- A call is parked no more. -/
theorem unpark (h : Roster ts cs ps n) (i : Nat) : Roster ts cs (ps.filter (· != i)) n :=
  ⟨h.nodup, h.below, h.parked_nodup.filter _,
    fun j hj => h.waiting j (List.mem_filter.mp hj).1⟩

theorem forget (h : Roster ts cs ps n) {us : List Nat} (hsub : us.Sublist ts) :
    Roster us cs ps n := by
  have hle := hsub.append_right (cs.map (·.id))
  exact ⟨h.nodup.sublist hle, fun i hi => h.below i (hle.subset hi), h.parked_nodup, h.waiting⟩

end Roster

/-! ## §3. Half releases. -/

theorem map_id_dropRun (g : Gate) (id : Nat) :
    (g.dropRun id).tickets.map (·.id) = g.tickets.map (·.id) :=
  map_key_map_ite Ticket.id withoutRun (fun _ => rfl) g.tickets id

theorem map_id_dropBacklog (g : Gate) (id : Nat) :
    (g.dropBacklog id).tickets.map (·.id) = g.tickets.map (·.id) :=
  map_key_map_ite Ticket.id withoutBacklog (fun _ => rfl) g.tickets id

/-- The other permit of the ticket stays where it is. -/
theorem countP_backlog_dropRun (g : Gate) (id : Nat) :
    (g.dropRun id).tickets.countP (·.backlog) = g.tickets.countP (·.backlog) := by
  rw [dropRun, List.countP_map]
  refine List.countP_congr fun t _ => ?_
  show (if t.id == id then withoutRun t else t).backlog = true ↔ _
  split <;> rfl

theorem countP_run_dropBacklog (g : Gate) (id : Nat) :
    (g.dropBacklog id).tickets.countP (·.run) = g.tickets.countP (·.run) := by
  rw [dropBacklog, List.countP_map]
  refine List.countP_congr fun t _ => ?_
  show (if t.id == id then withoutBacklog t else t).run = true ↔ _
  split <;> rfl

theorem countP_backlog_dropBacklog {g : Gate} (hn : (g.tickets.map (·.id)).Nodup) {t : Ticket}
    (ht : g.ticket? t.id = some t) (hb : t.backlog = true) :
    (g.dropBacklog t.id).tickets.countP (·.backlog) + 1 = g.tickets.countP (·.backlog) := by
  obtain ⟨pre, post, hg, hid, hpre, hpost⟩ := exists_split_of_find? _ hn ht
  have hdrop : (g.dropBacklog t.id).tickets = pre ++ withoutBacklog t :: post := by
    show g.tickets.map _ = _
    rw [hg]
    exact map_ite_split Ticket.id _ hid hpre hpost
  rw [hdrop, hg, List.countP_append, List.countP_append, List.countP_cons, List.countP_cons, hb,
    if_pos rfl]
  show _ + (_ + 0) + 1 = _
  omega

/-- A ticket without permits is missing in no count of permits. -/
theorem countP_forget {g : Gate} {id : Nat} {p : Ticket → Bool}
    (hp : ∀ t ∈ g.tickets, t.id = id → p t = false) :
    (g.forget id).tickets.countP p = g.tickets.countP p := by
  rw [forget, List.countP_filter]
  refine List.countP_congr fun t ht => ?_
  cases hpt : p t with
  | false => simp
  | true =>
      have hne : t.id ≠ id := by
        intro he
        rw [hp t ht he] at hpt
        cases hpt
      simp [hne]

end Admission.Gate
