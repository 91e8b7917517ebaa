/-
  Admission.Proofs.Session.Orphans — whom the gate counts as cancelled.

  The gate counts a request as cancelled if it finds the request's context at its end, or if the
  request's future is dropped where it is parked.  An ORPHAN is a request of the second kind: a guard
  that was due has dropped it, or its caller.  Where no context ends of which the gate is told, the
  orphans are all that it counts.

  Main results:
    * `Turn.cancelled` — what one poll counts as cancelled;
    * `Sound.cancelled_move`, `Sound.cancelled_run` — **the gate counts the orphans**;
    * `Sound.nodup_orphaned` — and each of them once.
-/
import Admission.Proofs.Session.Lineage
import Admission.Proofs.Session.Handlers

namespace Admission.Session

open Gate (Balanced)

/-! ## §1. Orphans. -/

/-- The verdict of the gate is never that the context has ended. -/
def Undisturbed (x : Session) (t : Task) (c : Call) : Prop :=
  ∀ guards context s0, ¬ Asks t c x.scene guards context s0 (.rejected (.timeout true))

/-- So it is for every task, in every session that a run comes through. -/
def Quiet (x : Session) (ms : List Move) : Prop :=
  ∀ before after, ms = before ++ after → ∀ t ∈ (x.run before).tasks, ∀ c,
    t.job = .call c → (x.run before).Undisturbed t c

theorem Quiet.init {x : Session} {ms : List Move} {m : Move} (h : x.Quiet (ms ++ [m])) :
    x.Quiet ms :=
  fun before after he => h before (after ++ [m]) (by rw [he, List.append_assoc])

theorem Quiet.last {x : Session} {ms : List Move} (h : x.Quiet ms) :
    ∀ t ∈ (x.run ms).tasks, ∀ c, t.job = .call c → (x.run ms).Undisturbed t c :=
  h ms [] (List.append_nil ms).symm

/-- The request is parked. -/
def Task.isParked (t : Task) : Bool :=
  match t.stage with
  | .parked _ _ => true
  | _ => false

/-- **THE FUTURE OF REQUEST `k` IS DROPPED WHERE IT IS PARKED**: the request ends by a guard that is
due, or without being polled. -/
def orphans (x : Session) (m : Move) (k : Nat) : Bool :=
  match x.tasks[k]?, (x.move m).tasks[k]? with
  | some t, some u =>
      t.isParked && u.isFinished
        && (!m.polls k || (Task.dueGuard? x.scene.now t.guards).isSome)
  | _, _ => false

/-- The requests whose future a move drops where they are parked. -/
def orphaned (x : Session) (m : Move) : List Nat :=
  (List.range x.tasks.length).filter (x.orphans m)

theorem isParked_iff {t : Task} :
    t.isParked = true ↔ ∃ guards context, t.stage = .parked guards context := by
  unfold Task.isParked
  split
  next guards context hst => exact ⟨fun _ => ⟨guards, context, hst⟩, fun _ => rfl⟩
  next hn =>
    constructor
    · intro h
      cases h
    · rintro ⟨guards, context, hst⟩
      exact absurd hst (hn guards context)

theorem isFinished_iff {t : Task} : t.isFinished = true ↔ t.stage = .finished := by
  unfold Task.isFinished
  split
  next hst => exact ⟨fun _ => hst, fun _ => rfl⟩
  next hn =>
    constructor
    · intro h
      cases h
    · intro hst
      exact absurd hst hn

/-- A task that is as it was has not been orphaned. -/
theorem orphans_of_same {x : Session} {m : Move} {k : Nat}
    (h : (x.move m).tasks[k]? = x.tasks[k]?) : x.orphans m k = false := by
  unfold orphans
  rw [h]
  cases x.tasks[k]? with
  | none => rfl
  | some t =>
      cases hst : t.stage <;> simp [Task.isParked, Task.isFinished, hst]

theorem length_filter_range {n k : Nat} (hk : k < n) {p : Nat → Bool}
    (hp : ∀ j, j ≠ k → p j = false) :
    ((List.range n).filter p).length = if p k = true then 1 else 0 := by
  have hcount : ((List.range n).filter p).length = (List.range n).countP fun j => p k && j == k := by
    rw [← List.countP_eq_length_filter]
    refine List.countP_congr fun j _ => ?_
    by_cases hj : j = k
    · simp [hj]
    · simp [hj, hp j hj]
  rw [hcount]
  cases p k with
  | false => simp
  | true =>
      have hone := List.count_eq_one_of_mem List.nodup_range (List.mem_range.mpr hk)
      simpa [List.count] using hone

section Counts

variable {x : Session}

/-- Where a move concerns one task at most, it orphans that one at most. -/
theorem length_orphaned {m : Move} {k : Nat} {t : Task} (hk : x.tasks[k]? = some t)
    (hsame : ∀ j, j ≠ k → (x.move m).tasks[j]? = x.tasks[j]?) :
    (x.orphaned m).length = if x.orphans m k = true then 1 else 0 :=
  length_filter_range (List.getElem?_eq_some_iff.mp hk).1 fun j hj => orphans_of_same (hsame j hj)

theorem length_orphaned_of_same {m : Move}
    (hsame : ∀ (j : Nat) t, x.tasks[j]? = some t → (x.move m).tasks[j]? = some t) :
    (x.orphaned m).length = 0 := by
  unfold orphaned
  rw [List.length_eq_zero_iff, List.filter_eq_nil_iff]
  intro j hj
  obtain ⟨t, ht⟩ : ∃ t, x.tasks[j]? = some t :=
    ⟨_, List.getElem?_eq_getElem (List.mem_range.mp hj)⟩
  rw [orphans_of_same ((hsame j t ht).trans ht.symm)]
  nofun

end Counts

/-! ## §2. What a poll counts. -/

section Turns

variable {t : Task} {c : Call} {s s0 : Scene} {guards : List Guard} {context : Option Context}
  {v : Verdict} {out : Task × Scene}

theorem isParked_of_stage (h : ∀ guards context, t.stage ≠ .parked guards context) :
    t.isParked = false := by
  rw [Bool.eq_false_iff]
  intro hp
  obtain ⟨guards, context, hst⟩ := isParked_iff.mp hp
  exact h guards context hst

theorem guards_of_parked (hst : t.stage = .parked guards context) : t.guards = guards := by
  unfold Task.guards
  rw [hst]

/-- No guard of a parked request that asks is due. -/
theorem Asks.not_due (h : Asks t c s guards context s0 v) :
    (t.isParked && (Task.dueGuard? s.now t.guards).isSome) = false := by
  cases h with
  | enters hf =>
      rw [isParked_of_stage fun guards context hst => by rw [hf] at hst; cases hst]
      rfl
  | resumes hst hd =>
      rw [guards_of_parked hst, hd]
      exact Bool.and_false _

/-- A guard of a parked request that fires is due. -/
theorem Fires.due (h : Fires t c s s0) (hst : t.stage = .parked guards context) :
    (Task.dueGuard? s.now t.guards).isSome = true := by
  cases h with
  | atOnce hf =>
      rw [hf] at hst
      cases hst
  | parked hp hd =>
      rw [guards_of_parked hp, hd]
      rfl
  | running hp =>
      rw [hp] at hst
      cases hst

theorem Acts.not_due {todo : List Action} (h : Acts t c s guards todo s0) :
    (t.isParked && (Task.dueGuard? s.now t.guards).isSome) = false := by
  cases h with
  | begins hask => exact hask.not_due
  | goesOn hst =>
      rw [isParked_of_stage fun guards context hst' => by rw [hst] at hst'; cases hst']
      rfl

/-- A handler that acts is not counted as cancelled, and neither is its end. -/
theorem Acts.cancelled {todo : List Action} (h : Acts t c s guards todo s0)
    (hb : Balanced s.gate 0 0) (hp : Placed s.gate t) (hf : Fit t) (hc : t.job = .call c) :
    (t.proceed c guards todo s0).2.gate.counters.cancelled = s.gate.counters.cancelled := by
  obtain ⟨hb0, -, -, hq, -⟩ := h.effect hb hp hf hc
  have hcount : s0.gate.counters.cancelled = s.gate.counters.cancelled := by
    cases h with
    | @begins _ s1 hask =>
        show s1.gate.counters.cancelled = _
        rw [hask.counters hp]
        rfl
    | goesOn => rfl
  have hpro := progress_proceed t c guards s0 hq
  generalize t.proceed c guards todo s0 = out at hpro ⊢
  cases hpro with
  | suspended => exact hcount
  | @ended permits =>
      show (s0.gate.discard t.key).counters.cancelled = _
      rw [hb0.counters_discard t.key]
      exact hcount

/-- **WHAT A POLL COUNTS AS CANCELLED.** -/
theorem Turn.cancelled (h : Turn t c s out) (hb : Balanced s.gate 0 0) (hp : Placed s.gate t)
    (hf : Fit t) (hc : t.job = .call c)
    (hu : ∀ guards context s0, ¬ Asks t c s guards context s0 (.rejected (.timeout true))) :
    out.2.gate.counters.cancelled = s.gate.counters.cancelled
      + if (t.isParked && out.1.isFinished && (Task.dueGuard? s.now t.guards).isSome) = true
        then 1 else 0 := by
  -- every turn but one counts nothing, and orphans nobody
  have hsame : (t.isParked && (Task.dueGuard? s.now t.guards).isSome) = false →
      out.2.gate.counters.cancelled = s.gate.counters.cancelled →
      out.2.gate.counters.cancelled = s.gate.counters.cancelled
        + if (t.isParked && out.1.isFinished && (Task.dueGuard? s.now t.guards).isSome) = true
          then 1 else 0 := by
    intro hnot hcount
    rw [Bool.and_right_comm, hnot, Bool.false_and, if_neg Bool.false_ne_true, hcount,
      Nat.add_zero]
  cases h with
  | idle hi =>
      refine hsame ?_ rfl
      rw [isParked_of_stage fun guards context hst => by
        rw [hst] at hi
        rcases hi with hi | ⟨next, hi⟩ <;> cases hi]
      rfl
  | @late s0 hfire =>
      rcases hfire.counters hb hp with ⟨⟨guards, context, hst⟩, hcount⟩ | ⟨hno, hcount⟩
      · rw [isParked_iff.mpr ⟨guards, context, hst⟩, hfire.due hst]
        show s0.gate.counters.cancelled = _
        rw [hcount]
        rfl
      · refine hsame ?_ (congrArg Counters.cancelled hcount)
        rw [isParked_of_stage hno]
        rfl
  | parks hask =>
      exact hsame hask.not_due (congrArg Counters.cancelled (hask.counters hp))
  | @refused guards context s0 reason hask =>
      refine hsame hask.not_due ?_
      show s0.gate.counters.cancelled = _
      rw [hask.counters hp]
      -- the gate counts a refusal as cancelled only where the context has ended
      cases reason with
      | capacity => rfl
      | timeout ambient =>
          cases ambient with
          | false => rfl
          | true => exact absurd hask (hu guards context s0)
  | @keeps guards context s0 hask =>
      refine hsame hask.not_due ?_
      have hb0 : Balanced (s0.record (·.recordAdmitted)).gate 0 0 := (hask.effect hb hp).1
      show ((s0.record (·.recordAdmitted)).keepTicket t.name t.key).gate.counters.cancelled = _
      rw [counters_keepTicket hb0]
      show s0.gate.counters.cancelled = _
      rw [hask.counters hp]
      rfl
  | acts hact => exact hsame hact.not_due (hact.cancelled hb hp hf hc)

end Turns

/-! ## §3. What moves and runs count. -/

section Moves

variable {x : Session} {m : Move} {k : Nat} {t : Task}

/-- A request that ends without being polled is orphaned if it was parked. -/
theorem orphans_of_abort (hk : x.tasks[k]? = some t) (hm : m.polls k = false)
    (he : x.move m = x.onTask k Task.abort) : x.orphans m k = t.isParked := by
  have hself := getElem?_onTask_self hk Task.abort
  have hfinished : (t.abort x.scene).1.isFinished = true := by
    unfold Task.abort
    split <;> rfl
  unfold orphans
  rw [he, hself, hk]
  simp only [hfinished, hm, Bool.not_false, Bool.true_or, Bool.and_true]

theorem orphans_poll (hk : x.tasks[k]? = some t) :
    x.orphans (.poll k) k = (t.isParked && (t.poll x.scene).1.isFinished
      && (Task.dueGuard? x.scene.now t.guards).isSome) := by
  have hself := getElem?_onTask_self hk Task.poll
  unfold orphans
  rw [show x.move (.poll k) = x.onTask k Task.poll from rfl, hself, hk]
  simp only [polls_iff.mpr rfl, Bool.not_true, Bool.false_or]

/-- What the drop of a request counts as cancelled. -/
theorem cancelled_abort {s : Scene} (hb : Balanced s.gate 0 0) (hp : Placed s.gate t) :
    (t.abort s).2.gate.counters.cancelled
      = s.gate.counters.cancelled + if t.isParked = true then 1 else 0 := by
  unfold Task.abort
  cases hst : t.stage with
  | parked guards context =>
      obtain ⟨metrics, he⟩ := exists_eq_abandon s t.key
      rw [isParked_iff.mpr ⟨guards, context, hst⟩]
      show (s.abandon t.key).gate.counters.cancelled = _
      rw [he]
      show (s.gate.abandon t.key).counters.cancelled = _
      rw [Gate.counters_abandon_of_mem (hp.parked guards context hst)]
      rfl
  | running guards todo =>
      rw [isParked_of_stage fun guards context hst' => by rw [hst] at hst'; cases hst']
      show (s.gate.discard t.key).counters.cancelled = _
      rw [hb.counters_discard t.key]
      rfl
  | fresh | reporting | finished =>
      rw [isParked_of_stage fun guards context hst' => by rw [hst] at hst'; cases hst']
      rfl

/-- What a poll of any other task counts: nothing. -/
theorem Aside.gate_eq {s : Scene} {out : Task × Scene} (h : Aside t s out) :
    out.2.gate = s.gate := by
  cases h <;> rfl

namespace Sound

theorem cancelled_poll (h : x.Sound) (hk : x.tasks[k]? = some t)
    (hu : ∀ c, t.job = .call c → x.Undisturbed t c) :
    (x.move (.poll k)).scene.gate.counters.cancelled
      = x.scene.gate.counters.cancelled + (x.orphaned (.poll k)).length := by
  have hmem := List.mem_of_getElem? hk
  have hsame : ∀ j, j ≠ k → (x.move (.poll k)).tasks[j]? = x.tasks[j]? :=
    fun j hj => getElem?_onTask_of_ne (Ne.symm hj) Task.poll
  rw [length_orphaned hk hsame, orphans_poll hk, scene_move_poll hk]
  rcases call_or_not t with ⟨c, hc⟩ | hj
  · exact (turn_poll hc x.scene).cancelled h.balanced (h.placed t hmem) (h.fit t hmem) hc (hu c hc)
  · have hnot : t.isParked = false := isParked_of_stage fun guards context hst => by
      obtain ⟨c, hc⟩ := (h.fit t hmem).parked guards context hst
      exact hj c hc
    rw [(aside_poll hj x.scene).gate_eq, hnot]
    rfl

/-- A move that is no poll. -/
theorem cancelled_order (h : x.Sound) (hm : ∀ k, m.polls k = false) {y : Session}
    (hy : x.move m = y) (ho : Order x y) :
    y.scene.gate.counters.cancelled
      = x.scene.gate.counters.cancelled + (x.orphaned m).length := by
  have hnone : (∀ (j : Nat) t, x.tasks[j]? = some t → y.tasks[j]? = some t) →
      y.scene.gate.counters.cancelled = x.scene.gate.counters.cancelled →
      y.scene.gate.counters.cancelled
        = x.scene.gate.counters.cancelled + (x.orphaned m).length := by
    intro hsame hcount
    rw [length_orphaned_of_same (hy ▸ hsame), hcount, Nat.add_zero]
  cases ho with
  | @dropped k t hk =>
      have hsame : ∀ j, j ≠ k → (x.move m).tasks[j]? = x.tasks[j]? := by
        intro j hj
        rw [hy]
        exact getElem?_onTask_of_ne (Ne.symm hj) Task.abort
      rw [length_orphaned hk hsame, orphans_of_abort hk (hm k) hy, onTask_of_some hk]
      exact cancelled_abort h.balanced (h.placed t (List.mem_of_getElem? hk))
  | came name hj =>
      exact hnone (fun j t ht => getElem?_addTask ht name _) rfl
  | @released name key _ =>
      -- the release is all of a discard that could count
      refine hnone (fun _ _ ht => ht) ?_
      exact congrArg Counters.cancelled (h.balanced.counters_discard key)
  | @discarded name key _ =>
      refine hnone (fun _ _ ht => ht) ?_
      exact congrArg Counters.cancelled (h.balanced.counters_discard key)
  | idle | contextMade | cancelled | permitted => exact hnone (fun _ _ ht => ht) rfl

/-- **ONE MOVE COUNTS AS CANCELLED** whom it drops where they are parked. -/
theorem cancelled_move (h : x.Sound)
    (hu : ∀ t ∈ x.tasks, ∀ c, t.job = .call c → x.Undisturbed t c) (m : Move) :
    (x.move m).scene.gate.counters.cancelled
      = x.scene.gate.counters.cancelled + (x.orphaned m).length := by
  rcases poll_or_not m with ⟨k, rfl⟩ | hm
  · cases hk : x.tasks[k]? with
    | some t => exact h.cancelled_poll hk (hu t (List.mem_of_getElem? hk))
    | none =>
        have hx : x.move (.poll k) = x := onTask_of_none hk Task.poll
        rw [length_orphaned_of_same (by rw [hx]; exact fun _ _ ht => ht), hx, Nat.add_zero]
  · rcases order_or_tick x hm with ho | ⟨ms, hx⟩
    · exact h.cancelled_order hm rfl ho
    · rw [length_orphaned_of_same (by rw [hx]; exact fun _ _ ht => ht), hx, Nat.add_zero]
      rfl

/-- **A WHOLE RUN COUNTS AS CANCELLED** whom its moves drop where they are parked. -/
theorem cancelled_run (h : x.Sound) {ms : List Move} (hq : x.Quiet ms) :
    (x.run ms).scene.gate.counters.cancelled
      = x.scene.gate.counters.cancelled + (trail orphaned x ms).length := by
  induction ms using List.reverseRecOn with
  | nil => rfl
  | append_singleton ms m ih =>
      rw [run_concat, (h.run ms).cancelled_move hq.init.last, ih hq.init, trail_concat,
        List.length_append, Nat.add_assoc]

/-- Whoever was dropped has ended. -/
theorem finished_of_orphaned (h : x.Sound) {ms : List Move} {k : Nat}
    (hk : k ∈ trail orphaned x ms) :
    ∃ u, (x.run ms).tasks[k]? = some u ∧ u.stage = .finished := by
  obtain ⟨before, m, after, rfl, hm⟩ := exists_of_mem_trail hk
  have ho := (List.mem_filter.mp hm).2
  unfold orphans at ho
  split at ho
  next t u _ hu =>
    have hst : u.stage = .finished := isFinished_iff.mp (by simp at ho; exact ho.1.2)
    obtain ⟨v, hv, hheir⟩ := (((h.run before).move m).onward_run after).heir k u hu
    exact ⟨v, by rw [run_append]; exact hv, hheir.stays hst⟩
  next => cases ho

/-- Nobody is dropped twice. -/
theorem nodup_orphaned (h : x.Sound) (ms : List Move) : (trail orphaned x ms).Nodup := by
  induction ms using List.reverseRecOn with
  | nil => exact List.nodup_nil
  | append_singleton ms m ih =>
      rw [trail_concat]
      refine List.nodup_append.mpr ⟨ih, List.nodup_range.filter _, ?_⟩
      rintro k hold _ hnew rfl
      obtain ⟨u, hu, hst⟩ := h.finished_of_orphaned hold
      have ho := (List.mem_filter.mp hnew).2
      unfold orphans at ho
      rw [hu] at ho
      split at ho
      next t _ he _ =>
        cases he
        simp [Task.isParked, hst] at ho
      next => cases ho

end Sound

end Moves

end Admission.Session
