/-
  Admission.Proofs.Session.Timer — timers, guards and handlers at an instant.

  Whatever waits for an instant looks at the clock when it is polled: the gate's timer, a deadline
  guard, the context within it, a handler that sleeps.  Each lemma says what it finds there, before
  the instant or from then on.
-/
import Admission.Session.Task

namespace Admission

/-! ## §1. Milliseconds. -/

namespace Duration

theorem ofMillis_le_iff (m n : Nat) : ofMillis m ≤ ofMillis n ↔ m ≤ n := by
  rw [le_def]
  show 1000000 * m ≤ 1000000 * n ↔ m ≤ n
  omega

theorem ofMillis_add (m n : Nat) : ofMillis m + ofMillis n = ofMillis (m + n) := by
  show (⟨1000000 * m + 1000000 * n⟩ : Duration) = ⟨1000000 * (m + n)⟩
  rw [Nat.mul_add]

theorem zero_add (d : Duration) : zero + d = d := by
  show (⟨0 + d.nanos⟩ : Duration) = d
  rw [Nat.zero_add]

end Duration

/-! ## §2. The gate's timer. -/

/-- A timer that was set at the start of the clock. -/
theorem BacklogWait.expired_upTo (d now : Duration) :
    (BacklogWait.upTo d).expired .zero now = decide (Timer.span d ≤ now) := by
  simp only [BacklogWait.expired, BacklogWait.expiry?, BacklogWait.duration?, Option.map_some,
    Timer.after, Duration.zero_add]

/-! ## §3. Guards and handlers. -/

namespace Session

theorem dueGuard?_singleton {now : Duration} {g : Guard} (h : g.deadline ≤ now) :
    Task.dueGuard? now [g] = some g := by
  rw [Task.dueGuard?, List.find?_cons_of_pos (by simpa using h)]

theorem dueGuard?_singleton_of_not_le {now : Duration} {g : Guard} (h : ¬ g.deadline ≤ now) :
    Task.dueGuard? now [g] = none := by
  rw [Task.dueGuard?, List.find?_cons_of_neg (by simpa using h), List.find?_nil]

/-- A context that goes on: no token is cancelled, and its deadline has not come. -/
theorem isOver_of_not_le {id : Option String} {token : Token} {d : Duration} {s : Scene}
    (hs : s.tokens.cancelled = []) (h : ¬ d ≤ s.now) :
    Task.isOver (some ⟨id, token, some d⟩) s = false := by
  simp [Task.isOver, Context.isDone, Token.isCancelled, Context.isPast, hs, h]

/-- A handler whose last sleep is over. -/
theorem proceed_of_le {t : Task} {c : Call} {guards : List Guard} {s : Scene} {u : Duration}
    (h : u ≤ s.now) : t.proceed c guards [.sleepUntil u] s
      = (t.finish,
          (s.discardTicket t.key).emit (Task.endingEvent t.name c.reply c.script.ending)) := by
  simp only [Task.proceed, Scene.perform, if_pos h]

/-- A handler that sleeps on. -/
theorem proceed_of_not_le {t : Task} {c : Call} {guards : List Guard} {s : Scene} {u : Duration}
    (h : ¬ u ≤ s.now) : t.proceed c guards [.sleepUntil u] s
      = ({ t with stage := .running guards [.sleepUntil u] }, s) := by
  simp only [Task.proceed, Scene.perform, if_neg h]

/-- A handler that goes to sleep. -/
theorem proceed_sleep (t : Task) (c : Call) (guards : List Guard) {s : Scene} {d : Duration}
    (h : ¬ Timer.Due (Timer.after s.now d) s.now) : t.proceed c guards [.sleep d] s
      = ({ t with stage := .running guards [.sleepUntil (Timer.after s.now d)] }, s) := by
  simp only [Task.proceed, Scene.perform, if_neg h]

end Session

end Admission
