/-
  Admission.Proofs.Session.Renumbered — tasks under other numbers.

  A task has a number, under which the gate knows it and a caller keeps its ticket.  Whatever is done
  with a task comes to the same under other numbers, as long as different tasks have different ones:
  a poll, a drop of its future, and a drop by its name.

  Main results:
    * `perform_renumber` — a handler does not know its task's number;
    * `poll_renumber`, `abort_renumber` — **a poll and a drop under other numbers**;
    * `abortFirst_renumber` — the task that a name stands for.
-/
import Admission.Proofs.Gate.Renumbered
import Admission.Proofs.Session.Overlay

namespace Admission.Session

/-! ## §1. Other numbers. -/

/-- The scene whose requests have other numbers. -/
def Scene.renumber (f : Nat → Nat) (s : Scene) : Scene :=
  { s with
    gate := s.gate.renumber f
    kept := s.kept.map fun p => (p.1, f p.2) }

/-- The task under another number. -/
def Task.renumber (f : Nat → Nat) (t : Task) : Task := { t with key := f t.key }

/-- What is done with a task, under other numbers. -/
def renumbered (f : Nat → Nat) : Task × Scene → Task × Scene :=
  Prod.map (Task.renumber f) (Scene.renumber f)

/-! ## §2. Handlers. -/

/-- A handler does not know its task's number. -/
theorem perform_renumber (f : Nat → Nat) (name : String) (todo : List Action) (s : Scene) :
    (s.renumber f).perform name todo = Prod.map id (Scene.renumber f) (s.perform name todo) :=
  perform_comm (f := Scene.renumber f) (fun _ => rfl) (fun _ => rfl) (fun _ _ => rfl)
    (fun _ _ => rfl) name todo s

/-! ## §3. Tickets that callers keep. -/

theorem assign_map_snd (f : Nat → Nat) (name : String) (key : Nat) (l : List (String × Nat)) :
    Scene.assign name (f key) (l.map fun p => (p.1, f p.2))
      = (Scene.assign name key l).map fun p => (p.1, f p.2) := by
  induction l with
  | nil => rfl
  | cons p rest ih =>
      obtain ⟨n, v⟩ := p
      show (if n = name then (n, f key) :: rest.map _
          else (n, f v) :: Scene.assign name (f key) (rest.map _))
        = (if n = name then (n, key) :: rest else (n, v) :: Scene.assign name key rest).map _
      rw [ih]
      split <;> rfl

section Injective

variable {f : Nat → Nat} (hf : Function.Injective f)

include hf

theorem discardTicket_renumber (s : Scene) (key : Nat) :
    (s.renumber f).discardTicket (f key) = (s.discardTicket key).renumber f :=
  congrArg (fun gate => { s.renumber f with gate }) (Gate.discard_renumber hf s.gate key)

theorem keepTicket_renumber (s : Scene) (name : String) (key : Nat) :
    (s.renumber f).keepTicket name (f key) = (s.keepTicket name key).renumber f := by
  unfold Scene.keepTicket
  rw [show (s.renumber f).kept = s.kept.map fun p => (p.1, f p.2) from rfl, lookup_map_snd]
  cases s.kept.lookup name with
  | none => exact congrArg (fun kept => { s.renumber f with kept }) (assign_map_snd f name key s.kept)
  | some old =>
      simp only [Option.map_some, discardTicket_renumber hf]
      exact congrArg (fun kept => { (s.discardTicket old).renumber f with kept })
        (assign_map_snd f name key s.kept)

theorem abandon_renumber (s : Scene) (key : Nat) :
    (s.renumber f).abandon (f key) = (s.abandon key).renumber f := by
  unfold Scene.abandon
  rw [show (s.renumber f).gate = s.gate.renumber f from rfl, Gate.waiter?_renumber hf,
    Gate.abandon_renumber hf, Option.isSome_map]
  split <;> rfl

/-! ## §4. Tasks. -/

theorem proceed_renumber (t : Task) (c : Call) (guards : List Guard) (todo : List Action)
    (s : Scene) : (t.renumber f).proceed c guards todo (s.renumber f)
      = renumbered f (t.proceed c guards todo s) := by
  unfold Task.proceed
  rw [show (t.renumber f).name = t.name from rfl, perform_renumber]
  generalize s.perform t.name todo = out
  obtain ⟨left, s1⟩ := out
  cases left with
  | nil =>
      show (_, ((s1.renumber f).discardTicket (f t.key)).emit _) = _
      rw [discardTicket_renumber hf]
      rfl
  | cons a rest => rfl

/-- What follows from a verdict. -/
theorem settleVerdict_renumber (t : Task) (c : Call) (guards : List Guard)
    (context : Option Context) (s : Scene) (v : Verdict) :
    (t.renumber f).settleVerdict c guards context (s.renumber f) v
      = renumbered f (t.settleVerdict c guards context s v) := by
  cases v with
  | parked | rejected => rfl
  | admitted =>
      by_cases hr : c.reply = .ticket
      · unfold Task.settleVerdict
        simp only [hr]
        show (_, (((s.record (·.recordAdmitted)).renumber f).keepTicket t.name (f t.key)).emit _) = _
        rw [keepTicket_renumber hf]
        rfl
      · rw [settleVerdict_admitted _ hr, settleVerdict_admitted _ hr]
        exact proceed_renumber hf t c guards c.script.actions (s.record (·.recordAdmitted))

/-- **A POLL UNDER OTHER NUMBERS.** -/
theorem poll_renumber (t : Task) (s : Scene) :
    (t.renumber f).poll (s.renumber f) = renumbered f (t.poll s) := by
  unfold Task.poll
  rw [show (t.renumber f).job = t.job from rfl, show (t.renumber f).stage = t.stage from rfl]
  split
  · rfl
  · -- the first poll of a request
    next c _ _ =>
      unfold Task.enter
      simp only
      rw [show (s.renumber f).now = s.now from rfl, show (s.renumber f).tokens = s.tokens from rfl]
      generalize Task.arm s.now c.timeouts c.ambient s.tokens = armed
      split
      · rfl
      · have henter := Gate.enter_renumber hf s.gate t.key s.now
          (Task.isOver armed.context { s with tokens := armed.tokens })
        show Task.settleVerdict (t.renumber f) c armed.guards armed.context
          { s.renumber f with
            tokens := armed.tokens
            gate := ((s.gate.renumber f).enter (f t.key) s.now
              (Task.isOver armed.context { s with tokens := armed.tokens })).1 }
          ((s.gate.renumber f).enter (f t.key) s.now
            (Task.isOver armed.context { s with tokens := armed.tokens })).2 = _
        rw [henter]
        exact settleVerdict_renumber hf t c armed.guards armed.context
          { s with tokens := armed.tokens, gate := _ } _
  · -- a later poll of one that waits
    next c guards context _ _ =>
      unfold Task.resume
      rw [show (s.renumber f).now = s.now from rfl]
      split
      next g _ =>
        have habandon := abandon_renumber hf { s with tokens := s.tokens.cancel g.token } t.key
        show Task.missDeadline (t.renumber f) c
          ((Scene.renumber f { s with tokens := s.tokens.cancel g.token }).abandon (f t.key)) = _
        rw [habandon]
        rfl
      next =>
        have hresume := Gate.resume_renumber hf s.gate t.key s.now (Task.isOver context s)
        show Task.settleVerdict (t.renumber f) c guards context
          { s.renumber f with
            gate := ((s.gate.renumber f).resume (f t.key) s.now (Task.isOver context s)).1 }
          ((s.gate.renumber f).resume (f t.key) s.now (Task.isOver context s)).2 = _
        rw [hresume]
        exact settleVerdict_renumber hf t c guards context { s with gate := _ } _
  · -- a later poll of one whose handler runs
    next c guards todo _ _ =>
      unfold Task.advance
      rw [show (s.renumber f).now = s.now from rfl]
      split
      next g _ =>
        have hdiscard := discardTicket_renumber hf { s with tokens := s.tokens.cancel g.token } t.key
        show Task.missDeadline (t.renumber f) c
          ((Scene.renumber f { s with tokens := s.tokens.cancel g.token }).discardTicket (f t.key)) = _
        rw [hdiscard]
        rfl
      next => exact proceed_renumber hf t c guards todo s
  · rfl
  · rfl
  · rw [show (s.renumber f).now = s.now from rfl, show (s.renumber f).tokens = s.tokens from rfl]
    split <;> rfl
  · rw [show (s.renumber f).now = s.now from rfl]
    split <;> rfl
  · split <;> rfl

/-- **A DROP UNDER OTHER NUMBERS.** -/
theorem abort_renumber (t : Task) (s : Scene) :
    (t.renumber f).abort (s.renumber f) = renumbered f (t.abort s) := by
  unfold Task.abort
  rw [show (t.renumber f).stage = t.stage from rfl]
  split
  · exact congrArg (Prod.mk _) (abandon_renumber hf s t.key)
  · exact congrArg (Prod.mk _) (discardTicket_renumber hf s t.key)
  · rfl

/-- The first task of a name is the same one under other numbers. -/
theorem abortFirst_renumber (name : String) (ts : List Task) (s : Scene) :
    abortFirst name (ts.map (Task.renumber f)) (s.renumber f)
      = (abortFirst name ts s).map (Prod.map (List.map (Task.renumber f)) (Scene.renumber f)) := by
  induction ts with
  | nil => rfl
  | cons t rest ih =>
      rw [List.map_cons]
      unfold abortFirst
      rw [show (t.renumber f).isFinished = t.isFinished from rfl,
        show (t.renumber f).isNamed name = t.isNamed name from rfl, ih, abort_renumber hf]
      split
      · rfl
      · cases abortFirst name rest s <;> rfl

end Injective

end Admission.Session
