/-
  Admission.Proofs.Session.Mirror — the recorder and the gate count the same.

  The gate and the recorder each have counters of their own, which move at the same places: where the
  gate admits, where it refuses, and where a parked request is dropped, whoever drops it.  The
  recorder counts one thing more, the answers of deadline guards.

  A recorder that is there from the start MIRRORS the counters of the gate after every move, and so
  between any two polls of a round.

  Main results:
    * `mem_lines_iff` — what the exposition says is what was counted;
    * `Sound.mirrored_move`, `Sound.mirrored_run` — every move keeps the mirror, and takes no count
      back;
    * `metrics_mirror_gate` — **the mirror**, in every session that a run reaches.
-/
import Admission.Proofs.Http.Frame
import Admission.Proofs.Session.Closing
import Admission.Proofs.Session.Deadline
import Admission.Proofs.Session.Handlers

namespace Admission

/-! ## §1. The exposition. -/

namespace Metrics

/-- The refusals for a reason. -/
def refusals (m : Metrics) : Reason → Nat
  | .capacity => m.rejectedCapacity
  | .timeout false => m.rejectedTimeout
  | .timeout true => m.rejectedCancelled

/-- The counters, by the names under which they are told. -/
def counters (m : Metrics) : List (String × Nat) :=
  [("http_deadline_exceeded_total", m.deadlineExceeded), ("throttle_admitted_total", m.admitted),
   (rejectedName (.timeout true), m.rejectedCancelled), (rejectedName .capacity, m.rejectedCapacity),
   (rejectedName (.timeout false), m.rejectedTimeout), ("throttle_wait_seconds_count", m.waits)]

/-- A name that is one word, and not the mark of a remark. -/
def isPlain (name : String) : Bool := !name.toList.contains ' ' && name != "#"

theorem mem_onceRecorded {n : Nat} {line l : String} :
    l ∈ onceRecorded n line ↔ 0 < n ∧ l = line := by
  unfold onceRecorded
  split
  next h => simp [h]
  next h => simp [Nat.pos_of_ne_zero h]

/-- The first word of a line. -/
theorem takeWhile_figureLine {name : String} (h : isPlain name = true) (rest : String) :
    (name ++ " " ++ rest).toList.takeWhile (· != ' ') = name.toList := by
  have hblank : ∀ c ∈ name.toList, (c != ' ') = true := by
    intro c hc
    simp only [isPlain, Bool.and_eq_true, Bool.not_eq_true', List.contains_eq_mem,
      decide_eq_false_iff_not] at h
    refine bne_iff_ne.mpr fun he => h.1 ?_
    rwa [he] at hc
  rw [String.toList_append, String.toList_append, List.append_assoc,
    List.takeWhile_append_of_pos hblank]
  simp

theorem figureLine_inj {a b : String} (ha : isPlain a = true) (hb : isPlain b = true) {n k : Nat} :
    figureLine a n = figureLine b k ↔ a = b ∧ n = k := by
  constructor
  · intro h
    have hab : a.toList = b.toList := by
      rw [← takeWhile_figureLine ha (toString n), ← takeWhile_figureLine hb (toString k)]
      exact congrArg (fun s => s.toList.takeWhile (· != ' ')) h
    have hab : a = b := String.toList_inj.mp hab
    subst hab
    have hdigits := congrArg String.toList h
    simp only [figureLine, String.toList_append, List.append_cancel_left_eq,
      Nat.toString_eq_ofList_toDigits, String.toList_ofList] at hdigits
    refine ⟨rfl, ?_⟩
    rw [← Nat.ofDigitChars_ten_toDigits (n := n), hdigits, Nat.ofDigitChars_ten_toDigits]
  · rintro ⟨rfl, rfl⟩
    rfl

theorem figureLine_ne_kindLine {a : String} (ha : isPlain a = true) (n : Nat) (name kind : String) :
    figureLine a n ≠ kindLine name kind := by
  intro h
  have hhash : a.toList = "#".toList := by
    rw [← takeWhile_figureLine ha (toString n)]
    show (figureLine a n).toList.takeWhile _ = _
    rw [h]
    simp [kindLine, String.toList_append]
  have hhash : a = "#" := String.toList_inj.mp hhash
  subst hhash
  cases ha

/-- The names under which counters are told. -/
def counterNames : List String :=
  ["http_deadline_exceeded_total", "throttle_admitted_total", rejectedName (.timeout true),
   rejectedName .capacity, rejectedName (.timeout false), "throttle_wait_seconds_count"]

theorem isPlain_of_mem {name : String} (h : name ∈ counterNames) : isPlain name = true := by
  revert name
  decide

theorem figureLine_notMem_map {name gauge : String} (hname : isPlain name = true)
    (hg : isPlain gauge = true) (hne : gauge ≠ name) (n : Nat) (gauges : Option (Nat × Nat))
    (f : Nat × Nat → Nat) :
    figureLine name n ∉ (gauges.map fun g => figureLine gauge (f g)).toList := by
  intro hm
  simp only [Option.mem_toList, Option.map_eq_some_iff] at hm
  obtain ⟨g, -, he⟩ := hm
  exact hne ((figureLine_inj hg hname).mp he).1

theorem figureLine_notMem_kinds {name : String} (hname : isPlain name = true) (n : Nat)
    (gauges : Option (Nat × Nat)) (gauge kind : String) :
    figureLine name n ∉ (gauges.map fun _ => kindLine gauge kind).toList := by
  intro hm
  simp only [Option.mem_toList, Option.map_eq_some_iff] at hm
  obtain ⟨g, -, he⟩ := hm
  exact figureLine_ne_kindLine hname n gauge kind he.symm

/-- No gauge is told under the name of a counter. -/
theorem ne_of_mem_counterNames {name : String} (h : name ∈ counterNames) :
    "throttle_in_flight" ≠ name ∧ "throttle_waiting" ≠ name := by
  revert name
  decide

theorem recorded_figureLine {name a : String} (hname : isPlain name = true)
    (ha : isPlain a = true) (n k : Nat) :
    (0 < k ∧ figureLine name n = figureLine a k) ↔ 0 < n ∧ name = a ∧ n = k := by
  rw [figureLine_inj hname ha]
  constructor
  · rintro ⟨hk, rfl, rfl⟩
    exact ⟨hk, rfl, rfl⟩
  · rintro ⟨hk, rfl, rfl⟩
    exact ⟨hk, rfl, rfl⟩

/-- A counter has its line from the first time on that it was raised. -/
theorem mem_lines_iff (m : Metrics) {name : String} (h : name ∈ counterNames) (n : Nat) :
    figureLine name n ∈ m.lines ↔ 0 < n ∧ (name, n) ∈ m.counters := by
  have hplain := isPlain_of_mem h
  have hkind := figureLine_ne_kindLine hplain n
  have hkinds := figureLine_notMem_kinds hplain n m.gauges
  obtain ⟨hne, hne'⟩ := ne_of_mem_counterNames h
  have hflight := figureLine_notMem_map hplain (by decide) hne n m.gauges (·.1)
  have hwaiting := figureLine_notMem_map hplain (by decide) hne' n m.gauges (·.2)
  have hline : ∀ a ∈ counterNames, ∀ k, (0 < k ∧ figureLine name n = figureLine a k)
      ↔ 0 < n ∧ name = a ∧ n = k :=
    fun a ha k => recorded_figureLine hplain (isPlain_of_mem ha) n k
  simp only [counterNames, List.forall_mem_cons] at hline
  obtain ⟨h1, h2, h3, h4, h5, h6, -⟩ := hline
  simp only [lines, rejectedLine, List.mem_append, mem_onceRecorded, hkind, hkinds, hflight,
    hwaiting, h1, h2, h3, h4, h5, h6, and_false, false_or, or_false, counters, List.mem_cons,
    List.not_mem_nil, Prod.mk.injEq, ← and_or_left, or_assoc]

/-! ## §2. Counters side by side. -/

/-- No count of the recorder was taken back. -/
structure Grown (m m' : Metrics) : Prop where
  admitted : m.admitted ≤ m'.admitted
  waits : m.waits ≤ m'.waits
  refusals : ∀ reason, m.refusals reason ≤ m'.refusals reason
  deadlineExceeded : m.deadlineExceeded ≤ m'.deadlineExceeded

namespace Grown

variable {m m' m'' : Metrics}

theorem refl (m : Metrics) : Grown m m := ⟨le_rfl, le_rfl, fun _ => le_rfl, le_rfl⟩

theorem trans (h : Grown m m') (h' : Grown m' m'') : Grown m m'' :=
  ⟨h.admitted.trans h'.admitted, h.waits.trans h'.waits,
    fun reason => (h.refusals reason).trans (h'.refusals reason),
    h.deadlineExceeded.trans h'.deadlineExceeded⟩

end Grown

theorem refusals_recordRejected (m : Metrics) (reason other : Reason) :
    (m.recordRejected reason).refusals other
      = m.refusals other + if reason = other then 1 else 0 := by
  cases reason with
  | capacity =>
      cases other with
      | capacity => rfl
      | timeout ambient => cases ambient <;> rfl
  | timeout ambient =>
      cases other with
      | capacity => cases ambient <;> rfl
      | timeout ambient' => cases ambient <;> cases ambient' <;> rfl

/-- A refusal is counted as a refusal and as nothing else. -/
theorem recordRejected_eq (m : Metrics) (reason : Reason) :
    (m.recordRejected reason).admitted = m.admitted ∧ (m.recordRejected reason).waits = m.waits
      ∧ (m.recordRejected reason).deadlineExceeded = m.deadlineExceeded := by
  cases reason with
  | capacity => exact ⟨rfl, rfl, rfl⟩
  | timeout ambient => cases ambient <;> exact ⟨rfl, rfl, rfl⟩

/-- **A RECORDER THAT MIRRORS THE GATE**: it has counted what the gate has counted, `late` answers of
deadline guards besides, and no less than `low`. -/
structure Mirrors (low m : Metrics) (n : Counters) (late : Nat) : Prop where
  admitted : m.admitted = n.admitted
  /-- Each admission has one span of waiting. -/
  waits : m.waits = n.admitted
  refusals : ∀ reason, m.refusals reason = n.rejected reason
  deadlineExceeded : m.deadlineExceeded = late
  grown : Grown low m

namespace Mirrors

variable {low m : Metrics} {n : Counters} {late : Nat}

theorem recordAdmitted (h : Mirrors low m n late) :
    Mirrors low m.recordAdmitted n.recordAdmitted late := by
  refine ⟨congrArg (· + 1) h.admitted, congrArg (· + 1) h.waits, fun reason => ?_,
    h.deadlineExceeded, h.grown.trans ?_⟩
  · rw [Gate.rejected_recordAdmitted, ← h.refusals reason]
    rfl
  · exact ⟨Nat.le_succ _, Nat.le_succ _, fun _ => le_rfl, le_rfl⟩

theorem recordRejected (h : Mirrors low m n late) (reason : Reason) :
    Mirrors low (m.recordRejected reason) (n.recordRejected reason) late := by
  obtain ⟨hadmitted, hwaits, hlate⟩ := recordRejected_eq m reason
  have hcount := Gate.admitted_recordRejected n reason
  refine ⟨?_, ?_, fun other => ?_, hlate.trans h.deadlineExceeded, h.grown.trans ?_⟩
  · rw [hadmitted, hcount, h.admitted]
  · rw [hwaits, hcount, h.waits]
  · rw [refusals_recordRejected, Gate.rejected_recordRejected, h.refusals]
  · refine ⟨hadmitted.ge, hwaits.ge, fun other => ?_, hlate.ge⟩
    rw [refusals_recordRejected]
    exact Nat.le_add_right _ _

theorem recordDeadlineExceeded (h : Mirrors low m n late) :
    Mirrors low m.recordDeadlineExceeded n (late + 1) :=
  ⟨h.admitted, h.waits, h.refusals, congrArg (· + 1) h.deadlineExceeded,
    h.grown.trans ⟨le_rfl, le_rfl, fun _ => le_rfl, Nat.le_succ _⟩⟩

/-- Gauges are no counters. -/
theorem recordSnapshot (h : Mirrors low m n late) (s : Gate.Snapshot) :
    Mirrors low (m.recordSnapshot s) n late :=
  ⟨h.admitted, h.waits, h.refusals, h.deadlineExceeded,
    h.grown.trans ⟨le_rfl, le_rfl, fun _ => le_rfl, le_rfl⟩⟩

/-- From here on nothing is taken back. -/
theorem here (h : Mirrors low m n late) : Mirrors m m n late :=
  ⟨h.admitted, h.waits, h.refusals, h.deadlineExceeded, .refl m⟩

end Mirrors

end Metrics

namespace Session

open Gate (Balanced)

/-- The scene has a recorder, and this mirrors the gate. -/
def Scene.Mirrored (low : Metrics) (s : Scene) (late : Nat) : Prop :=
  ∃ m, s.metrics = some m ∧ Metrics.Mirrors low m s.gate.counters late

namespace Scene.Mirrored

variable {low : Metrics} {s s' : Scene} {late late' : Nat}

/-- Neither the recorder nor the gate has counted anything. -/
theorem congr (h : s.Mirrored low late) (hm : s'.metrics = s.metrics)
    (hc : s'.gate.counters = s.gate.counters) : s'.Mirrored low late := by
  obtain ⟨m, hs, hmir⟩ := h
  exact ⟨m, hm.trans hs, hc ▸ hmir⟩

/-- Both have counted. -/
theorem record (h : s.Mirrored low late) {f : Metrics → Metrics}
    (hm : s'.metrics = s.metrics.map f)
    (hf : ∀ m, Metrics.Mirrors low m s.gate.counters late →
      Metrics.Mirrors low (f m) s'.gate.counters late') : s'.Mirrored low late' := by
  obtain ⟨m, hs, hmir⟩ := h
  exact ⟨f m, by rw [hm, hs, Option.map_some], hf m hmir⟩

end Scene.Mirrored

/-! ## §3. What a poll counts. -/

/-- What the recorder is told of a verdict. -/
def Scene.note (s : Scene) : Verdict → Scene
  | .admitted => s.record (·.recordAdmitted)
  | .rejected reason => s.record (·.recordRejected reason)
  | .parked => s

/-- A poll of the task in this scene is answered by a deadline guard. -/
def Task.isLate (t : Task) (s : Scene) : Bool :=
  match t.job with
  | .call c => t.station c s == .fires
  | _ => false

section Stations

variable {low : Metrics} {t : Task} {c : Call} {s s0 : Scene} {guards : List Guard}
  {context : Option Context} {v : Verdict} {late : Nat}

theorem isLate_of_station {station : Station} (hc : t.job = .call c)
    (h : t.station c s = station) : t.isLate s = (station == .fires) := by
  unfold Task.isLate
  simp only [hc, h]

/-- **THE RECORDER IS TOLD WHAT THE GATE SAYS.** -/
theorem Asks.mirrored (h : Asks t c s guards context s0 v) (hp : Placed s.gate t)
    (hm : s.Mirrored low late) : (s0.note v).Mirrored low late := by
  have hcount := h.counters hp
  obtain ⟨gate, tokens, rfl⟩ := h.exists_eq
  cases v with
  | parked => exact hm.congr rfl hcount
  | admitted =>
      refine hm.record rfl fun m hmir => ?_
      show Metrics.Mirrors low _ gate.counters _
      rw [show gate.counters = _ from hcount]
      exact hmir.recordAdmitted
  | rejected reason =>
      refine hm.record rfl fun m hmir => ?_
      show Metrics.Mirrors low _ gate.counters _
      rw [show gate.counters = _ from hcount]
      exact hmir.recordRejected reason

/-- A parked request that is dropped is counted on both sides. -/
theorem mirrored_abandon (hm : s.Mirrored low late) (hk : t.key ∈ s.gate.waiters.map (·.id)) :
    (s.abandon t.key).Mirrored low late := by
  cases hu : s.gate.waiter? t.key with
  | none => exact absurd hk (Gate.waiter?_eq_none_iff.mp hu)
  | some u =>
      have he : s.abandon t.key
          = Scene.record { s with gate := s.gate.abandon t.key }
              (·.recordRejected (.timeout true)) := by
        unfold Scene.abandon
        rw [hu, Option.isSome_some, if_pos rfl]
      rw [he]
      refine hm.record rfl fun m hmir => ?_
      show Metrics.Mirrors low _ (s.gate.abandon t.key).counters _
      rw [Gate.counters_abandon_of_mem hk]
      exact hmir.recordRejected _

theorem mirrored_discard (hm : s.Mirrored low late) (hb : Balanced s.gate 0 0) (key : Nat) :
    (s.discardTicket key).Mirrored low late :=
  hm.congr rfl (hb.counters_discard key)

/-- **A GUARD THAT FIRES DROPS ITS REQUEST**, wherever that stands. -/
theorem Fires.mirrored (h : Fires t c s s0) (hb : Balanced s.gate 0 0) (hp : Placed s.gate t)
    (hm : s.Mirrored low late) : s0.Mirrored low late := by
  cases h with
  | atOnce => exact hm.congr rfl rfl
  | parked hst =>
      exact mirrored_abandon (s := { s with tokens := _ }) (hm.congr rfl rfl) (hp.parked _ _ hst)
  | running =>
      exact mirrored_discard (s := { s with tokens := _ }) (hm.congr rfl rfl) hb t.key

/-- A handler counts for nothing, and neither does the ticket that it gives back. -/
theorem mirrored_proceed (hm : s.Mirrored low late) (hb : Balanced s.gate 0 0)
    {todo : List Action} (hq : Action.announce ∉ todo.tail) :
    (t.proceed c guards todo s).2.Mirrored low late := by
  have hpro := progress_proceed t c guards s hq
  generalize t.proceed c guards todo s = out at hpro ⊢
  cases hpro with
  | suspended => exact hm.congr rfl rfl
  | ended => exact hm.congr rfl (hb.counters_discard t.key)

theorem Asks.isLate_eq (h : Asks t c s guards context s0 v) (hc : t.job = .call c) :
    t.isLate s = false := isLate_of_station hc h.station

theorem Acts.isLate_eq {todo : List Action} (h : Acts t c s guards todo s0)
    (hc : t.job = .call c) : t.isLate s = false := by
  cases h with
  | begins hask => exact hask.isLate_eq hc
  | goesOn hst hd => exact isLate_of_station hc (station_of_running hst hd)

theorem isLate_of_aside (hj : ∀ c, t.job ≠ .call c) : t.isLate s = false := by
  unfold Task.isLate
  cases hjob : t.job with
  | call c => exact absurd hjob (hj c)
  | free | watch | report => rfl

/-- The handler is called when the recorder has been told. -/
theorem Acts.mirrored {todo : List Action} (h : Acts t c s guards todo s0)
    (hp : Placed s.gate t) (hm : s.Mirrored low late) : s0.Mirrored low late := by
  cases h with
  | begins hask => exact hask.mirrored hp hm
  | goesOn => exact hm

/-- **WHAT A POLL COUNTS**, it counts on both sides. -/
theorem mirrored_poll (hb : Balanced s.gate 0 0) (hp : Placed s.gate t) (hf : Fit t)
    (hm : s.Mirrored low late) : (t.poll s).2.Mirrored low (late + (t.isLate s).toNat) := by
  rcases call_or_not t with ⟨c, hc⟩ | hj
  · have hturn := turn_poll hc s
    generalize t.poll s = out at hturn ⊢
    cases hturn with
    | idle hi =>
        have hrests : t.station c s = .rests := by
          unfold Task.station
          rcases hi with hi | ⟨next, hi⟩ <;> rw [hi]
        rw [isLate_of_station hc hrests]
        exact hm
    | late hfire =>
        -- the one station at which the recorder is told and the gate counts nothing
        rw [isLate_of_station hc hfire.station]
        exact (hfire.mirrored hb hp hm).record rfl fun m hmir => hmir.recordDeadlineExceeded
    | parks hask =>
        rw [hask.isLate_eq hc]
        exact hask.mirrored hp hm
    | refused hask =>
        rw [hask.isLate_eq hc]
        exact (hask.mirrored hp hm).congr rfl rfl
    | @keeps guards context s0 hask =>
        obtain ⟨hb0, -, -⟩ := hask.effect hb hp
        rw [hask.isLate_eq hc]
        have hcount := counters_keepTicket (s := s0.note .admitted) hb0 t.name t.key
        refine (hask.mirrored hp hm).congr ?_ hcount
        show ((s0.record (·.recordAdmitted)).keepTicket t.name t.key).metrics = _
        rcases Sound.keepTicket_eq (s0.record (·.recordAdmitted)) t.name t.key with he | ⟨_, -, he⟩
          <;> rw [he] <;> rfl
    | acts hact =>
        obtain ⟨hb0, -, -, hq, -⟩ := hact.effect hb hp hf hc
        rw [hact.isLate_eq hc]
        exact mirrored_proceed (hact.mirrored hp hm) hb0 hq
  · rw [isLate_of_aside hj]
    have haside := aside_poll hj s
    generalize t.poll s = out at haside ⊢
    cases haside with
    | still | answers | sees | leaves => exact hm.congr rfl rfl
    | reports => exact hm.record rfl fun m hmir => hmir.recordSnapshot _

/-- A future that is dropped. -/
theorem mirrored_abort (hb : Balanced s.gate 0 0) (hp : Placed s.gate t)
    (hm : s.Mirrored low late) : (t.abort s).2.Mirrored low late := by
  unfold Task.abort
  split
  next guards context hst => exact mirrored_abandon hm (hp.parked guards context hst)
  next => exact mirrored_discard hm hb t.key
  next => exact hm

end Stations

/-! ## §4. What a run counts. -/

/-- The answers that deadline guards give in a move. -/
def lateAnswers (x : Session) : Move → List Event
  | .poll k =>
    match x.tasks[k]? with
    | some t => if t.isLate x.scene then x.shown (.poll k) else []
    | none => []
  | _ => []

section Runs

variable {low : Metrics} {x y : Session} {k late : Nat} {t : Task}

theorem lateAnswers_poll (hk : x.tasks[k]? = some t) :
    x.lateAnswers (.poll k) = if t.isLate x.scene then x.shown (.poll k) else [] := by
  unfold lateAnswers
  simp only [hk]

theorem lateAnswers_of_not_polls {m : Move} (hm : ∀ k, m.polls k = false) :
    x.lateAnswers m = [] := by
  cases m with
  | poll j => exact absurd ((polls_iff.mpr rfl).symm.trans (hm j)) nofun
  | drop | tell | advance => rfl

theorem exists_fires_of_station {c : Call} {s : Scene} (h : t.station c s = .fires) :
    ∃ s0, Fires t c s s0 := by
  unfold Task.station at h
  split at h
  next hst =>
    simp only at h
    split at h
    next hy => exact ⟨_, .atOnce hst rfl hy⟩
    · cases h
  next guards context hst =>
    split at h
    next hd =>
      obtain ⟨g, hg⟩ := Option.isSome_iff_exists.mp hd
      exact ⟨_, .parked hst hg⟩
    · cases h
  next guards todo hst =>
    split at h
    next hd =>
      obtain ⟨g, hg⟩ := Option.isSome_iff_exists.mp hd
      exact ⟨_, .running hst hg⟩
    · cases h
  next => cases h
  next => cases h

theorem exists_answer_of_deadlineEvent (name : String) (reply : Reply) :
    ∃ answer, Task.deadlineEvent name reply = .response name answer
      ∧ answer.status = .gatewayTimeout := by
  cases reply with
  | http frame => exact ⟨_, rfl, frame.status_finish _⟩
  | ticket | value => exact ⟨_, rfl, rfl⟩

/-- **A GUARD THAT FIRES ANSWERS ONCE**, that the deadline has come. -/
theorem shown_of_isLate (hk : x.tasks[k]? = some t) (h : t.isLate x.scene = true) :
    ∃ answer, x.shown (.poll k) = [.response t.name answer]
      ∧ answer.status = .gatewayTimeout := by
  rcases call_or_not t with ⟨c, hc⟩ | hj
  · have hstation : t.station c x.scene = .fires := by
      rw [isLate_of_station hc rfl] at h
      exact beq_iff_eq.mp h
    obtain ⟨s0, hfire⟩ := exists_fires_of_station hstation
    obtain ⟨answer, he, hstatus⟩ := exists_answer_of_deadlineEvent t.name c.reply
    exact ⟨answer, (hfire.shown hk hc).1.trans (congrArg ([·]) he), hstatus⟩
  · rw [isLate_of_aside hj] at h
    cases h

theorem length_lateAnswers_poll (hk : x.tasks[k]? = some t) :
    (x.lateAnswers (.poll k)).length = (t.isLate x.scene).toNat := by
  rw [lateAnswers_poll hk]
  cases h : t.isLate x.scene with
  | true =>
      obtain ⟨answer, he, -⟩ := shown_of_isLate hk h
      rw [if_pos rfl, he]
      rfl
  | false => rfl

theorem exists_answer_of_mem_lateAnswers {m : Move} {e : Event} (h : e ∈ x.lateAnswers m) :
    ∃ name answer, e = .response name answer ∧ answer.status = .gatewayTimeout := by
  rcases poll_or_not m with ⟨k, rfl⟩ | hm
  · unfold lateAnswers at h
    simp only at h
    split at h
    next t hk =>
      split at h
      next hl =>
        obtain ⟨answer, he, hstatus⟩ := shown_of_isLate hk hl
        rw [he] at h
        exact ⟨t.name, answer, List.mem_singleton.mp h, hstatus⟩
      next => cases h
    next => cases h
  · rw [lateAnswers_of_not_polls hm] at h
    cases h

theorem Sound.mirrored_order (h : x.Sound) (ho : Order x y) (hm : x.scene.Mirrored low late) :
    y.scene.Mirrored low late := by
  cases ho with
  | idle => exact hm
  | @dropped k t hk =>
      rw [onTask_of_some hk]
      exact mirrored_abort h.balanced (h.placed t (List.mem_of_getElem? hk)) hm
  | came | contextMade | cancelled | permitted => exact hm.congr rfl rfl
  | @released name key | @discarded name key =>
      exact hm.congr rfl (h.balanced.counters_discard key)

/-- **EVERY MOVE KEEPS THE MIRROR**, and takes no count back. -/
theorem Sound.mirrored_move (h : x.Sound) (m : Move) (hm : x.scene.Mirrored low late) :
    (x.move m).scene.Mirrored low (late + (x.lateAnswers m).length) := by
  rcases poll_or_not m with ⟨k, rfl⟩ | hnot
  · cases hk : x.tasks[k]? with
    | none =>
        rw [show x.move (.poll k) = x from onTask_of_none hk Task.poll]
        unfold lateAnswers
        simp only [hk]
        exact hm
    | some t =>
        have hmem := List.mem_of_getElem? hk
        rw [length_lateAnswers_poll hk, scene_move_poll hk]
        exact mirrored_poll h.balanced (h.placed t hmem) (h.fit t hmem) hm
  · rw [lateAnswers_of_not_polls hnot]
    rcases order_or_tick x hnot with ho | ⟨ms, he⟩
    · exact h.mirrored_order ho hm
    · rw [he]
      exact hm.congr rfl rfl

/-- **THE MIRROR STAYS** through a whole run. -/
theorem Sound.mirrored_run (h : x.Sound) (ms : List Move) (hm : x.scene.Mirrored low late) :
    (x.run ms).scene.Mirrored low (late + (trail lateAnswers x ms).length) := by
  induction ms using List.reverseRecOn with
  | nil => exact hm
  | append_singleton ms m ih =>
      rw [run_concat, trail_concat, List.length_append, ← Nat.add_assoc]
      exact (h.run ms).mirrored_move m ih

end Runs

/-! ## §5. Requests that are not throttled. -/

section Free

variable {x : Session} {k : Nat} {t : Task} {v : Http.Visit}

/-- A request that the site does not throttle comes, and nothing else happens. -/
theorem move_http_of_aside (x : Session) (name : String) (context : Option String)
    {r : Http.Request} (hr : r.path ≠ "/" ∨ r.method = "OPTIONS") :
    x.move (.tell (.http name context r)) = x.addTask name (.free (x.site.visit r)) := by
  have hjob := siteJob_of_aside x.site (x.context? context) hr
  show (x.apply (.http name context r)).1 = _
  rw [← hjob]
  simp only [apply]

theorem scene_poll_of_free (hk : x.tasks[k]? = some t) (hj : t.job = .free v) :
    (x.move (.poll k)).scene.metrics = x.scene.metrics
      ∧ (x.move (.poll k)).scene.gate = x.scene.gate := by
  rw [scene_move_poll hk]
  by_cases hn : t.stage = .finished
  · rw [poll_of_finished hn]
    exact ⟨rfl, rfl⟩
  · rw [poll_free hj hn]
    exact ⟨rfl, rfl⟩

theorem Sound.scene_drop_of_free (h : x.Sound) (hk : x.tasks[k]? = some t) (hj : t.job = .free v) :
    (x.move (.drop k)).scene = x.scene := by
  have hfit := h.fit t (List.mem_of_getElem? hk)
  show (x.onTask k Task.abort).scene = _
  rw [onTask_of_some hk]
  show (t.abort x.scene).2 = _
  unfold Task.abort
  -- it never waits at the gate, and never has a ticket
  split
  next guards context hst =>
    obtain ⟨c, hc⟩ := hfit.parked guards context hst
    rw [hj] at hc
    cases hc
  next guards todo hst =>
    obtain ⟨-, c, hc, -⟩ := hfit.running guards todo hst
    rw [hj] at hc
    cases hc
  next => rfl

end Free

/-! ## §6. The mirror. -/

/-- **WHAT THE RECORDER HAS COUNTED**, `m`, when a session `x` has made the moves `ms`. -/
structure Recorded (x : Session) (ms : List Move) (m : Metrics) : Prop where
  recorder : (x.run ms).scene.metrics = some m
  admitted : m.admitted = (x.run ms).scene.gate.counters.admitted
    ∧ (x.run ms).scene.gate.snapshot.admitted = .ofNat m.admitted
  waits : m.waits = (x.run ms).scene.gate.counters.admitted
  refusals : ∀ reason, m.refusals reason = (x.run ms).scene.gate.counters.rejected reason
  capacity : (x.run ms).scene.gate.snapshot.rejectedCapacity = .ofNat (m.refusals .capacity)
  timeout : (x.run ms).scene.gate.snapshot.rejectedTimeout = .ofNat (m.refusals (.timeout false))
  cancelled :
    (x.run ms).scene.gate.snapshot.rejectedCancelled = .ofNat (m.refusals (.timeout true))
  /-- The answers of deadline guards are told apart from those of handlers and refusals. -/
  deadlineExceeded : m.deadlineExceeded = (trail lateAnswers x ms).length
  answers : ∀ e ∈ trail lateAnswers x ms,
    ∃ name answer, e = .response name answer ∧ answer.status = .gatewayTimeout
  /-- A request whose guard fires is answered by this guard alone. -/
  late : ∀ k t, (x.run ms).tasks[k]? = some t → t.isLate (x.run ms).scene = true →
    ∃ answer, (x.run ms).shown (.poll k) = [.response t.name answer]
      ∧ answer.status = .gatewayTimeout
  /-- The exposition tells each counter as it is. -/
  lines : ∀ name ∈ Metrics.counterNames, ∀ n,
    Metrics.figureLine name n ∈ m.lines ↔ 0 < n ∧ (name, n) ∈ m.counters
  /-- No count is ever taken back. -/
  grown : ∀ after, ∃ m', ((x.run ms).run after).scene.metrics = some m' ∧ m.Grown m'
  /-- Requests that are not throttled come, are answered and are dropped, and count for nothing. -/
  comes : ∀ name context (r : Http.Request), r.path ≠ "/" ∨ r.method = "OPTIONS" →
    (x.run ms).move (.tell (.http name context r))
      = (x.run ms).addTask name (.free ((x.run ms).site.visit r))
  free : ∀ k t v, (x.run ms).tasks[k]? = some t → t.job = .free v →
    ∀ y ∈ [(x.run ms).move (.poll k), (x.run ms).move (.drop k)],
      y.scene.metrics = some m ∧ y.scene.gate = (x.run ms).scene.gate

/-- At the start nothing is counted on either side. -/
theorem mirrored_ofGate {o : Options} {g : Gate} (h : Gate.ofOptions o = .ok g) (policy : Policy)
    (site : Site) : (ofGate g policy site (some .empty)).scene.Mirrored .empty 0 := by
  have hcounters : g.counters = .zero := by
    rw [Gate.World.eq_of_ofOptions h]
    rfl
  refine ⟨.empty, rfl, ?_⟩
  show Metrics.Mirrors .empty .empty g.counters 0
  rw [hcounters]
  refine ⟨rfl, rfl, fun reason => ?_, rfl, .refl _⟩
  cases reason with
  | capacity => rfl
  | timeout ambient => cases ambient <;> rfl

/-- **METRICS MIRROR THE GATE**: whatever a session over an accepted gate does, whose recorder is
there from the start. -/
theorem metrics_mirror_gate (o : Options) (g : Gate) (h : Gate.ofOptions o = .ok g)
    (policy : Policy) (site : Site) (ms : List Move) :
    ∃ m, Recorded (ofGate g policy site (some .empty)) ms m := by
  have hstart := ofGate_sound h policy site (some .empty)
  have hempty := mirrored_ofGate h policy site
  generalize ofGate g policy site (some .empty) = x at hstart hempty ⊢
  have hs := hstart.run ms
  obtain ⟨m, hm, hmir⟩ := hstart.mirrored_run ms hempty
  -- the mirror gives the counts, and the figures show the same counts as words
  have hrefused := hmir.refusals
  refine ⟨m, hm, ⟨hmir.admitted, congrArg UInt64.ofNat hmir.admitted.symm⟩, hmir.waits, hrefused,
    congrArg UInt64.ofNat (hrefused .capacity).symm,
    congrArg UInt64.ofNat (hrefused (.timeout false)).symm,
    congrArg UInt64.ofNat (hrefused (.timeout true)).symm,
    hmir.deadlineExceeded.trans (Nat.zero_add _), fun e he => ?_,
    fun _ _ hk hl => shown_of_isLate hk hl,
    fun _ hname n => Metrics.mem_lines_iff m hname n, fun after => ?_,
    fun name context _ hr => move_http_of_aside _ name context hr, fun k t v hk hj y hy => ?_⟩
  · obtain ⟨before, m', after, -, he⟩ := exists_of_mem_trail he
    exact exists_answer_of_mem_lateAnswers he
  · obtain ⟨m', hm', hmir'⟩ := hs.mirrored_run after ⟨m, hm, hmir.here⟩
    exact ⟨m', hm', hmir'.grown⟩
  · simp only [List.mem_cons, List.not_mem_nil, or_false] at hy
    rcases hy with rfl | rfl
    · obtain ⟨hmetrics, hgate⟩ := scene_poll_of_free hk hj
      exact ⟨hmetrics.trans hm, hgate⟩
    · have hscene := hs.scene_drop_of_free hk hj
      exact ⟨by rw [hscene, hm], by rw [hscene]⟩

/-- One request runs until its deadline; of two others one is dropped where it waits, and one finds
the gate full. -/
theorem metrics_mirror_gate_late_and_dropped :
    Gate.ofOptions ((Options.ofLimit 1).withBacklog 1 .unbounded)
        = .ok (Gate.ofLimits 1 2 .unbounded)
      ∧ ∃ m, Recorded
          (ofGate (Gate.ofLimits 1 2 .unbounded) .standard
            ⟨.ofMillis 50, some (.ofMillis 30)⟩ (some .empty))
          [.tell (.http "a" none ⟨"GET", "/"⟩), .poll 0, .tell (.http "b" none ⟨"GET", "/"⟩),
            .poll 1, .tell (.http "c" none ⟨"GET", "/"⟩), .poll 2, .drop 1,
            .advance 30, .poll 0] m :=
  ⟨rfl, metrics_mirror_gate ((Options.ofLimit 1).withBacklog 1 .unbounded) _ rfl _ _ _⟩

example :
    ((ofGate (Gate.ofLimits 1 2 .unbounded) .standard
      ⟨.ofMillis 50, some (.ofMillis 30)⟩ (some .empty)).run
        [.tell (.http "a" none ⟨"GET", "/"⟩), .poll 0, .tell (.http "b" none ⟨"GET", "/"⟩),
            .poll 1, .tell (.http "c" none ⟨"GET", "/"⟩), .poll 2, .drop 1,
            .advance 30, .poll 0]).scene.metrics
      = some ⟨1, 1, 1, 0, 1, 1, none⟩ := by
  decide +kernel

end Session

end Admission
