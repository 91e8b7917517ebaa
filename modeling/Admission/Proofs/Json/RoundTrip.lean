/-
  Admission.Proofs.Json.RoundTrip — what is written as a document is read back.

  Six types have documents: the figures of a gate, the settings of a gate and of the server, and the
  failures with their codes and reports.  Each has a shape, and its documents are just those that
  conform to it.  All else follows from the shape: a value survives its compact and its pretty form,
  whatever reads as the type is a value of it, and to read a text and write it again changes nothing
  the second time.

  Main results:
    * `Coding.Lawful.faithful` — the laws of reading and writing, for any type with such documents;
    * `documents_survive` — **what is written is read back**, for the six types, for what the server
      answers about its gate, and for the settings that the program shows.
-/
import Admission.Program.Run
import Admission.Proofs.Config.Layering
import Admission.Proofs.Http.Frame
import Admission.Proofs.Json.Conforming
import Admission.Proofs.Session.Turn

namespace Admission

namespace Json

/-! ## §1. Types with documents. -/

/-- How the values of a type are written as documents, and read from them. -/
structure Coding (α : Type) where
  shape : Shape
  toValue : α → Value
  ofValue? : Value → Option α

namespace Coding

variable {α : Type} (c : Coding α)

/-- The text of a value. -/
def encode (a : α) : String := (c.toValue a).compact

/-- A text as a value of the type. -/
def decode (text : String) : Option α := (c.shape.read text).toOption.bind c.ofValue?

/-- A text that is read and written again. -/
def recode (text : String) : Option String := (c.decode text).map c.encode

/-- The documents of the type are just those of its shape. -/
structure Lawful : Prop where
  sound : c.shape.IsSound
  conforms : ∀ a, Conforms c.shape (c.toValue a)
  ofValue_toValue : ∀ a, c.ofValue? (c.toValue a) = some a
  exists_toValue : ∀ v, Conforms c.shape v → ∃ a, c.toValue a = v

/-- **THE LAWS OF READING AND WRITING.** -/
structure Faithful : Prop where
  decode_encode : ∀ a, c.decode (c.encode a) = some a
  decode_pretty : ∀ a, c.decode (c.toValue a).pretty = some a
  /-- Whatever is read without a fault is a value of the type, and the one that was written. -/
  decode_of_read : ∀ text v, c.shape.read text = .ok v →
    ∃ a, c.decode text = some a ∧ c.toValue a = v
  /-- What was read and written again stays as it is when that is done once more. -/
  recode_recode : ∀ text written, c.recode text = some written → c.recode written = some written

variable {c}

theorem decode_of_read {a : α} (hof : c.ofValue? (c.toValue a) = some a) {text : String}
    (h : c.shape.read text = .ok (c.toValue a)) : c.decode text = some a := by
  unfold decode
  rw [h]
  exact hof

theorem Lawful.faithful (h : c.Lawful) : c.Faithful := by
  have hencode : ∀ a, c.decode (c.encode a) = some a := fun a =>
    decode_of_read (h.ofValue_toValue a) (Shape.read_compact h.sound (h.conforms a))
  constructor
  case decode_encode => exact hencode
  case decode_pretty =>
    exact fun a => decode_of_read (h.ofValue_toValue a) (Shape.read_pretty h.sound (h.conforms a))
  case decode_of_read =>
    intro text v hread
    obtain ⟨a, rfl⟩ := h.exists_toValue v (Shape.conforms_of_read h.sound hread)
    exact ⟨a, decode_of_read (h.ofValue_toValue a) hread, rfl⟩
  case recode_recode =>
    intro text written hwritten
    obtain ⟨a, -, rfl⟩ := Option.map_eq_some_iff.mp hwritten
    unfold recode
    rw [hencode]
    rfl

end Coding

/-! ## §2. Members. -/

section Members

variable {v : Value}

/-- The numbers of a width without a sign are natural numbers. -/
theorem exists_natural {w : Width} {name : String} (hw : w.low = 0)
    (h : Conforms (.integer w name) v) : ∃ n : Nat, n ≤ w.high ∧ Value.ofNat n = v := by
  unfold Conforms at h
  obtain ⟨n, rfl, hn⟩ := h
  obtain ⟨hlow, hhigh⟩ := Width.contains_iff.mp hn
  rw [hw] at hlow
  have hnat : (n.toNat : Int) = n := Int.toNat_of_nonneg hlow
  exact ⟨n.toNat, hnat ▸ hhigh, congrArg Value.integer hnat⟩

theorem exists_word64 {name : String} (h : Conforms (.integer .word64 name) v) :
    ∃ n : UInt64, Value.ofNat n.toNat = v := by
  obtain ⟨n, hn, rfl⟩ := exists_natural rfl h
  have hlt : (n : Int) ≤ 18446744073709551615 := hn
  refine ⟨.ofNat n, ?_⟩
  rw [UInt64.toNat_ofNat_of_lt' (by simp [UInt64.size]; omega)]

theorem exists_word16 {name : String} (h : Conforms (.integer .word16 name) v) :
    ∃ n : UInt16, Value.ofNat n.toNat = v := by
  obtain ⟨n, hn, rfl⟩ := exists_natural rfl h
  have hlt : (n : Int) ≤ 65535 := hn
  refine ⟨.ofNat n, ?_⟩
  rw [UInt16.toNat_ofNat_of_lt' (by simp [UInt16.size]; omega)]

theorem exists_int64 {name : String} (h : Conforms (.integer .int64 name) v) :
    ∃ n : Int64, Value.integer n.toInt = v := by
  unfold Conforms at h
  obtain ⟨n, rfl, hn⟩ := h
  obtain ⟨hlow, hhigh⟩ : -9223372036854775808 ≤ n ∧ n ≤ 9223372036854775807 := Width.contains_iff.mp hn
  refine ⟨.ofInt n, ?_⟩
  rw [Int64.toInt_ofInt_of_le (by omega) (by omega)]

theorem exists_boolean (h : Conforms .boolean v) : ∃ b, Value.boolean b = v := by
  unfold Conforms at h
  obtain ⟨b, rfl⟩ := h
  exact ⟨b, rfl⟩

theorem exists_text (h : Conforms .text v) : ∃ s, Value.text s = v := by
  unfold Conforms at h
  obtain ⟨s, rfl⟩ := h
  exact ⟨s, rfl⟩

theorem exists_optional {name : String} (h : Conforms (.optional (.integer .word64 name)) v) :
    ∃ n : Option UInt64, Value.ofOption (fun n => .ofNat n.toNat) n = v := by
  unfold Conforms at h
  rcases h with rfl | h
  · exact ⟨none, rfl⟩
  · obtain ⟨n, rfl⟩ := exists_word64 h
    exact ⟨some n, rfl⟩

theorem conforms_natural {w : Width} (hw : w.low = 0) (name : String) {n : Nat}
    (h : n ≤ w.high) : Conforms (.integer w name) (.ofNat n) := by
  unfold Conforms
  refine ⟨n, rfl, Width.contains_iff.mpr ⟨?_, h⟩⟩
  rw [hw]
  exact Int.natCast_nonneg n

theorem conforms_word64 (name : String) (n : UInt64) :
    Conforms (.integer .word64 name) (.ofNat n.toNat) := by
  have hlt := n.toNat_lt
  refine conforms_natural rfl name ?_
  show (n.toNat : Int) ≤ 18446744073709551615
  omega

theorem conforms_word16 (name : String) (n : UInt16) :
    Conforms (.integer .word16 name) (.ofNat n.toNat) := by
  have hlt := n.toNat_lt
  refine conforms_natural rfl name ?_
  show (n.toNat : Int) ≤ 65535
  omega

theorem conforms_int64 (name : String) (n : Int64) :
    Conforms (.integer .int64 name) (.integer n.toInt) := by
  unfold Conforms
  have hlow := n.le_toInt
  have hlt := n.toInt_lt
  refine ⟨n.toInt, rfl, Width.contains_iff.mpr ⟨hlow, ?_⟩⟩
  show n.toInt ≤ 9223372036854775807
  omega

theorem conforms_optional (name : String) (n : Option UInt64) :
    Conforms (.optional (.integer .word64 name)) (.ofOption (fun n => .ofNat n.toNat) n) := by
  unfold Conforms
  cases n with
  | none => exact .inl rfl
  | some n => exact .inr (conforms_word64 name n)

end Members

end Json

open Json

/-! ## §3. The six types. -/

namespace Gate.Snapshot

def coding : Coding Snapshot := ⟨shape, toValue, ofValue?⟩

theorem lawful : coding.Lawful := by
  constructor
  case sound =>
    simp [coding, shape, Json.Shape.IsSound, Json.SoundFields, Json.Shape.size, Json.Shape.word64,
      Json.Width.IsReadable, Width.word64]
  case conforms =>
    intro s
    exact ⟨_, rfl, _, _, rfl, conforms_word64 _ _, _, _, rfl, conforms_word64 _ _, _, _, rfl,
      conforms_word64 _ _, _, _, rfl, conforms_word64 _ _, _, _, rfl, conforms_word64 _ _, _, _,
      rfl, conforms_word64 _ _, _, _, rfl, conforms_word64 _ _, _, _, rfl, conforms_word64 _ _, rfl⟩
  case ofValue_toValue =>
    intro s
    simp [coding, ofValue?, toValue, Json.Value.member?, Json.Value.asInt?, Json.Value.ofNat,
      List.lookup_cons]
  case exists_toValue =>
    -- member by member, in the order of the shape: each is the document of a field
    intro v h
    obtain ⟨_, rfl, _, _, rfl, h₁, _, _, rfl, h₂, _, _, rfl, h₃, _, _, rfl, h₄, _, _, rfl, h₅,
      _, _, rfl, h₆, _, _, rfl, h₇, _, _, rfl, h₈, rfl⟩ := h
    obtain ⟨limit, rfl⟩ := exists_word64 h₁
    obtain ⟨backlogCapacity, rfl⟩ := exists_word64 h₂
    obtain ⟨inFlight, rfl⟩ := exists_word64 h₃
    obtain ⟨waiting, rfl⟩ := exists_word64 h₄
    obtain ⟨admitted, rfl⟩ := exists_word64 h₅
    obtain ⟨rejectedCapacity, rfl⟩ := exists_word64 h₆
    obtain ⟨rejectedTimeout, rfl⟩ := exists_word64 h₇
    obtain ⟨rejectedCancelled, rfl⟩ := exists_word64 h₈
    exact ⟨⟨limit, backlogCapacity, inFlight, waiting, admitted, rejectedCapacity, rejectedTimeout,
      rejectedCancelled⟩, rfl⟩

end Gate.Snapshot

namespace Config.GateSettings

theorem optionalWord?_of_member {v : Value} {name : String} {n : Option UInt64}
    (h : v.member? name = some (.ofOption (fun n => .ofNat n.toNat) n)) :
    optionalWord? v name = some n := by
  unfold optionalWord?
  rw [h]
  cases n with
  | none => rfl
  | some n => simp [Value.ofOption, Value.ofNat]

def coding : Coding GateSettings := ⟨shape, toValue, ofValue?⟩

theorem lawful : coding.Lawful := by
  constructor
  case sound =>
    simp [coding, shape, Json.Shape.IsSound, Json.SoundFields, Json.Shape.int64, Json.Shape.word64,
      Json.Shape.word16, Json.Shape.isOptional, Json.Width.IsReadable, Width.int64, Width.word64,
      Width.word16]
  case conforms =>
    intro s
    exact ⟨_, rfl, _, _, rfl, conforms_int64 _ _, _, _, rfl, conforms_int64 _ _, _, _, rfl,
      conforms_word64 _ _, _, _, rfl, ⟨_, rfl⟩, _, _, rfl, conforms_word16 _ _, _, _, rfl,
      conforms_optional _ _, _, _, rfl, conforms_optional _ _, rfl⟩
  case ofValue_toValue =>
    intro s
    have hretry : optionalWord? s.toValue "retry_after_secs" = some s.retryAfterSecs :=
      optionalWord?_of_member (by simp [toValue, Value.member?, List.lookup_cons])
    have hcancelled : optionalWord? s.toValue "retry_after_cancelled_secs"
        = some s.retryAfterCancelledSecs :=
      optionalWord?_of_member (by simp [toValue, Value.member?, List.lookup_cons])
    show ofValue? s.toValue = some s
    unfold ofValue?
    simp only [hretry, hcancelled]
    simp [toValue, Value.member?, Value.asInt?, Value.asBool?, Value.ofNat, List.lookup_cons]
  case exists_toValue =>
    intro v h
    obtain ⟨_, rfl, _, _, rfl, h₁, _, _, rfl, h₂, _, _, rfl, h₃, _, _, rfl, h₄, _, _, rfl, h₅,
      _, _, rfl, h₆, _, _, rfl, h₇, rfl⟩ := h
    obtain ⟨limit, rfl⟩ := exists_int64 h₁
    obtain ⟨backlogLimit, rfl⟩ := exists_int64 h₂
    obtain ⟨backlogTimeoutMs, rfl⟩ := exists_word64 h₃
    obtain ⟨unboundedBacklogWait, rfl⟩ := exists_boolean h₄
    obtain ⟨statusCode, rfl⟩ := exists_word16 h₅
    obtain ⟨retryAfterSecs, rfl⟩ := exists_optional h₆
    obtain ⟨retryAfterCancelledSecs, rfl⟩ := exists_optional h₇
    exact ⟨⟨limit, backlogLimit, backlogTimeoutMs, unboundedBacklogWait, statusCode, retryAfterSecs,
      retryAfterCancelledSecs⟩, rfl⟩

end Config.GateSettings

namespace Config.Settings

def coding : Coding Settings := ⟨shape, toValue, ofValue?⟩

theorem lawful : coding.Lawful := by
  have hgate := GateSettings.lawful
  constructor
  case sound =>
    have hsound : GateSettings.shape.IsSound := hgate.sound
    simp [coding, shape, Shape.IsSound, SoundFields, Shape.word64, Shape.word16, Shape.isOptional,
      Width.IsReadable, Width.word64, Width.word16, hsound]
  case conforms =>
    intro s
    exact ⟨_, rfl, _, _, rfl, ⟨_, rfl⟩, _, _, rfl, conforms_word16 _ _, _, _, rfl,
      conforms_optional _ _, _, _, rfl, conforms_word64 _ _, _, _, rfl, ⟨_, rfl⟩, _, _, rfl,
      conforms_word64 _ _, _, _, rfl, ⟨_, rfl⟩, _, _, rfl, hgate.conforms s.gate, rfl⟩
  case ofValue_toValue =>
    intro s
    have htimeout : GateSettings.optionalWord? s.toValue "request_timeout_ms"
        = some s.requestTimeoutMs :=
      GateSettings.optionalWord?_of_member (by simp [toValue, Value.member?, List.lookup_cons])
    have hinner : GateSettings.ofValue? s.gate.toValue = some s.gate :=
      hgate.ofValue_toValue s.gate
    show ofValue? s.toValue = some s
    unfold ofValue?
    simp only [htimeout]
    simp [toValue, Value.member?, Value.asInt?, Value.asBool?, Value.asText?, Value.ofNat,
      List.lookup_cons, hinner]
  case exists_toValue =>
    intro v h
    obtain ⟨_, rfl, _, _, rfl, h₁, _, _, rfl, h₂, _, _, rfl, h₃, _, _, rfl, h₄, _, _, rfl, h₅,
      _, _, rfl, h₆, _, _, rfl, h₇, _, _, rfl, h₈, rfl⟩ := h
    obtain ⟨host, rfl⟩ := exists_text h₁
    obtain ⟨port, rfl⟩ := exists_word16 h₂
    obtain ⟨requestTimeoutMs, rfl⟩ := exists_optional h₃
    obtain ⟨workDelayMs, rfl⟩ := exists_word64 h₄
    obtain ⟨enableMetrics, rfl⟩ := exists_boolean h₅
    obtain ⟨statsIntervalSecs, rfl⟩ := exists_word64 h₆
    obtain ⟨logLevel, rfl⟩ := exists_text h₇
    obtain ⟨gate, rfl⟩ := hgate.exists_toValue _ h₈
    exact ⟨⟨host, port, requestTimeoutMs, workDelayMs, enableMetrics, statsIntervalSecs, logLevel,
      gate⟩, rfl⟩

end Config.Settings

/-- The names of a choice between kinds are those of the kinds, in whatever order. -/
theorem FailureKind.exists_name {names : List String}
    (h : ∀ name ∈ names, ∃ kind ∈ [configuration, network, notFound, serviceUnavailable],
      kind.name = name) {name : String} (hname : name ∈ names) :
    ∃ kind : FailureKind, kind.name = name := by
  obtain ⟨kind, -, hkind⟩ := h name hname
  exact ⟨kind, hkind⟩

namespace Failure

def coding : Coding Failure := ⟨shape, toValue, ofValue?⟩

theorem lawful : coding.Lawful := by
  constructor
  case sound => trivial
  case conforms =>
    intro f
    refine ⟨f.kind.name, ?_, f.detail, rfl⟩
    cases f.kind <;> decide
  case ofValue_toValue => exact ofValue?_toValue
  case exists_toValue =>
    intro v h
    obtain ⟨name, hname, detail, rfl⟩ := h
    obtain ⟨kind, rfl⟩ := FailureKind.exists_name (by decide) hname
    exact ⟨⟨kind, detail⟩, rfl⟩

end Failure

namespace FailureKind

def coding : Coding FailureKind := ⟨shape, toValue, ofValue?⟩

theorem lawful : coding.Lawful := by
  constructor
  case sound => trivial
  case conforms =>
    intro k
    refine ⟨k.name, ?_, rfl⟩
    cases k <;> decide
  case ofValue_toValue => exact ofName?_name
  case exists_toValue =>
    intro v h
    obtain ⟨name, hname, rfl⟩ := h
    obtain ⟨kind, rfl⟩ := exists_name (by decide) hname
    exact ⟨kind, rfl⟩

end FailureKind

namespace FailureReport

def coding : Coding FailureReport := ⟨shape, toValue, ofValue?⟩

theorem lawful : coding.Lawful := by
  have hkind := FailureKind.lawful
  constructor
  case sound =>
    simp [coding, shape, Shape.IsSound, SoundFields, Shape.word64, FailureKind.shape,
      Width.IsReadable, Width.word64]
  case conforms =>
    intro r
    exact ⟨_, rfl, _, _, rfl, hkind.conforms r.code, _, _, rfl, ⟨_, rfl⟩, _, _, rfl,
      conforms_word64 _ _, rfl⟩
  case ofValue_toValue =>
    intro r
    have hcode : FailureKind.ofValue? r.code.toValue = some r.code := hkind.ofValue_toValue r.code
    simp [coding, ofValue?, toValue, Value.member?, Value.asInt?, Value.asText?, Value.ofNat,
      List.lookup_cons, hcode]
  case exists_toValue =>
    intro v h
    obtain ⟨_, rfl, _, _, rfl, h₁, _, _, rfl, h₂, _, _, rfl, h₃, rfl⟩ := h
    obtain ⟨code, rfl⟩ := hkind.exists_toValue _ h₁
    obtain ⟨message, rfl⟩ := exists_text h₂
    obtain ⟨timestamp, rfl⟩ := exists_word64 h₃
    exact ⟨⟨code, message, timestamp⟩, rfl⟩

end FailureReport

/-! ## §4. What the program writes. -/

section Figures

variable {r : Http.Request}

/-- A request for the figures of the gate is answered with them. -/
theorem freeResponse_of_figures (hmethod : r.method = "GET") (hpath : r.path = "/throttle/stats")
    (site : Session.Site) (s : Gate.Snapshot) (m : Option Metrics) :
    (site.visit r).freeResponse s m = (site.visit r).frame.finish (.ofSnapshot s) := by
  have hvisit : site.visit r = ⟨r, .page, ⟨[.sharing], .stats⟩⟩ := by
    refine Http.Router.visit_of_find? _ ?_
    rw [Http.Router.find?_application, hpath]
    rfl
  have hpreflight : (site.visit r).isPreflight = false := by
    rw [hvisit]
    unfold Http.Visit.isPreflight
    rw [show (r.method == "OPTIONS") = false by rw [hmethod]; decide, Bool.false_and]
  have hread : (site.visit r).refusesMethod = false := by
    have hisRead : r.isRead = true := by
      unfold Http.Request.isRead
      rw [hmethod]
      decide
    rw [hvisit]
    show (_ && !r.isRead) = false
    rw [hisRead, Bool.not_true, Bool.and_false]
  unfold Http.Visit.freeResponse
  rw [hpreflight, hread, hvisit]
  rfl

/-- The body of that answer is the document of the figures. -/
theorem render_freeResponse (hmethod : r.method = "GET") (hpath : r.path = "/throttle/stats")
    (site : Session.Site) (s : Gate.Snapshot) (m : Option Metrics) (timestamp : UInt64) :
    ((site.visit r).freeResponse s m).body.render timestamp = Gate.Snapshot.coding.encode s := by
  have hframe : (site.visit r).frame.method = "GET" := hmethod
  rw [freeResponse_of_figures hmethod hpath, Http.Frame.body_finish]
  · rfl
  · rw [hframe]
    decide
  · rw [hframe]
    exact .inl (by decide)

/-- What a session answers to such a request. -/
theorem Session.shown_of_figures (hpath : r.path = "/throttle/stats") {x : Session} {k : Nat}
    {t : Session.Task} {site : Session.Site} {context : Option Context}
    (hk : x.tasks[k]? = some t) (hj : t.job = Session.siteJob site context r) (hn : t.stage ≠ .finished) :
    x.shown (.poll k) = [.response t.name
      ((site.visit r).freeResponse x.scene.gate.snapshot x.scene.metrics)] := by
  have haside : r.path ≠ "/" := by
    rw [hpath]
    decide
  rw [Session.siteJob_of_aside site context (.inl haside)] at hj
  refine Session.shown_of_log ?_
  rw [Session.scene_move_poll hk, Session.poll_free hj hn]
  rfl

end Figures

/-- A log without a file goes to the standard output, in front of what is printed. -/
theorem Program.Invocation.stdout_logged (i : Program.Invocation) (level : String)
    (body : List Log.Record × String × List String × Nat) :
    ∃ told, (i.logged ⟨level, none, none⟩ body).stdout = told ++ body.2.1 := by
  obtain ⟨records, printed, causes, exitCode⟩ := body
  exact ⟨_, rfl⟩

/-- The settings that hold are shown at the end, in their pretty form. -/
theorem Program.Invocation.stdout_showSettings (i : Program.Invocation)
    (a : CommandLine.Arguments) {s : Config.Settings} (h : (i.sources a).load = .ok s) :
    ∃ before, (i.showSettings a).stdout = before ++ s.toValue.pretty ++ "\n" := by
  unfold showSettings
  simp only [h]
  obtain ⟨told, hshown⟩ := i.stdout_logged "info" ((i.sources a).notices.map noticeRecord,
    "📊 最终配置（合并后的配置）:\n" ++ s.toValue.pretty ++ "\n", [], 0)
  refine ⟨told ++ "📊 最终配置（合并后的配置）:\n", hshown.trans ?_⟩
  simp only [String.append_assoc]

/-- **WHAT IS WRITTEN IS READ BACK.** -/
theorem documents_survive :
    (Gate.Snapshot.coding.Faithful ∧ Config.GateSettings.coding.Faithful
      ∧ Config.Settings.coding.Faithful ∧ Failure.coding.Faithful
      ∧ FailureReport.coding.Faithful ∧ FailureKind.coding.Faithful)
    ∧ (∀ (x : Session) (k : Nat) (t : Session.Task) (site : Session.Site)
        (context : Option Context) (r : Http.Request), x.tasks[k]? = some t →
        t.job = Session.siteJob site context r → r.method = "GET" →
        r.path = "/throttle/stats" → t.stage ≠ .finished →
        ∃ answer, x.shown (.poll k) = [.response t.name answer]
          ∧ ∀ timestamp, Gate.Snapshot.coding.decode (answer.body.render timestamp)
            = some x.scene.gate.snapshot)
    ∧ ∀ (i : Program.Invocation) (a : CommandLine.Arguments) (s : Config.Settings),
        (i.sources a).load = .ok s →
        ∃ before shown, (i.showSettings a).stdout = before ++ shown ++ "\n"
          ∧ Config.Settings.coding.decode shown = some s := by
  have hfigures := Gate.Snapshot.lawful.faithful
  have hsettings := Config.Settings.lawful.faithful
  refine ⟨⟨hfigures, Config.GateSettings.lawful.faithful, hsettings, Failure.lawful.faithful,
    FailureReport.lawful.faithful, FailureKind.lawful.faithful⟩, ?_, ?_⟩
  · intro x k t site context r hk hj hmethod hpath hn
    refine ⟨_, Session.shown_of_figures hpath hk hj hn, fun timestamp => ?_⟩
    rw [render_freeResponse hmethod hpath]
    exact hfigures.decode_encode _
  · intro i a s h
    obtain ⟨before, hshown⟩ := i.stdout_showSettings a h
    exact ⟨before, _, hshown, hsettings.decode_pretty s⟩

/-- A host that needs escapes is shown and read, and so are the figures of a gate that is busy. -/
theorem documents_survive_escapes :
    let i : Program.Invocation :=
      { words := ["show-config"], files := {}, network := ⟨[], 1024⟩, time := ""
        environment := ⟨[("THROTTLE_HOST", .text "\"\\\x01é")]⟩ }
    let x := (Session.ofGate (Gate.ofLimits 1 2 .unbounded) .standard ⟨.zero, none⟩ none).run
      [.tell (.acquire "a" none), .poll 0, .tell (.http "s" none ⟨"GET", "/throttle/stats"⟩)]
    (i.sources {}).load = .ok { Config.Settings.standard with host := "\"\\\x01é" }
      ∧ (∃ before shown, (i.showSettings {}).stdout = before ++ shown ++ "\n"
          ∧ Config.Settings.coding.decode shown
            = some { Config.Settings.standard with host := "\"\\\x01é" })
      ∧ ∃ answer, x.shown (.poll 1) = [.response "s" answer]
          ∧ Gate.Snapshot.coding.decode (answer.body.render 0) = some x.scene.gate.snapshot := by
  intro i x
  have hload : (i.sources {}).load
      = .ok { Config.Settings.standard with host := "\"\\\x01é" } :=
    Config.eq_ok_of_toOption (by decide +kernel)
  refine ⟨hload, documents_survive.2.2 i {} _ hload, ?_⟩
  obtain ⟨answer, hshown, hdecode⟩ := documents_survive.2.1 x 1 _ x.site none
    ⟨"GET", "/throttle/stats"⟩ rfl rfl rfl rfl nofun
  exact ⟨answer, hshown, hdecode 0⟩

end Admission
