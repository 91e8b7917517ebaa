/-
  Admission.Proofs.Config.Layering — where each setting comes from.

  A setting has up to four sources: the command line, a variable of the environment, the settings
  file, and the standard value.  The first that says something decides, for each setting on its own.
  `resolved` lists the sources of each setting; a setting without a variable, or without an argument,
  has fewer.

  Main results:
    * `layer_of_read` — what a settings file says, field by field;
    * `layer_unset` — a variable that cannot be read counts as one that is not set;
    * `load_layers` — **where the settings come from, and when there are none**.
-/
import Admission.Program.Run
import Admission.Proofs.Toml.Fields

namespace Admission.Config

open CommandLine (Arguments)
open Program (Invocation)
open Toml (Settles saidUnder)

/-! ## §1. The fields of each section. -/

section Fields

/-- What a value says if it is that of a field with the name given. -/
def saidBy {α : Type} (name : String) (read : Toml.Value → Except Mismatch α)
    (f : Toml.Field Layer) (v : Toml.Value) : Option α :=
  if f.name = name then (read v).toOption else none

variable {f : Toml.Field Layer} {v : Toml.Value} {l l' : Layer}

/-- A field of the section on the server puts its value in its place. -/
theorem put_serverFields (hf : f ∈ serverFields) (h : f.put v l = .ok l') :
    l' = { l with
      host := (saidBy "host" (·.asText) f v).or l.host
      port := (saidBy "port" (·.asWord16) f v).or l.port
      requestTimeoutMs := (saidBy "request_timeout_ms" (·.asWord64) f v).or l.requestTimeoutMs
      workDelayMs := (saidBy "work_delay_ms" (·.asWord64) f v).or l.workDelayMs
      enableMetrics := (saidBy "enable_metrics" (·.asBoolean) f v).or l.enableMetrics
      statsIntervalSecs := (saidBy "stats_interval_secs" (·.asWord64) f v).or l.statsIntervalSecs } := by
  simp only [serverFields, List.mem_cons, List.not_mem_nil, or_false] at hf
  obtain rfl | rfl | rfl | rfl | rfl | rfl := hf <;>
    obtain ⟨a, ha, rfl⟩ := Toml.exists_of_put h <;>
    simp [saidBy, ha, Except.toOption]

/-- A field of the section on the gate puts its value in its place. -/
theorem put_gateFields (hf : f ∈ gateFields) (h : f.put v l = .ok l') :
    l' = { l with
      limit := (saidBy "limit" (·.asInt64) f v).or l.limit
      backlogLimit := (saidBy "backlog_limit" (·.asInt64) f v).or l.backlogLimit
      backlogTimeoutMs := (saidBy "backlog_timeout_ms" (·.asWord64) f v).or l.backlogTimeoutMs
      unboundedBacklogWait :=
        (saidBy "unbounded_backlog_wait" (·.asBoolean) f v).or l.unboundedBacklogWait
      statusCode := (saidBy "status_code" (·.asWord16) f v).or l.statusCode
      retryAfterSecs := (saidBy "retry_after_secs" (·.asWord64) f v).or l.retryAfterSecs
      retryAfterCancelledSecs :=
        (saidBy "retry_after_cancelled_secs" (·.asWord64) f v).or l.retryAfterCancelledSecs } := by
  simp only [gateFields, List.mem_cons, List.not_mem_nil, or_false] at hf
  obtain rfl | rfl | rfl | rfl | rfl | rfl | rfl := hf <;>
    obtain ⟨a, ha, rfl⟩ := Toml.exists_of_put h <;>
    simp [saidBy, ha, Except.toOption]

end Fields

theorem settles_level :
    Settles loggingFields "level" (·.level) (fun v => v.asText.toOption) where
  put := by
    intro f hf v s s' h
    simp only [loggingFields, List.mem_cons, List.not_mem_nil, or_false] at hf
    obtain rfl | rfl | rfl := hf <;>
      obtain ⟨a, ha, rfl⟩ := Toml.exists_of_put h <;>
      simp [ha, Except.toOption]
  known := by decide

/-! ## §2. What a settings file says. -/

/-- The keys of the section on the server, in the order of its fields. -/
def serverKeys : List String :=
  ["host", "port", "request_timeout_ms", "work_delay_ms", "enable_metrics", "stats_interval_secs"]

/-- The keys of the section on the gate, in the order of its fields. -/
def gateKeys : List String :=
  ["limit", "backlog_limit", "backlog_timeout_ms", "unbounded_backlog_wait", "status_code",
    "retry_after_secs", "retry_after_cancelled_secs"]

/-- The keys of the section on logging, in the order of its fields. -/
def loggingKeys : List String := ["level", "format", "file"]

/-- What a document says under a key of a section. -/
def saidIn {α : Type} (title : String) (keys : List String) (key : String)
    (read : Toml.Value → Except Mismatch α) (doc : List (String × Toml.Value)) : Option α :=
  saidUnder title (Toml.Value.saidOf keys key fun v => (read v).toOption) doc

/-- What a document says about each setting. -/
def documentLayer (doc : List (String × Toml.Value)) : Layer :=
  { host := saidIn "server" serverKeys "host" (·.asText) doc
    port := saidIn "server" serverKeys "port" (·.asWord16) doc
    requestTimeoutMs := saidIn "server" serverKeys "request_timeout_ms" (·.asWord64) doc
    workDelayMs := saidIn "server" serverKeys "work_delay_ms" (·.asWord64) doc
    enableMetrics := saidIn "server" serverKeys "enable_metrics" (·.asBoolean) doc
    statsIntervalSecs := saidIn "server" serverKeys "stats_interval_secs" (·.asWord64) doc
    logLevel := saidIn "logging" loggingKeys "level" (·.asText) doc
    limit := saidIn "throttle" gateKeys "limit" (·.asInt64) doc
    backlogLimit := saidIn "throttle" gateKeys "backlog_limit" (·.asInt64) doc
    backlogTimeoutMs := saidIn "throttle" gateKeys "backlog_timeout_ms" (·.asWord64) doc
    unboundedBacklogWait := saidIn "throttle" gateKeys "unbounded_backlog_wait" (·.asBoolean) doc
    statusCode := saidIn "throttle" gateKeys "status_code" (·.asWord16) doc
    retryAfterSecs := saidIn "throttle" gateKeys "retry_after_secs" (·.asWord64) doc
    retryAfterCancelledSecs :=
      saidIn "throttle" gateKeys "retry_after_cancelled_secs" (·.asWord64) doc }

/-- The three sections of a file. -/
theorem put_sections {f : Toml.Field File} (hf : f ∈ File.sections) {v : Toml.Value} {s s' : File}
    (h : f.put v s = .ok s') :
    (f.name = "server" ∧ ∃ l, v.putRecord "TomlServerConfig" serverFields s.layer = .ok l
        ∧ s' = { s with layer := l })
      ∨ (f.name = "throttle" ∧ ∃ l, v.putRecord "TomlThrottleConfig" gateFields s.layer = .ok l
        ∧ s' = { s with layer := l })
      ∨ (f.name = "logging" ∧ ∃ g, putLogging v s.logging = .ok g
        ∧ s' = ⟨{ s.layer with logLevel := g.level }, g⟩) := by
  simp only [File.sections, List.mem_cons, List.not_mem_nil, or_false] at hf
  obtain rfl | rfl | rfl := hf
  · obtain ⟨l, hl, rfl⟩ := Toml.exists_of_put h
    exact .inl ⟨rfl, l, hl, rfl⟩
  · obtain ⟨l, hl, rfl⟩ := Toml.exists_of_put h
    exact .inr (.inl ⟨rfl, l, hl, rfl⟩)
  · obtain ⟨g, hg, rfl⟩ := Toml.exists_of_put h
    exact .inr (.inr ⟨rfl, g, hg, rfl⟩)

section Sections

variable {α : Type} {key : String} {part : Layer → Option α}
  {read : Toml.Value → Except Mismatch α}

/-- A part that the section on the server settles, and no other touches. -/
theorem settles_server
    (hserver : ∀ f ∈ serverFields, ∀ v l l', f.put v l = .ok l' →
      part l' = (saidBy key read f v).or (part l))
    (hgate : ∀ f ∈ gateFields, ∀ v l l', f.put v l = .ok l' → part l' = part l)
    (hlogging : ∀ l level, part { l with logLevel := level } = part l) (hkey : key ∈ serverKeys) :
    Settles File.sections "server" (fun f => part f.layer)
      (Toml.Value.saidOf serverKeys key fun v => (read v).toOption) where
  put := by
    intro f hf v s s' h
    obtain ⟨hname, l, hl, rfl⟩ | ⟨hname, l, hl, rfl⟩ | ⟨hname, g, hg, rfl⟩ := put_sections hf h
    · rw [if_pos hname]
      exact Settles.putRecord ⟨hserver, hkey⟩ (by decide) hl
    · rw [if_neg (by rw [hname]; decide), Option.none_or]
      exact Toml.putRecord_keeps (P := fun l => part l = part s.layer)
        (fun f hf v l l' hp h => (hgate f hf v l l' h).trans hp) rfl hl
    · rw [if_neg (by rw [hname]; decide), Option.none_or]
      exact hlogging s.layer g.level
  known := by decide

/-- A part that the section on the gate settles, and no other touches. -/
theorem settles_gate
    (hgate : ∀ f ∈ gateFields, ∀ v l l', f.put v l = .ok l' →
      part l' = (saidBy key read f v).or (part l))
    (hserver : ∀ f ∈ serverFields, ∀ v l l', f.put v l = .ok l' → part l' = part l)
    (hlogging : ∀ l level, part { l with logLevel := level } = part l) (hkey : key ∈ gateKeys) :
    Settles File.sections "throttle" (fun f => part f.layer)
      (Toml.Value.saidOf gateKeys key fun v => (read v).toOption) where
  put := by
    intro f hf v s s' h
    obtain ⟨hname, l, hl, rfl⟩ | ⟨hname, l, hl, rfl⟩ | ⟨hname, g, hg, rfl⟩ := put_sections hf h
    · rw [if_neg (by rw [hname]; decide), Option.none_or]
      exact Toml.putRecord_keeps (P := fun l => part l = part s.layer)
        (fun f hf v l l' hp h => (hserver f hf v l l' h).trans hp) rfl hl
    · rw [if_pos hname]
      exact Settles.putRecord ⟨hgate, hkey⟩ (by decide) hl
    · rw [if_neg (by rw [hname]; decide), Option.none_or]
      exact hlogging s.layer g.level
  known := by decide

end Sections

/-- The section on logging settles the level. -/
theorem settles_logging :
    Settles File.sections "logging" (fun f => f.logging.level)
      (Toml.Value.saidOf loggingKeys "level" fun v => v.asText.toOption) where
  put := by
    intro f hf v s s' h
    obtain ⟨hname, l, hl, rfl⟩ | ⟨hname, l, hl, rfl⟩ | ⟨hname, g, hg, rfl⟩ := put_sections hf h
    · rw [if_neg (by rw [hname]; decide), Option.none_or]
    · rw [if_neg (by rw [hname]; decide), Option.none_or]
    · rw [if_pos hname]
      exact settles_level.putRecord (by decide) hg
  known := by decide

/-- The layer of a file has the level that its section on logging has. -/
theorem logLevel_putEntries {entries : List (String × Toml.Value)} {f : File}
    (h : Toml.putEntries File.sections entries {} = .ok f) : f.layer.logLevel = f.logging.level := by
  refine Toml.putEntries_keeps (P := fun f => f.layer.logLevel = f.logging.level) ?_ rfl h
  intro f hf v s s' hs hput
  obtain ⟨-, l, hl, rfl⟩ | ⟨-, l, hl, rfl⟩ | ⟨-, g, hg, rfl⟩ := put_sections hf hput
  · refine Eq.trans ?_ hs
    exact Toml.putRecord_keeps (P := fun l => l.logLevel = s.layer.logLevel)
      (fun f hf v l l' hp h => by rw [put_serverFields hf h]; exact hp) rfl hl
  · refine Eq.trans ?_ hs
    exact Toml.putRecord_keeps (P := fun l => l.logLevel = s.layer.logLevel)
      (fun f hf v l l' hp h => by rw [put_gateFields hf h]; exact hp) rfl hl
  · rfl

theorem exists_entries_of_read {text : String} {f : File} (h : File.read text = .ok f) :
    ∃ doc, Toml.read text = some doc ∧ Toml.putEntries File.sections doc {} = .ok f := by
  unfold File.read readAs at h
  split at h
  next => cases h
  next doc hdoc =>
    split at h
    next f' hput =>
      cases h
      exact ⟨doc, hdoc, hput⟩
    next => cases h

/-- **WHAT A SETTINGS FILE SAYS**, field by field. -/
theorem layer_of_read {text : String} {f : File} (h : File.read text = .ok f) :
    ∃ doc, Toml.read text = some doc ∧ f.layer = documentLayer doc := by
  obtain ⟨doc, hdoc, hput⟩ := exists_entries_of_read h
  have settled {α : Type} {name : String} {part : File → Option α}
      {tells : Toml.Value → Option α} (hs : Settles File.sections name part tells)
      (hnone : part {} = none) : part f = saidUnder name tells doc := by
    rw [hs.putEntries hput, hnone, Option.or_none]
  refine ⟨doc, hdoc, Layer.ext ?_ ?_ ?_ ?_ ?_ ?_ ?_ ?_ ?_ ?_ ?_ ?_ ?_ ?_⟩
  case refine_7 => exact (logLevel_putEntries hput).trans (settled settles_logging rfl)
  case refine_1 | refine_2 | refine_3 | refine_4 | refine_5 | refine_6 =>
    exact settled (settles_server (fun f hf v l l' h => by rw [put_serverFields hf h])
      (fun f hf v l l' h => by rw [put_gateFields hf h]) (fun _ _ => rfl) (by decide)) rfl
  all_goals
    exact settled (settles_gate (fun f hf v l l' h => by rw [put_gateFields hf h])
      (fun f hf v l l' h => by rw [put_serverFields hf h]) (fun _ _ => rfl) (by decide)) rfl

/-! ## §3. Where each setting comes from. -/

section Resolution

variable {α : Type}

/-- The first source that says something. -/
def first (sources : List (Option α)) : Option α := sources.findSome? id

theorem first_nil : first ([] : List (Option α)) = none := rfl

theorem first_cons (source : Option α) (rest : List (Option α)) :
    first (source :: rest) = source.or (first rest) := by
  cases source <;> rfl

/-- The level that the command line asks for: quiet and development mode have their own, then comes
the one that was named, then how often more was asked for. -/
def levelAsked (a : Arguments) : Option String :=
  if a.quiet then some "error"
  else if a.development then some "debug"
  else match a.logLevel, a.verbosity.toNat with
    | some level, _ => some level
    | none, 0 => none
    | none, 1 => some "info"
    | none, 2 => some "debug"
    | none, _ => some "trace"

/-- **WHERE EACH SETTING COMES FROM**: the command line, the environment, the document of the
settings file, and what is standard, as far as it has these sources.  Metrics and waiting without end
can be turned on by the command line, but not off. -/
def resolved (a : Arguments) (e : Environment) (doc : List (String × Toml.Value)) : Settings :=
  { host := (first [a.host, e.text? "THROTTLE_HOST",
      saidIn "server" serverKeys "host" (·.asText) doc]).getD "0.0.0.0"
    port := (first [a.port, e.value? "THROTTLE_PORT" word16?,
      saidIn "server" serverKeys "port" (·.asWord16) doc]).getD 8080
    requestTimeoutMs := first [a.requestTimeoutMs, e.value? "THROTTLE_REQUEST_TIMEOUT_MS" word64?,
      saidIn "server" serverKeys "request_timeout_ms" (·.asWord64) doc]
    workDelayMs := (first [a.workDelayMs,
      saidIn "server" serverKeys "work_delay_ms" (·.asWord64) doc]).getD 100
    enableMetrics := (first [if a.enableMetrics then some true else none,
      saidIn "server" serverKeys "enable_metrics" (·.asBoolean) doc]).getD false
    statsIntervalSecs := (first [
      saidIn "server" serverKeys "stats_interval_secs" (·.asWord64) doc]).getD 15
    logLevel := (first [levelAsked a, e.text? "THROTTLE_LOG_LEVEL",
      saidIn "logging" loggingKeys "level" (·.asText) doc]).getD "info"
    gate :=
      { limit := (first [a.limit, e.value? "THROTTLE_LIMIT" int64?,
          saidIn "throttle" gateKeys "limit" (·.asInt64) doc]).getD 64
        backlogLimit := (first [a.backlogLimit, e.value? "THROTTLE_BACKLOG_LIMIT" int64?,
          saidIn "throttle" gateKeys "backlog_limit" (·.asInt64) doc]).getD 128
        backlogTimeoutMs := (first [a.backlogTimeoutMs,
          e.value? "THROTTLE_BACKLOG_TIMEOUT_MS" word64?,
          saidIn "throttle" gateKeys "backlog_timeout_ms" (·.asWord64) doc]).getD 5000
        unboundedBacklogWait := (first [if a.unboundedBacklogWait then some true else none,
          e.value? "THROTTLE_UNBOUNDED_BACKLOG_WAIT" boolean?,
          saidIn "throttle" gateKeys "unbounded_backlog_wait" (·.asBoolean) doc]).getD false
        statusCode := (first [a.statusCode, e.value? "THROTTLE_STATUS_CODE" word16?,
          saidIn "throttle" gateKeys "status_code" (·.asWord16) doc]).getD 429
        retryAfterSecs := first [a.retryAfterSecs, e.value? "THROTTLE_RETRY_AFTER_SECS" word64?,
          saidIn "throttle" gateKeys "retry_after_secs" (·.asWord64) doc]
        retryAfterCancelledSecs := first [a.retryAfterCancelledSecs,
          e.value? "THROTTLE_RETRY_AFTER_CANCELLED_SECS" word64?,
          saidIn "throttle" gateKeys "retry_after_cancelled_secs" (·.asWord64) doc] } }

/-- The level of the command line is the one that it asks for. -/
theorem effectiveLevel_eq (a : Arguments) : a.effectiveLevel = levelAsked a := by
  have hmore : Arguments.levelOfVerbosity a.verbosity = match a.verbosity.toNat with
      | 0 => none
      | 1 => some "info"
      | 2 => some "debug"
      | _ => some "trace" := by
    unfold Arguments.levelOfVerbosity
    simp only [← UInt8.toNat_inj]
    show (if a.verbosity.toNat = 0 then none else if a.verbosity.toNat = 1 then some "info"
      else if a.verbosity.toNat = 2 then some "debug" else some "trace") = _
    -- three or more flags say the same
    rcases a.verbosity.toNat with _ | _ | _ | n <;> simp
  unfold Arguments.effectiveLevel levelAsked
  split
  · rfl
  split
  · rfl
  cases a.logLevel with
  | some level => rfl
  | none =>
    show Arguments.levelOfVerbosity a.verbosity = _
    rw [hmore]
    split <;> simp_all

/-- Laying the sources over each other, one layer after the other, comes to the same. -/
theorem under_eq_resolved (a : Arguments) (e : Environment) (doc : List (String × Toml.Value)) :
    ((Settings.standard.under (documentLayer doc)).under e.layer).under a.layer
      = resolved a e doc := by
  simp only [Settings.under, GateSettings.under, Settings.standard, GateSettings.standard,
    documentLayer, Environment.layer, Arguments.layer, Arguments.ofSwitch, effectiveLevel_eq,
    resolved, first_cons, first_nil, Option.or_none, Option.getD_or, Option.getD_none,
    Option.orElse_eq_orElse, Option.orElse_eq_or]

/-- Without arguments and variables the file alone is laid over what is standard. -/
theorem resolved_of_file (doc : List (String × Toml.Value)) :
    resolved {} {} doc = Settings.standard.under (documentLayer doc) := by
  rw [← under_eq_resolved]
  show ((Settings.standard.under (documentLayer doc)).under {}).under {} = _
  rw [Settings.under_empty, Settings.under_empty]

end Resolution

/-! ## §4. Variables that cannot be read. -/

namespace Environment

/-- The variables that settings are taken from, and which texts of theirs can be read. -/
def sources : List (String × (String → Bool)) :=
  [("THROTTLE_HOST", fun _ => true), ("THROTTLE_LOG_LEVEL", fun _ => true)] ++ readVariables

/-- The environment in which a variable is not set. -/
def unset (e : Environment) (name : String) : Environment :=
  ⟨e.bindings.filter fun p => p.1 ≠ name⟩

theorem lookup_filter_ne (name other : String) :
    ∀ bindings : List (String × Text.Raw),
      (bindings.filter fun p => p.1 ≠ name).lookup other
        = if other = name then none else bindings.lookup other
  | [] => by simp
  | (key, value) :: rest => by
      have ih := lookup_filter_ne name other rest
      by_cases hkey : key = name
      · rw [List.filter_cons_of_neg (by simp [hkey]), ih, List.lookup_cons, hkey]
        split
        · rfl
        next hne => rw [beq_false_of_ne hne]
      · rw [List.filter_cons_of_pos (by simp [hkey]), List.lookup_cons, List.lookup_cons, ih]
        split
        next heq =>
          rw [beq_iff_eq] at heq
          rw [heq, if_neg hkey]
        next => rfl

theorem text?_unset (e : Environment) (name other : String) :
    (e.unset name).text? other = if other = name then none else e.text? other := by
  unfold text? unset
  rw [lookup_filter_ne]
  split <;> rfl

/-- No text that can be read, no value. -/
theorem bind_eq_none_of_any {α : Type} {text : Option String} {read : String → Option α}
    (h : text.any (fun s => (read s).isSome) = false) : text.bind read = none := by
  cases text with
  | none => rfl
  | some s => exact Option.not_isSome_iff_eq_none.mp (by simpa using h)

/-- **A VARIABLE THAT CANNOT BE READ** says what one that is not set says. -/
theorem layer_unset {e : Environment} {name : String} {readable : String → Bool}
    (hmem : (name, readable) ∈ sources) (h : (e.text? name).any readable = false) :
    (e.unset name).layer = e.layer := by
  have htext : (readable = fun _ => true) → e.text? name = none := by
    rintro rfl
    cases htext : e.text? name with
    | none => rfl
    | some s => simp [htext] at h
  simp only [sources, readVariables, List.cons_append, List.nil_append, List.mem_cons,
    List.not_mem_nil, or_false, Prod.mk.injEq] at hmem
  obtain ⟨rfl, rfl⟩ | ⟨rfl, rfl⟩ | ⟨rfl, rfl⟩ | ⟨rfl, rfl⟩ | ⟨rfl, rfl⟩ | ⟨rfl, rfl⟩ | ⟨rfl, rfl⟩ |
    ⟨rfl, rfl⟩ | ⟨rfl, rfl⟩ | ⟨rfl, rfl⟩ | ⟨rfl, rfl⟩ := hmem
  case inl => simp [layer, value?, text?_unset, htext rfl]
  case inr.inl => simp [layer, value?, text?_unset, htext rfl]
  all_goals simp [layer, value?, text?_unset, bind_eq_none_of_any h]

end Environment

/-! ## §5. The settings that hold. -/

/-- The entries of a settings file, if it can be read and is one. -/
def entriesOf (fs : Files) (path : String) : Option (List (String × Toml.Value)) :=
  match fs.readText path with
  | .error _ => none
  | .ok text =>
    match File.read text with
    | .error _ => none
    | .ok _ => Toml.read text

/-- The entries of the settings file that is chosen, if it can be read and is one; without a file
there are none.  The file that was named is chosen if it is there; the usual one if none was named. -/
def documentOf (i : Invocation) (a : Arguments) : Option (List (String × Toml.Value)) :=
  match a.configFile with
  | some path => if i.files.isPresent path then entriesOf i.files path else some []
  | none => if i.files.isPresent "config.toml" then entriesOf i.files "config.toml" else some []

theorem checked_eq_ok_iff {s s' : Settings} :
    s.checked = .ok s' ↔ (¬ ∃ err, s.gate.toOptions = .error err) ∧ s' = s := by
  unfold Settings.checked
  cases h : s.gate.toOptions with
  | error e =>
    constructor
    · nofun
    · rintro ⟨hnot, -⟩
      exact absurd ⟨e, rfl⟩ hnot
  | ok o =>
    constructor
    · intro hs
      exact ⟨nofun, (Except.ok.inj hs).symm⟩
    · rintro ⟨-, rfl⟩
      rfl

theorem checked_eq_error_iff (s : Settings) :
    (∃ err, s.checked = .error err) ↔ ∃ err, s.gate.toOptions = .error err := by
  unfold Settings.checked
  cases h : s.gate.toOptions with
  | error e => exact ⟨fun _ => ⟨e, rfl⟩, fun _ => ⟨_, rfl⟩⟩
  | ok o => exact ⟨nofun, nofun⟩

/-- Of two checks in a row, one fails. -/
theorem exists_bind_error_iff {ε α β : Type} {r : Except ε α} {next : Except ε β} :
    (∃ err, (r.bind fun _ => next) = .error err)
      ↔ (∃ err, r = .error err) ∨ ∃ err, next = .error err := by
  cases r with
  | error err => exact ⟨fun _ => .inl ⟨err, rfl⟩, fun _ => ⟨err, rfl⟩⟩
  | ok a => exact ⟨.inr, fun h => h.resolve_left nofun⟩

theorem ofFile_cases (fs : Files) (path : String) :
    (entriesOf fs path = none ∧ ∃ err, Settings.ofFile fs path = .error err)
      ∨ ∃ doc, entriesOf fs path = some doc
        ∧ Settings.ofFile fs path = (resolved {} {} doc).checked := by
  unfold entriesOf Settings.ofFile
  cases fs.readText path with
  | error fault => exact .inl ⟨rfl, _, rfl⟩
  | ok text =>
    simp only
    unfold Settings.ofText
    cases hread : File.read text with
    | error fault => exact .inl ⟨rfl, _, rfl⟩
    | ok f =>
      obtain ⟨doc, hdoc, hlayer⟩ := layer_of_read hread
      refine .inr ⟨doc, hdoc, ?_⟩
      rw [resolved_of_file, ← hlayer]

theorem documentOf_eq (i : Invocation) (a : Arguments) :
    documentOf i a
      = if i.files.isPresent (a.configFile.getD "config.toml")
        then entriesOf i.files (a.configFile.getD "config.toml") else some [] := by
  unfold documentOf
  cases a.configFile <;> rfl

/-- Below the environment and the command line is the settings file, where it is there. -/
theorem base_eq (i : Invocation) (a : Arguments) :
    (i.sources a).base
      = if i.files.isPresent (a.configFile.getD "config.toml")
        then Settings.ofFile i.files (a.configFile.getD "config.toml") else .ok .standard := by
  show (match if i.files.isPresent (a.configFile.getD "config.toml")
      then some (a.configFile.getD "config.toml") else none with
    | some path => Settings.ofFile i.files path
    | none => .ok .standard) = _
  by_cases hpresent : i.files.isPresent (a.configFile.getD "config.toml")
  · rw [if_pos hpresent, if_pos hpresent]
  · rw [if_neg hpresent, if_neg hpresent]

/-- What is below the environment and the command line. -/
theorem base_cases (i : Invocation) (a : Arguments) :
    (documentOf i a = none ∧ ∃ err, (i.sources a).base = .error err)
      ∨ ∃ doc, documentOf i a = some doc
        ∧ (i.sources a).base = (resolved {} {} doc).checked := by
  rw [documentOf_eq, base_eq]
  split
  · exact ofFile_cases i.files (a.configFile.getD "config.toml")
  · exact .inr ⟨[], rfl, rfl⟩

/-- The settings are checked twice: as the file gives them, and as they come out. -/
theorem load_cases (i : Invocation) (a : Arguments) :
    (documentOf i a = none ∧ ∃ err, (i.sources a).load = .error err)
      ∨ ∃ doc, documentOf i a = some doc
        ∧ (i.sources a).load
          = (resolved {} {} doc).checked.bind fun _ => (resolved a i.environment doc).checked := by
  unfold Sources.load
  obtain ⟨hdoc, err, hbase⟩ | ⟨doc, hdoc, hbase⟩ := base_cases i a
  · rw [hbase]
    exact .inl ⟨hdoc, err, rfl⟩
  · refine .inr ⟨doc, hdoc, ?_⟩
    rw [hbase]
    cases hchecked : (resolved {} {} doc).checked with
    | error err => rfl
    | ok below =>
      obtain ⟨-, rfl⟩ := checked_eq_ok_iff.mp hchecked
      rw [resolved_of_file, ← under_eq_resolved]
      rfl

/-- **WHERE THE SETTINGS COME FROM, AND WHEN THERE ARE NONE.**  Each setting comes from the first of
its sources that says something.  There are no settings if the file that is chosen cannot be read or
is no settings file, if no gate can be built from what the file says, or if none can be built from
the outcome.  A variable that cannot be read changes nothing. -/
theorem load_layers (i : Invocation) (a : Arguments) :
    (∀ s, (i.sources a).load = .ok s →
      ∃ doc, documentOf i a = some doc ∧ s = resolved a i.environment doc)
    ∧ ((∃ err, (i.sources a).load = .error err) ↔
        documentOf i a = none
          ∨ ∃ doc, documentOf i a = some doc
            ∧ ((∃ err, (resolved {} {} doc).gate.toOptions = .error err)
              ∨ ∃ err, (resolved a i.environment doc).gate.toOptions = .error err))
    ∧ ∀ name readable, (name, readable) ∈ Environment.sources →
        (i.environment.text? name).any readable = false →
        (Invocation.sources { i with environment := i.environment.unset name } a).load
          = (i.sources a).load := by
  refine ⟨?_, ?_, ?_⟩
  · intro s hs
    -- what loads has passed both checks, and these change nothing
    obtain ⟨-, err, hload⟩ | ⟨doc, hdoc, hload⟩ := load_cases i a
    · rw [hload] at hs
      cases hs
    · rw [hload] at hs
      cases hchecked : (resolved {} {} doc).checked with
      | error err =>
        rw [hchecked] at hs
        cases hs
      | ok below =>
        rw [hchecked] at hs
        exact ⟨doc, hdoc, (checked_eq_ok_iff.mp hs).2⟩
  · obtain ⟨hnone, hload⟩ | ⟨doc, hdoc, hload⟩ := load_cases i a
    · exact ⟨fun _ => .inl hnone, fun _ => hload⟩
    · rw [hload, hdoc, exists_bind_error_iff, checked_eq_error_iff, checked_eq_error_iff]
      constructor
      · intro h
        exact .inr ⟨doc, rfl, h⟩
      · rintro (hnone | ⟨doc', hdoc', h⟩)
        · cases hnone
        · cases hdoc'
          exact h
  · intro name readable hmem hunread
    -- what cannot be read leaves no trace in the layer of the environment
    show Sources.load { i.sources a with environment := i.environment.unset name } = _
    unfold Sources.load
    rw [show Environment.layer _ = _ from Environment.layer_unset hmem hunread]
    rfl

theorem eq_ok_of_toOption {ε α : Type} {r : Except ε α} {a : α} (h : r.toOption = some a) :
    r = .ok a := by
  cases r with
  | error err => cases h
  | ok b => exact congrArg _ (Option.some.inj h)

/-- A file gives the limit, which a variable that is no number does not change; a variable gives the
port, and the command line the backlog and the level. -/
theorem load_layers_over_a_file :
    let i : Invocation :=
      { words := ["--config-file", "gate.toml", "--backlog-limit", "2", "-q"]
        files := ⟨[(["gate.toml"], .file (.text "[throttle]\nlimit = 8\nbacklog_limit = 4\n"))]⟩
        environment := ⟨[("THROTTLE_PORT", .text "9001"), ("THROTTLE_LIMIT", .text "many")]⟩
        network := ⟨[], 1024⟩
        time := "" }
    let a : Arguments :=
      { configFile := some "gate.toml", backlogLimit := some 2, quiet := true }
    let s : Settings := { Settings.standard with
      port := 9001
      logLevel := "error"
      gate := { GateSettings.standard with limit := 8, backlogLimit := 2 } }
    CommandLine.read i.words = .ok a
      ∧ (i.sources a).load = .ok s
      ∧ (∃ doc, documentOf i a = some doc ∧ s = resolved a i.environment doc)
      ∧ (Invocation.sources { i with environment := i.environment.unset "THROTTLE_LIMIT" } a).load
        = .ok s := by
  intro i a s
  have hload : (i.sources a).load = .ok s := eq_ok_of_toOption (by decide +kernel)
  obtain ⟨hresolved, -, hunread⟩ := load_layers i a
  refine ⟨eq_ok_of_toOption (by decide +kernel), hload, hresolved s hload, ?_⟩
  rw [hunread "THROTTLE_LIMIT" _ (by simp [Environment.sources, Environment.readVariables]; rfl)
    (by decide +kernel), hload]

end Admission.Config
