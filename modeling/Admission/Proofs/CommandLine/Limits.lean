/-
  Admission.Proofs.CommandLine.Limits — limits that are given on the command line.

  The limit and the backlog are signed numbers, and a negative one begins like a parameter.  Either is
  taken for what it is, however it is written and whichever comes first, and nothing is said about it
  before all settings are put together.  Only there the numbers are judged: the limit, then the
  backlog, then their sum.

  Main results:
    * `accepts_of_writes`, `readInt64_of_writes` — a text that writes a number is taken for a value,
      and read as that number;
    * `read_limits` — **both numbers are read as they are, in either order**;
    * `load_of_arguments` — settings from the command line alone;
    * `limits_given_unchanged` — **limits reach the settings unchanged, or are refused by name**.
-/
import Admission.Proofs.CommandLine.Settings
import Admission.Proofs.Config.Limits
import Admission.Proofs.Config.Startup
import Admission.Proofs.Numeral

namespace Admission.CommandLine

open Config (Environment GateSettings LoadError Settings base_eq layer_of_no_variables usualPath)
open Numeral (Writes)
open Program (Invocation)

/-! ## §1. Signed numbers as values. -/

/-- What is left of a number behind its minus looks like one. -/
theorem looksNumeric_of_digits {ds : List Char} (h : ∀ c ∈ ds, c.isDigit = true)
    (first point exponent : Bool) : looksNumeric first point exponent ds = true := by
  induction ds generalizing first with
  | nil => rfl
  | cons c ds ih =>
      unfold looksNumeric
      rw [if_pos (h c List.mem_cons_self)]
      exact ih (fun d hd => h d (List.mem_cons_of_mem c hd)) false

/-- **A TEXT THAT WRITES A NUMBER IS TAKEN FOR A VALUE**, also behind a minus. -/
theorem accepts_of_writes {p : Parameter} (hp : p.allowsNegative = true) {w : String} {n : Int}
    (h : Writes w n) : p.Accepts w := by
  unfold Parameter.Accepts
  cases h with
  | bare ds digits text =>
      obtain ⟨c, r, rfl, -, hc⟩ := digits.exists_cons
      rw [ofString_plain text hc]
      trivial
  | plus ds digits text =>
      rw [ofString_plain text (by decide)]
      trivial
  | minus ds digits text =>
      obtain ⟨c, r, rfl, -, hc⟩ := digits.exists_cons
      rw [ofString_short text hc]
      exact ⟨hp, looksNumeric_of_digits digits.2 true false false⟩

/-- **A TEXT THAT WRITES A NUMBER IS READ AS THAT NUMBER**, over the whole range. -/
theorem readInt64_of_writes {w : String} {n : Int64} (h : Writes w n.toInt) :
    readInt64 w = .ok n := by
  have hfits : Width.int64.contains n.toInt = true := by
    have hlow := n.le_toInt
    have hhigh := n.toInt_lt
    unfold Width.contains Width.int64
    simp only [Bool.and_eq_true, decide_eq_true_eq]
    omega
  unfold readInt64
  rw [Numeral.read_of_writes ⟨by decide, by decide⟩ h hfits]
  exact congrArg Except.ok n.ofInt_toInt

/-- The parameter takes a signed number under this name, and puts it in its place. -/
structure TakesSigned (p : Parameter) (name : String) (put : Int64 → Arguments → Arguments) :
    Prop where
  mem : p ∈ Parameter.all
  long : p.long = some name
  effect : p.effect = .value "NUM" true fun s a => (readInt64 s).map fun n => put n a

/-- The table has such a parameter for the limit, -/
theorem exists_limit : ∃ p, TakesSigned p "limit" fun n a => { a with limit := some n } := by
  have hfind : Parameter.all.find? (fun p => p.long == some "limit") = some _ := rfl
  exact ⟨_, List.mem_of_find?_eq_some hfind, rfl, rfl⟩

/-- and one for the backlog. -/
theorem exists_backlogLimit :
    ∃ p, TakesSigned p "backlog-limit" fun n a => { a with backlogLimit := some n } := by
  have hfind : Parameter.all.find? (fun p => p.long == some "backlog-limit") = some _ := rfl
  exact ⟨_, List.mem_of_find?_eq_some hfind, rfl, rfl⟩

namespace TakesSigned

variable {p : Parameter} {name : String} {put : Int64 → Arguments → Arguments}

theorem display (h : TakesSigned p name put) :
    p.display = "--" ++ name ++ " <" ++ "NUM" ++ ">" := by
  unfold Parameter.display
  rw [h.long, h.effect]

/-- The parameter with a text for its number. -/
def setting (h : TakesSigned p name put) {w : String} {n : Int} (hw : Writes w n) : Setting where
  parameter := p
  name := name
  value := w
  mem := h.mem
  long := h.long
  takesValue := by rw [Parameter.takesValue, h.effect]
  accepts := accepts_of_writes (by rw [Parameter.allowsNegative, h.effect]) hw

/-- The number is put in its place. -/
theorem apply_setting (h : TakesSigned p name put) {w : String} {n : Int64}
    (hw : Writes w n.toInt) (a : Arguments) : (h.setting hw).apply a = .ok (put n a) := by
  show p.set w a = _
  unfold Parameter.set
  rw [h.effect]
  show (readInt64 w).map _ = _
  rw [readInt64_of_writes hw]
  rfl

end TakesSigned

/-- Two settings, the one that comes first and the other one. -/
theorem read_two (s t : Setting) (hne : s.parameter.display ≠ t.parameter.display)
    {a a' : Arguments} (hs : s.apply {} = .ok a) (ht : t.apply a = .ok a') :
    read (s.words ++ t.words) = .ok a' := by
  have hnodup : ([s, t].map (·.parameter.display)).Nodup :=
    List.nodup_cons.mpr ⟨by simpa using hne, List.nodup_singleton _⟩
  have hall : [s, t].foldlM (fun a s => s.apply a) {} = .ok a' := by
    show (s.apply {} >>= fun a => t.apply a >>= pure) = _
    rw [hs]
    show (t.apply a >>= pure) = _
    rw [ht]
    rfl
  have hread := read_settings hnodup hall
  rwa [List.flatMap_cons, List.flatMap_singleton] at hread

/-- **BOTH NUMBERS ARE READ AS THEY ARE**, in either order. -/
theorem read_limits {l b : Int64} {limitText backlogText : String} (hl : Writes limitText l.toInt)
    (hb : Writes backlogText b.toInt) {words : List String}
    (h : words = ["--limit", limitText, "--backlog-limit", backlogText]
      ∨ words = ["--backlog-limit", backlogText, "--limit", limitText]) :
    read words = .ok { limit := some l, backlogLimit := some b } := by
  obtain ⟨p, hp⟩ := exists_limit
  obtain ⟨q, hq⟩ := exists_backlogLimit
  have hne : p.display ≠ q.display := by
    rw [hp.display, hq.display]
    decide +kernel
  rcases h with rfl | rfl
  · exact read_two (hp.setting hl) (hq.setting hb) hne
      (hp.apply_setting hl _) (hq.apply_setting hb _)
  · exact read_two (hq.setting hb) (hp.setting hl) hne.symm
      (hq.apply_setting hb _) (hp.apply_setting hl _)

/-! ## §2. Settings from the command line alone. -/

/-- Nothing else says anything about the settings: there is no settings file in the usual place, and
no variable is set that settings are taken from. -/
structure Alone (i : Invocation) : Prop where
  file : i.files.isPresent usualPath = false
  environment : ∀ name readable, (name, readable) ∈ Environment.sources →
    i.environment.text? name = none

/-- **SETTINGS FROM THE COMMAND LINE ALONE** are what is standard with the command line over it. -/
theorem load_of_arguments {i : Invocation} (h : Alone i) {a : Arguments}
    (hnamed : a.configFile = none) :
    (i.sources a).load = (Settings.standard.under a.layer).checked := by
  have hbase : (i.sources a).base = .ok .standard := by
    rw [base_eq, hnamed]
    exact if_neg (Bool.eq_false_iff.mp h.file)
  have henv : (i.sources a).environment.layer = {} := layer_of_no_variables h.environment
  unfold Config.Sources.load
  rw [hbase, henv]
  show ((Settings.standard.under {}).under a.layer).checked = _
  rw [Settings.under_empty]

/-- Where the status is sound, the limits alone decide. -/
theorem checked_of_status {s : Settings} {status : Status} (h : s.gate.status? = some status) :
    s.checked = match limitFault? s.gate.limit.toInt s.gate.backlogLimit.toInt with
      | none => .ok s
      | some e => .error (.invalid e) := by
  unfold Settings.checked
  rw [GateSettings.toOptions_eq, h]
  cases limitFault? s.gate.limit.toInt s.gate.backlogLimit.toInt with
  | none => rfl
  | some e => rfl

/-- The standard settings with these limits. -/
def standardWith (l b : Int64) : Settings :=
  { Settings.standard with gate := { GateSettings.standard with limit := l, backlogLimit := b } }

/-- What the settings come to where the limits are all that is said. -/
theorem load_of_limits {i : Invocation} (h : Alone i) (l b : Int64) :
    (i.sources { limit := some l, backlogLimit := some b }).load
      = match limitFault? l.toInt b.toInt with
        | none => .ok (standardWith l b)
        | some e => .error (.invalid e) := by
  have hstatus : (standardWith l b).gate.status? = some .tooManyRequests := rfl
  rw [load_of_arguments h rfl]
  exact checked_of_status hstatus

/-! ## §3. What is said about limits. -/

/-- The words for a fault of the limits: the limit is named first, then the backlog, and their sum
last. -/
def complaint (limit backlogLimit : Int) : String :=
  if limit ≤ 0 then "limit must be greater than 0, got " ++ Numeral.render limit
  else if backlogLimit < 0 then
    "backlog_limit must not be negative, got " ++ Numeral.render backlogLimit
  else "limit + backlog_limit must not exceed 2305843009213693951"

theorem detail_of_limitFault? {limit backlogLimit : Int} {e : OptionsError}
    (h : limitFault? limit backlogLimit = some e) : e.detail = complaint limit backlogLimit := by
  rw [eq_of_limitFault? h]
  unfold complaint
  -- the checks and the words for them stand in one order
  split
  next => rw [Numeral.render_eq_toString]; rfl
  split
  next => rw [Numeral.render_eq_toString]; rfl
  next => decide +kernel

/-! ## §4. The law. -/

/-- **LIMITS REACH THE SETTINGS UNCHANGED, OR ARE REFUSED BY NAME.**  Two signed numbers that are
given on the command line, in whatever decimal writing and in either order, are what it says, and
nothing else.  Alone they make settings iff somebody may run, the backlog is not negative, and one
pool can hold all; the settings have these limits and are standard otherwise.  If there are no
settings, then because of the first of the three checks that fails, and the cause names the number. -/
theorem limits_given_unchanged (l b : Int64) {limitText backlogText : String}
    (hl : Writes limitText l.toInt) (hb : Writes backlogText b.toInt) (i : Invocation)
    (hwords : i.words = ["--limit", limitText, "--backlog-limit", backlogText]
      ∨ i.words = ["--backlog-limit", backlogText, "--limit", limitText]) :
    ∃ a : Arguments, read i.words = .ok a ∧ a = { limit := some l, backlogLimit := some b }
      ∧ (Alone i →
          ((∃ s, (i.sources a).load = .ok s) ↔
            1 ≤ l.toInt ∧ 0 ≤ b.toInt ∧ l.toInt + b.toInt ≤ 2 ^ 61 - 1)
          ∧ (∀ s, (i.sources a).load = .ok s → s = standardWith l b)
          ∧ ∀ e, (i.sources a).load = .error e →
              (e = .invalid (if l.toInt ≤ 0 then .limitNotPositive l.toInt
                else if b.toInt < 0 then .backlogNegative b.toInt
                else .sumTooLarge))
              ∧ e.causes = ["限流配置无效",
                  "invalid throttle configuration: " ++ complaint l.toInt b.toInt]) := by
  refine ⟨_, read_limits hl hb hwords, rfl, fun halone => ?_⟩
  -- with nothing else said, the verdict on the exact numbers is the whole answer
  rw [load_of_limits halone, ← limitFault?_eq_none_iff]
  cases hfault : limitFault? l.toInt b.toInt with
  | none =>
      refine ⟨⟨fun _ => rfl, fun _ => ⟨_, rfl⟩⟩, ?_, nofun⟩
      intro s hs
      exact (Except.ok.inj hs).symm
  | some e =>
      refine ⟨⟨nofun, nofun⟩, nofun, ?_⟩
      intro e' he'
      cases he'
      refine ⟨congrArg LoadError.invalid (eq_of_limitFault? hfault), ?_⟩
      show ["限流配置无效", "invalid throttle configuration: " ++ e.detail] = _
      rw [detail_of_limitFault? hfault]

/-- The lowest number that there is for a backlog, in front of a limit with a plus and zeros; and all
permits of a pool for a limit, with a zero behind a minus for a backlog. -/
theorem limits_given_unchanged_at_the_ends :
    let i (words : List String) : Invocation :=
      { words, files := {}, environment := {}, network := ⟨[], 1024⟩, time := "" }
    let low := i ["--backlog-limit", "-9223372036854775808", "--limit", "+007"]
    let high := i ["--limit", "2305843009213693951", "--backlog-limit", "-0"]
    (∃ a, read low.words = .ok a
        ∧ a = { limit := some 7, backlogLimit := some (-9223372036854775808) }
        ∧ (¬∃ s, (low.sources a).load = .ok s)
        ∧ ∀ e, (low.sources a).load = .error e →
            e.causes = ["限流配置无效", "invalid throttle configuration: " ++
              "backlog_limit must not be negative, got -9223372036854775808"])
      ∧ ∃ a, read high.words = .ok a
        ∧ a = { limit := some 2305843009213693951, backlogLimit := some 0 }
        ∧ ∃ s, (high.sources a).load = .ok s := by
  intro i low high
  have halone (words : List String) : Alone (i words) :=
    ⟨show Files.isPresent {} usualPath = false by decide +kernel, fun _ _ _ => rfl⟩
  have hlowest : Writes "-9223372036854775808" (-9223372036854775808 : Int64).toInt := by
    have hshown : Numeral.render (-9223372036854775808 : Int64).toInt = "-9223372036854775808" := by
      decide +kernel
    exact hshown ▸ Numeral.writes_render _
  have hseven : Writes "+007" (7 : Int64).toInt :=
    .plus ['0', '0', '7'] ⟨by decide, by simp⟩ rfl
  have hall : Writes "2305843009213693951" (2305843009213693951 : Int64).toInt :=
    Numeral.writes_render 2305843009213693951
  have hzero : Writes "-0" (0 : Int64).toInt := .minus ['0'] ⟨by decide, by simp⟩ rfl
  constructor
  · obtain ⟨a, hread, ha, hload⟩ :=
      limits_given_unchanged 7 (-9223372036854775808) hseven hlowest low (.inr rfl)
    obtain ⟨hsome, -, hcauses⟩ := hload (halone _)
    refine ⟨a, hread, ha, ?_, fun e he => (hcauses e he).2.trans (by decide +kernel)⟩
    rw [hsome]
    decide +kernel
  · obtain ⟨a, hread, ha, hload⟩ :=
      limits_given_unchanged 2305843009213693951 0 hall hzero high (.inl rfl)
    exact ⟨a, hread, ha, (hload (halone _)).1.mpr (by decide +kernel)⟩

end Admission.CommandLine
