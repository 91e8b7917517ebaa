/-
  Admission.Proofs.Config.Startup — settings that pass their checks make a server.

  Settings are checked when a file is read and once more when all sources are put together; the
  server asks again when it is built, and so does its gate.  No later check is stricter than an
  earlier one.  Checking a file alone and loading from it alone come to the same.

  Main results:
    * `exists_server` — settings with options make a server, and it honours them;
    * `load_of_file` — loading from a file alone is reading the file;
    * `validated_settings_start` — **checked settings start**.
-/
import Admission.Proofs.Config.Bounds
import Admission.Proofs.Config.Layering

namespace Admission.Config

open CommandLine (Arguments)
open Program (Invocation)
open Program.Invocation (lamented summary unlines)

/-! ## §1. Checked settings have options. -/

/-- A gate can be built from the settings. -/
def Settings.Vetted (s : Settings) : Prop := ∃ o, s.gate.toOptions = .ok o

theorem checked_of_vetted {s : Settings} (h : s.Vetted) : s.checked = .ok s := by
  obtain ⟨o, ho⟩ := h
  unfold Settings.checked
  rw [ho]

theorem vetted_of_checked {s s' : Settings} (h : s'.checked = .ok s) : s.Vetted := by
  obtain ⟨hnot, rfl⟩ := checked_eq_ok_iff.mp h
  cases ho : s.gate.toOptions with
  | error err => exact absurd ⟨err, ho⟩ hnot
  | ok o => exact ⟨o, ho⟩

theorem vetted_of_ofText {text : String} {s : Settings} (h : Settings.ofText text = .ok s) :
    s.Vetted := by
  unfold Settings.ofText at h
  split at h
  next => cases h
  next => exact vetted_of_checked h

theorem vetted_of_ofFile {fs : Files} {path : String} {s : Settings}
    (h : Settings.ofFile fs path = .ok s) : s.Vetted := by
  unfold Settings.ofFile at h
  split at h
  next => cases h
  next => exact vetted_of_ofText h

theorem vetted_of_load {sources : Sources} {s : Settings} (h : sources.load = .ok s) :
    s.Vetted := by
  unfold Sources.load at h
  split at h
  next => cases h
  next => exact vetted_of_checked h

/-! ## §2. The server. -/

/-- **THE SERVER HONOURS THE SETTINGS**: its gate is new and has the limits and the wait that they
give. -/
structure Honours (server : Server) (s : Settings) : Prop where
  limit : (server.gate.limit : Int) = s.gate.limit.toInt
  capacity : (server.gate.capacity : Int) = s.gate.limit.toInt + s.gate.backlogLimit.toInt
  unbounded : server.gate.wait = .unbounded ↔ s.gate.unboundedBacklogWait = true
  upTo : s.gate.unboundedBacklogWait = false →
    server.gate.wait = .upTo (.ofMillis s.gate.backlogTimeoutMs.toNat)
  fresh : server.gate = .ofLimits server.gate.limit server.gate.capacity server.gate.wait

/-- Settings with options make a server. -/
theorem exists_server {s : Settings} (h : s.Vetted) :
    ∃ server, Server.ofSettings s = .ok server ∧ Honours server s := by
  obtain ⟨o, ho⟩ := h
  -- settings that were vetted make options, and these are accepted by the gate
  have hterms := GateSettings.terms_of_toOptions ho
  obtain ⟨g, hg⟩ := Gate.exists_ofOptions hterms.valid
  have hgate := Gate.World.eq_of_ofOptions hg
  have hwait : g.wait = s.gate.wait := by rw [hgate, ← hterms.wait]; rfl
  have hserver : Server.ofSettings s
      = .ok { gate := g, policy := .ofOptions o, site := ⟨s.workDelay, s.requestTimeout⟩
              bindAddress := s.bindAddress
              statsInterval := .ofSecs (max s.statsIntervalSecs.toNat 1) } := by
    unfold Server.ofSettings Server.throttleOf
    simp only [ho, hg]
  refine ⟨_, hserver, ?_, ?_, ?_, ?_, ?_⟩
  · show (g.limit : Int) = _
    rw [← hterms.limit, hgate]
    rfl
  · show (g.capacity : Int) = _
    rw [← hterms.limit, ← hterms.backlogLimit, hgate]
    exact Int.natCast_add _ _
  · show g.wait = .unbounded ↔ _
    rw [hwait]
    unfold GateSettings.wait
    cases s.gate.unboundedBacklogWait <;> simp
  · intro hbounded
    show g.wait = _
    rw [hwait]
    unfold GateSettings.wait
    rw [hbounded]
    rfl
  · show g = .ofLimits g.limit g.capacity g.wait
    rw [hgate]
    rfl

/-- The program comes to listening: nothing is said about a server that could not be made, and it
ends well exactly if it can listen. -/
structure ComesToListen (i : Invocation) (s : Settings) : Prop where
  unlamented : ∀ message, lamented 85 message ∉ (i.serverRecords s).1
  exitCode : (i.serverRecords s).2 = 0 ↔ i.network.listen s.host s.port.toNat = .ok ()

theorem comesToListen {s : Settings} {server : Server} (h : Server.ofSettings s = .ok server)
    (i : Invocation) : ComesToListen i s := by
  -- no record has the line of that failure, whatever the network answers
  have hlines : 85 ∉ (i.serverRecords s).1.map (·.line) := by
    unfold Invocation.serverRecords
    simp only [h]
    split
    · exact List.count_eq_zero.mp rfl
    · exact List.count_eq_zero.mp rfl
  constructor
  · intro message hm
    exact hlines (List.mem_map_of_mem hm)
  · unfold Invocation.serverRecords
    simp only [h]
    cases i.network.listen s.host s.port.toNat with
    | error fault => exact ⟨nofun, nofun⟩
    | ok u => exact ⟨fun _ => rfl, fun _ => rfl⟩

/-! ## §3. A file alone. -/

/-- Without variables the environment says nothing. -/
theorem layer_of_no_variables {e : Environment}
    (h : ∀ name readable, (name, readable) ∈ Environment.sources → e.text? name = none) :
    e.layer = {} := by
  have hnone : ∀ name ∈ Environment.sources.map Prod.fst, e.text? name = none := by
    intro name hname
    obtain ⟨⟨name, readable⟩, hmem, rfl⟩ := List.mem_map.mp hname
    exact h name readable hmem
  unfold Environment.layer Environment.value?
  simp only [Environment.sources, Environment.readVariables, List.cons_append, List.nil_append,
    List.map_cons, List.map_nil, List.forall_mem_cons] at hnone
  simp only [hnone, Option.bind_none]

/-- **LOADING FROM A FILE ALONE IS READING THE FILE.** -/
theorem load_of_file {i : Invocation} {path : String} (hpresent : i.files.isPresent path = true)
    (henv : i.environment.layer = {}) :
    (i.sources { configFile := some path }).load = Settings.ofFile i.files path := by
  have hbase : (i.sources { configFile := some path }).base = Settings.ofFile i.files path := by
    rw [base_eq]
    exact if_pos hpresent
  have henv' : (i.sources { configFile := some path }).environment.layer = {} := henv
  have hargs : (i.sources { configFile := some path }).arguments = {} := rfl
  unfold Sources.load
  rw [hbase, henv', hargs]
  cases hfile : Settings.ofFile i.files path with
  | error err => rfl
  | ok s =>
    simp only
    rw [Settings.under_empty, Settings.under_empty]
    exact checked_of_vetted (vetted_of_ofFile hfile)

/-- A file is valid exactly if it can be read. -/
theorem validate_exitCode (i : Invocation) (path : String) :
    (i.validate path).exitCode = 0 ↔ ∃ s, Settings.ofFile i.files path = .ok s := by
  unfold Invocation.validate
  cases Settings.ofFile i.files path with
  | error err => exact ⟨nofun, nofun⟩
  | ok s => exact ⟨fun _ => ⟨s, rfl⟩, fun _ => rfl⟩

/-! ## §4. The law. -/

/-- **CHECKED SETTINGS START.**  Whatever settings a text gives, or all sources together, make a
server that honours them, and the program comes to listen.  A file that is there is valid exactly if
settings can be loaded from it alone, and they are the same. -/
theorem validated_settings_start :
    (∀ s : Settings,
      ((∃ text, Settings.ofText text = .ok s) ∨ ∃ sources : Sources, sources.load = .ok s) →
      (∃ server, Server.ofSettings s = .ok server ∧ Honours server s)
        ∧ ∀ i : Invocation, ComesToListen i s)
    ∧ ∀ (i : Invocation) (path : String), i.files.isPresent path = true →
        (∀ name readable, (name, readable) ∈ Environment.sources →
          i.environment.text? name = none) →
        ((i.validate path).exitCode = 0
            ↔ ∃ s, (i.sources { configFile := some path }).load = .ok s)
          ∧ ∀ s, (i.sources { configFile := some path }).load = .ok s →
              Settings.ofFile i.files path = .ok s
              ∧ i.validate path = .done i.files
                  (unlines (["✅ 配置文件有效: " ++ path, "📊 配置摘要:"] ++ summary s)) := by
  refine ⟨?_, ?_⟩
  · intro s hs
    have hvetted : s.Vetted := by
      rcases hs with ⟨text, htext⟩ | ⟨sources, hload⟩
      · exact vetted_of_ofText htext
      · exact vetted_of_load hload
    obtain ⟨server, hserver, hhonours⟩ := exists_server hvetted
    exact ⟨⟨server, hserver, hhonours⟩, comesToListen hserver⟩
  · intro i path hpresent hunset
    rw [load_of_file hpresent (layer_of_no_variables hunset)]
    refine ⟨validate_exitCode i path, ?_⟩
    intro s hfile
    refine ⟨hfile, ?_⟩
    unfold Invocation.validate
    rw [hfile]

/-- A text at the edge: one request may run, no other may wait, and a wait of no time at all. -/
theorem validated_settings_start_at_the_edge :
    let text := "[throttle]\nlimit = 1\nbacklog_limit = 0\nbacklog_timeout_ms = 0\n"
    let i : Invocation :=
      { words := ["validate-config", "gate.toml"]
        files := ⟨[(["gate.toml"], .file (.text text))]⟩
        environment := {}
        network := ⟨[], 1024⟩
        time := "" }
    let s : Settings := { Settings.standard with
      gate := { GateSettings.standard with limit := 1, backlogLimit := 0, backlogTimeoutMs := 0 } }
    Settings.ofText text = .ok s
      ∧ (∃ server, Server.ofSettings s = .ok server ∧ Honours server s)
      ∧ (i.sources { configFile := some "gate.toml" }).load = .ok s
      ∧ (i.validate "gate.toml").exitCode = 0 := by
  intro text i s
  have htext : Settings.ofText text = .ok s := eq_ok_of_toOption (by decide +kernel)
  have hload : (i.sources { configFile := some "gate.toml" }).load = .ok s :=
    eq_ok_of_toOption (by decide +kernel)
  obtain ⟨hstart, hfile⟩ := validated_settings_start
  have hvalid := hfile i "gate.toml" (by decide +kernel) (fun _ _ _ => rfl)
  exact ⟨htext, (hstart s (.inl ⟨text, htext⟩)).1, hload, hvalid.1.mpr ⟨s, hload⟩⟩

end Admission.Config
