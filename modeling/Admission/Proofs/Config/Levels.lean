/-
  Admission.Proofs.Config.Levels — at which level a server logs, and which level it tells.

  The level is put together twice.  A log is opened before there are settings: for it the section on
  logging is looked at on its own, with a reader that does not mind the other sections, in a file that
  is read without asking whether it is there.  The settings have a level as well, which the server
  tells and does not use.  Both ways come to the same level of the file; but the log does not look at
  the environment.

  Main results:
    * `glance_of_read` — the section on logging, on its own and in its file;
    * `level_ofFile` — both ways find the same file, and the same level in it;
    * `level_of_load` — **the level of the log, and the level of the settings**;
    * `level_agrees_iff` — **they agree iff the variable of the environment does not decide**.
-/
import Admission.Proofs.Config.Layering

namespace Admission.Config

open CommandLine (Arguments)
open Program (Invocation)

/-! ## §1. The section on logging. -/

/-- A reader of the section on logging follows a reader of all sections. -/
theorem putEntries_logging :
    ∀ {entries : List (String × Toml.Value)} {f f' : File},
      Toml.putEntries File.sections entries f = .ok f' →
      Toml.putEntries [⟨"logging", putLogging⟩] entries f.logging = .ok f'.logging
  | [], f, f', h => by
      cases h
      rfl
  | (key, v) :: rest, f, f', h => by
      unfold Toml.putEntries at h ⊢
      split at h
      next field hfield =>
        obtain ⟨f₁, hput, hrest⟩ := Toml.exists_of_bind_ok h
        have hkey : field.name = key := by simpa using List.find?_some hfield
        have ih := putEntries_logging hrest
        have hother : field.name ≠ "logging" → ("logging" == key) = false := by
          intro hne
          rw [← hkey]
          exact beq_false_of_ne (Ne.symm hne)
        rcases put_sections (List.mem_of_find?_eq_some hfield) hput with
          ⟨hname, l, -, rfl⟩ | ⟨hname, l, -, rfl⟩ | ⟨hname, g, hg, rfl⟩
        · rw [List.find?_cons, hother (by rw [hname]; decide)]
          exact ih
        · rw [List.find?_cons, hother (by rw [hname]; decide)]
          exact ih
        · have hsame : ("logging" == key) = true := by
            rw [← hkey, hname]
            decide
          rw [List.find?_cons, hsame]
          simp only [hg]
          exact ih
      next hnone =>
        -- no section has this key, and so not that on logging
        have hother : ("logging" == key) = false := by
          have hnot := List.find?_eq_none.mp hnone ⟨"logging", _⟩
            (List.mem_cons_of_mem _ (List.mem_cons_of_mem _ List.mem_cons_self))
          simpa using hnot
        rw [List.find?_cons, hother]
        exact putEntries_logging h

/-- **THE SECTION ON LOGGING, ON ITS OWN AND IN ITS FILE.** -/
theorem glance_of_read {text : String} {f : File} (h : File.read text = .ok f) :
    Logging.glance text = f.logging := by
  obtain ⟨doc, hdoc, hput⟩ := exists_entries_of_read h
  have hlogging : Toml.putEntries [⟨"logging", putLogging⟩] doc {} = .ok f.logging :=
    putEntries_logging hput
  unfold Logging.glance readAs
  simp only [hdoc, hlogging]

/-! ## §2. The file. -/

/-- What is not there cannot be read. -/
theorem readText_of_absent {fs : Files} {path : String} (h : fs.isPresent path = false) :
    ∃ fault, fs.readText path = .error fault := by
  unfold Files.isPresent at h
  unfold Files.readText
  split at h
  next => cases h
  next hnot =>
    cases hr : fs.resolve path with
    | error e => exact ⟨e, rfl⟩
    | ok r =>
        obtain ⟨at_, entry⟩ := r
        cases entry with
        | none => exact ⟨_, rfl⟩
        | some entry => exact absurd hr (hnot at_ entry)

/-- **BOTH WAYS FIND THE SAME LEVEL** in the settings file, if there is one or none is needed. -/
theorem level_ofFile {i : Invocation} {a : Arguments} {doc : List (String × Toml.Value)}
    (h : documentOf i a = some doc) :
    (Logging.ofFile i.files a.configFile).level
      = saidIn "logging" loggingKeys "level" (·.asText) doc := by
  rw [documentOf_eq] at h
  unfold Logging.ofFile
  rw [show a.configFile.getD usualPath = a.configFile.getD "config.toml" from rfl]
  generalize a.configFile.getD "config.toml" = path at h ⊢
  by_cases hpresent : i.files.isPresent path = true
  · -- the whole file could be read, and so can its section on logging
    rw [if_pos hpresent] at h
    unfold entriesOf at h
    cases htext : i.files.readText path with
    | error fault =>
        rw [htext] at h
        cases h
    | ok text =>
        rw [htext] at h
        simp only at h ⊢
        cases hread : File.read text with
        | error fault =>
            rw [hread] at h
            cases h
        | ok f =>
            rw [hread] at h
            obtain ⟨entries, hentries, hput⟩ := exists_entries_of_read hread
            obtain ⟨doc', hdoc, hlayer⟩ := layer_of_read hread
            rw [hdoc] at h
            cases h
            rw [glance_of_read hread, ← logLevel_putEntries hput, hlayer]
            rfl
  · -- one way asks whether the file is there, the other one fails to read it
    rw [if_neg hpresent] at h
    cases h
    obtain ⟨fault, hfault⟩ := readText_of_absent (Bool.not_eq_true _ ▸ hpresent)
    rw [hfault]
    rfl

/-! ## §3. The two levels. -/

section Levels

variable {i : Invocation} {a : Arguments} {s : Settings}

/-- **THE LEVEL OF THE LOG, AND THE LEVEL OF THE SETTINGS**: of the log decide the command line, the
settings file and the standard; of the settings the environment as well, after the command line. -/
theorem level_of_load (h : (i.sources a).load = .ok s) :
    ∃ doc, documentOf i a = some doc
      ∧ (i.loggingOf a).level
        = (first [levelAsked a, saidIn "logging" loggingKeys "level" (·.asText) doc]).getD "info"
      ∧ s.logLevel
        = (first [levelAsked a, i.environment.text? "THROTTLE_LOG_LEVEL",
            saidIn "logging" loggingKeys "level" (·.asText) doc]).getD "info" := by
  obtain ⟨-, err, hload⟩ | ⟨doc, hdoc, hload⟩ := load_cases i a
  · rw [hload] at h
    cases h
  · rw [hload] at h
    refine ⟨doc, hdoc, ?_, ?_⟩
    · show (a.effectiveLevel <|> (Logging.ofFile i.files a.configFile).level).getD "info" = _
      rw [level_ofFile hdoc, effectiveLevel_eq, first_cons, first_cons, first_nil, Option.or_none,
        Option.orElse_eq_orElse, Option.orElse_eq_or]
    · cases hbelow : (resolved {} {} doc).checked with
      | error err =>
          rw [hbelow] at h
          cases h
      | ok below =>
          rw [hbelow] at h
          rw [(checked_eq_ok_iff.mp h).2]
          rfl

/-- **THEY AGREE IFF THE VARIABLE OF THE ENVIRONMENT DOES NOT DECIDE**: the command line asks for a
level, or the variable is not set, or it says what the log has anyway. -/
theorem level_agrees_iff (h : (i.sources a).load = .ok s) :
    (i.loggingOf a).level = s.logLevel
      ↔ (levelAsked a).isSome = true
        ∨ ∀ level, i.environment.text? "THROTTLE_LOG_LEVEL" = some level →
          level = (i.loggingOf a).level := by
  obtain ⟨doc, -, hlog, hsettings⟩ := level_of_load h
  rw [first_cons, first_cons, first_nil, Option.or_none] at hlog
  rw [first_cons, first_cons, first_cons, first_nil, Option.or_none] at hsettings
  cases hasked : levelAsked a with
  | some level =>
      rw [hasked] at hlog hsettings
      constructor
      · intro _
        exact .inl rfl
      · intro _
        exact hlog.trans hsettings.symm
  | none =>
      rw [hasked, Option.none_or] at hlog hsettings
      -- no flag says anything, and only the settings listen to the environment
      cases htext : i.environment.text? "THROTTLE_LOG_LEVEL" with
      | none =>
          rw [htext, Option.none_or] at hsettings
          constructor
          · intro _
            exact .inr nofun
          · intro _
            exact hlog.trans hsettings.symm
      | some told =>
          have hvariable : s.logLevel = told := by
            rw [hsettings, htext]
            rfl
          rw [hvariable]
          constructor
          · intro hsame
            refine .inr fun level hlevel => ?_
            cases hlevel
            exact hsame.symm
          · intro hor
            rcases hor with hsome | hall
            · cases hsome
            · exact (hall told rfl).symm

end Levels

/-- A variable asks for errors only: the settings have that level, and the log does not. -/
example :
    let i : Invocation :=
      { words := [], files := {}, network := ⟨[], 1024⟩, time := ""
        environment := ⟨[("THROTTLE_LOG_LEVEL", .text "error")]⟩ }
    (i.sources {}).load.toOption.map (·.logLevel) = some "error"
      ∧ (i.loggingOf {}).level = "info" := by
  decide +kernel

end Admission.Config
