/-
  Admission.Proofs.CommandLine.Settings — parameters followed by their values.

  A setting is a parameter of the table with a word for its value behind it.  While words are read, the
  last parameter is pending: its value is only looked at when the next parameter takes effect or the
  words end.  So what carries over from one setting to the next is what the reading WOULD be if the
  pending parameter took effect now.

  Main results:
    * `scan_setting` — one setting: the pending parameter takes effect, and its own becomes pending;
    * `scan_settings` — any number of settings, in front of any other words;
    * `read_settings` — **a command line of settings says what its values say, one after the other**.
-/
import Admission.CommandLine.Read
import Mathlib.Data.List.Nodup
import Mathlib.Data.List.TakeWhile

namespace Admission.CommandLine

/-! ## §1. The table of parameters, and words. -/

theorem nodup_long : (Parameter.all.map (·.long)).Nodup := by decide +kernel

/-- A long name is not empty, and cannot be taken for a name with a value attached. -/
theorem plain_of_long :
    ∀ p ∈ Parameter.all, ∀ name ∈ p.long, name.toList ≠ [] ∧ '=' ∉ name.toList := by
  decide +kernel

/-- A parameter of the table is found by its long name. -/
theorem find?_of_long {p : Parameter} (hp : p ∈ Parameter.all) {name : String}
    (hlong : p.long = some name) :
    Parameter.all.find? (fun q => q.long == some name) = some p := by
  cases hfind : Parameter.all.find? (fun q => q.long == some name) with
  | none => exact absurd hlong (by simpa using List.find?_eq_none.mp hfind p hp)
  | some q =>
      have hname : q.long = some name := by simpa using List.find?_some hfind
      rw [List.inj_on_of_nodup_map nodup_long (List.mem_of_find?_eq_some hfind) hp
        (hname.trans hlong.symm)]

/-- No command is named like a parameter. -/
theorem contains_commands (name : String) :
    mainGrammar.commands.contains ("--" ++ name) = false := by
  have hcommands : ∀ c ∈ mainGrammar.commands, c.toList.head? ≠ some '-' := by decide +kernel
  rw [List.contains_eq_mem, decide_eq_false_iff_not]
  intro hmem
  refine hcommands _ hmem ?_
  rw [String.toList_append]
  rfl

/-- A word that names a parameter by its long name, -/
theorem ofString_long {name : String} (h : name.toList ≠ []) :
    Word.ofString ("--" ++ name) = .long name.toList := by
  obtain ⟨c, cs, hcs⟩ := List.exists_cons_of_ne_nil h
  unfold Word.ofString
  rw [String.toList_append, hcs]
  rfl

/-- a word without a minus in front, -/
theorem ofString_plain {w : String} {c : Char} {cs : List Char} (hw : w.toList = c :: cs)
    (hc : c ≠ '-') : Word.ofString w = .plain := by
  unfold Word.ofString
  rw [hw]
  split <;> simp_all

/-- and a word with a single minus in front. -/
theorem ofString_short {w : String} {c : Char} {cs : List Char} (hw : w.toList = '-' :: c :: cs)
    (hc : c ≠ '-') : Word.ofString w = .short (c :: cs) := by
  unfold Word.ofString
  rw [hw]
  split <;> simp_all

/-! ## §2. Settings. -/

/-- What the parameter does with its value. -/
def Parameter.set (p : Parameter) : String → Arguments → Except String Arguments :=
  match p.effect with
  | .value _ _ set => set
  | _ => fun _ a => .ok a

/-- The word can stand behind the parameter as its value: it looks like no parameter, or like a
negative number where the parameter takes those. -/
def Parameter.Accepts (p : Parameter) (w : String) : Prop :=
  match Word.ofString w with
  | .plain => True
  | .short body => p.allowsNegative = true ∧ looksNumeric true false false body = true
  | _ => False

/-- A parameter of the table, by its long name, with a value behind it. -/
structure Setting where
  parameter : Parameter
  name : String
  value : String
  mem : parameter ∈ Parameter.all
  long : parameter.long = some name
  takesValue : parameter.takesValue = true
  accepts : parameter.Accepts value

namespace Setting

/-- The setting on a command line. -/
def words (s : Setting) : List String := ["--" ++ s.name, s.value]

/-- What the setting makes of the arguments before it. -/
def apply (s : Setting) (a : Arguments) : Except String Arguments := s.parameter.set s.value a

theorem plain (s : Setting) : s.name.toList ≠ [] ∧ '=' ∉ s.name.toList :=
  plain_of_long s.parameter s.mem s.name s.long

end Setting

/-! ## §3. One setting. -/

namespace Reading

/-- A parameter that takes effect puts its value in its place, unless it took effect before. -/
theorem settle_of_value {r : Reading} {p : Parameter} (hp : p.takesValue = true) {v : String}
    (hnew : p.display ∉ r.given) {a : Arguments} (ha : p.set v r.arguments = .ok a) :
    settle { r with pending := some (p, some v) }
      = .ok { r with arguments := a, given := p.display :: r.given, pending := none } := by
  have hcontains : r.given.contains p.display = false := by simpa using hnew
  unfold Parameter.takesValue at hp
  unfold Parameter.set at ha
  unfold settle
  simp only [hcontains, Bool.false_eq_true, if_false]
  split at hp
  next set heffect =>
    simp only [heffect] at ha ⊢
    rw [ha]
  next => cases hp

/-- A parameter with a value takes the place of the pending one. -/
theorem raise_of_value {r r' : Reading} (hr : r.settle = .ok r') {p : Parameter}
    (hp : p.takesValue = true) (g : Grammar) :
    r.raise g p = .ok { r' with pending := some (p, none) } := by
  unfold Parameter.takesValue at hp
  unfold raise
  split at hp
  next heffect =>
    simp only [hr, heffect]
    rfl
  next => cases hp

/-- The long name of a setting brings up its parameter. -/
theorem long_of_setting (s : Setting) (r : Reading) :
    r.long mainGrammar s.name.toList = r.raise mainGrammar s.parameter := by
  have hpos : ∀ c ∈ s.name.toList, c ≠ '=' := by
    rintro c hc rfl
    exact s.plain.2 hc
  have htake : s.name.toList.takeWhile (· ≠ '=') = s.name.toList := by
    rw [List.takeWhile_eq_self_iff]
    simpa using hpos
  have hdrop : s.name.toList.dropWhile (· ≠ '=') = [] := by
    rw [List.dropWhile_eq_nil_iff]
    simpa using hpos
  unfold long
  rw [htake, hdrop, String.ofList_toList]
  simp only [show mainGrammar.parameters = Parameter.all from rfl, find?_of_long s.mem s.long]

end Reading

/-- The name of a parameter: the one that was pending takes effect, and this one awaits its value, -/
theorem scan_name (s : Setting) {r r' : Reading} (hr : r.settle = .ok r') (rest : List String) :
    scan mainGrammar r (("--" ++ s.name) :: rest)
      = scan mainGrammar { r' with pending := some (s.parameter, none) } rest := by
  conv => lhs; unfold scan
  rw [contains_commands, Bool.and_false, ofString_long s.plain.1]
  simp only [Bool.false_eq_true, if_false, Reading.long_of_setting,
    Reading.raise_of_value hr s.takesValue]
  rfl

/-- and takes the next word for it. -/
theorem scan_value (g : Grammar) {p : Parameter} {w : String} (h : p.Accepts w) (r : Reading)
    (rest : List String) :
    scan g { r with pending := some (p, none) } (w :: rest)
      = scan g { r with pending := some (p, some w) } rest := by
  unfold Parameter.Accepts at h
  -- behind a parameter that awaits its value no word can be the name of a command
  conv => lhs; unfold scan
  simp only [Reading.awaited, Option.isNone_some, Bool.false_and, Bool.false_eq_true, if_false]
  split at h
  next hword => rw [hword]
  next body hword =>
    rw [hword]
    simp only [h.1, h.2, Bool.and_self, if_true]
  next => exact h.elim

/-- **ONE SETTING**: the parameter that was pending takes effect, and the one that is set becomes
pending with its value. -/
theorem scan_setting (s : Setting) {r r' : Reading} (hr : r.settle = .ok r') (rest : List String) :
    scan mainGrammar r (s.words ++ rest)
      = scan mainGrammar { r' with pending := some (s.parameter, some s.value) } rest :=
  (scan_name s hr (s.value :: rest)).trans (scan_value mainGrammar s.accepts r' rest)

/-! ## §4. Any number of settings. -/

/-- **ANY NUMBER OF SETTINGS**, in front of other words: if no parameter is set twice and every value
can be read, all of them have taken effect once the last one does. -/
theorem scan_settings (ss : List Setting) (rest : List String) {r r' : Reading}
    (hr : r.settle = .ok r') (hnodup : (ss.map (·.parameter.display)).Nodup)
    (hnew : ∀ s ∈ ss, s.parameter.display ∉ r'.given) {a : Arguments}
    (ha : ss.foldlM (fun a s => s.apply a) r'.arguments = .ok a) :
    ∃ q q', scan mainGrammar r (ss.flatMap Setting.words ++ rest) = scan mainGrammar q rest
      ∧ q.settle = .ok q' ∧ q'.arguments = a := by
  -- along the settings, with what the reading would be if the pending parameter took effect
  induction ss generalizing r r' with
  | nil => exact ⟨r, r', rfl, hr, Except.ok.inj ha⟩
  | cons s ss ih =>
      rw [List.map_cons, List.nodup_cons] at hnodup
      rw [List.foldlM_cons] at ha
      cases happly : s.apply r'.arguments with
      | error reason =>
          rw [happly] at ha
          cases ha
      | ok b =>
          rw [happly] at ha
          have hsettle := Reading.settle_of_value s.takesValue
            (hnew s List.mem_cons_self) happly
          have hlater : ∀ t ∈ ss, t.parameter.display ∉ s.parameter.display :: r'.given := by
            intro t ht hmem
            rcases List.mem_cons.mp hmem with heq | hmem
            · exact hnodup.1 (heq ▸ List.mem_map_of_mem ht)
            · exact hnew t (List.mem_cons_of_mem s ht) hmem
          obtain ⟨q, q', hscan, hq, hargs⟩ := ih hsettle hnodup.2 hlater ha
          refine ⟨q, q', ?_, hq, hargs⟩
          rw [List.flatMap_cons, List.append_assoc, scan_setting s hr]
          exact hscan

/-- **A COMMAND LINE OF SETTINGS SAYS WHAT ITS VALUES SAY**, one after the other. -/
theorem read_settings {ss : List Setting} (hnodup : (ss.map (·.parameter.display)).Nodup)
    {a : Arguments} (ha : ss.foldlM (fun a s => s.apply a) {} = .ok a) :
    read (ss.flatMap Setting.words) = .ok a := by
  obtain ⟨q, q', hscan, hq, hargs⟩ :=
    scan_settings ss [] (r := {}) rfl hnodup (fun _ _ => List.not_mem_nil) ha
  rw [List.append_nil] at hscan
  unfold read
  rw [hscan]
  show (do let r ← q.settle; .ok r.arguments : Except Halt Arguments) = _
  rw [hq, ← hargs]
  rfl

end Admission.CommandLine
