/-
  Admission.Proofs.Json.Written — the written forms of a document, and reading them back.

  A document has many WRITTEN forms: its tokens stand in order, and any blanks may stand between
  them.  The compact form and the pretty form are two of them.  A document CONFORMS to a shape if it
  is of the kind that the shape declares, with the members of every record in declared order and
  each integer within its width.

  Main results:
    * `written_compact`, `written_pretty` — both forms that are printed are written forms;
    * `Shape.read_of_written` — **every written form of a document that conforms is read back**.
-/
import Admission.Proofs.Json.Tokens
import Admission.Json.Value

namespace Admission.Json

/-! ## §1. Written forms. -/

/-- What stands in front of an item: blanks, and a comma unless it is the first. -/
def Separator : Bool → List Char → Prop
  | true, cs => Blanks cs
  | false, cs => ∃ w w', Blanks w ∧ Blanks w' ∧ cs = w ++ ',' :: w'

/-- A colon among blanks. -/
def Colon (cs : List Char) : Prop := ∃ w w', Blanks w ∧ Blanks w' ∧ cs = w ++ ':' :: w'

mutual

/-- The characters are a written form of the document, from its first token to its last. -/
def Written : Value → List Char → Prop
  | .null, cs => cs = ['n', 'u', 'l', 'l']
  | .boolean b, cs => cs = if b then ['t', 'r', 'u', 'e'] else ['f', 'a', 'l', 's', 'e']
  | .integer n, cs => cs = integerChars n
  | .text s, cs => cs = escape s
  | .array items, cs =>
      ∃ body w, WrittenItems true items body ∧ Blanks w ∧ cs = '[' :: (body ++ (w ++ [']']))
  | .object members, cs =>
      ∃ body w, WrittenMembers true members body ∧ Blanks w
        ∧ cs = '\x7b' :: (body ++ (w ++ ['\x7d']))

/-- Items from where the first or the next one may stand. -/
def WrittenItems : Bool → List Value → List Char → Prop
  | _, [], cs => cs = []
  | first, v :: rest, cs =>
      ∃ separator own body, Separator first separator ∧ Written v own
        ∧ WrittenItems false rest body ∧ cs = separator ++ (own ++ body)

/-- Members from where the first or the next one may stand. -/
def WrittenMembers : Bool → List (String × Value) → List Char → Prop
  | _, [], cs => cs = []
  | first, (k, v) :: rest, cs =>
      ∃ separator colon own body, Separator first separator ∧ Colon colon ∧ Written v own
        ∧ WrittenMembers false rest body ∧ cs = separator ++ (escape k ++ (colon ++ (own ++ body)))

end

/-- The comma in front of every item but the first. -/
def comma (first : Bool) : List Char := if first then [] else [',']

theorem separator_comma (first : Bool) {w : List Char} (h : Blanks w) :
    Separator first (comma first ++ w) := by
  cases first with
  | true => exact h
  | false => exact ⟨[], w, blanks_nil, h, rfl⟩

theorem colon_of_blanks {w : List Char} (h : Blanks w) : Colon (':' :: w) :=
  ⟨[], w, blanks_nil, h, rfl⟩

/-- A line break and the blanks of a depth are blanks. -/
theorem blanks_lineBreak (depth : Nat) : Blanks (lineBreak depth) := by
  intro c hc
  rcases List.mem_cons.mp hc with rfl | hc
  · rfl
  · rw [List.eq_of_mem_replicate hc]
    rfl

mutual

/-- **THE COMPACT FORM** is a written form. -/
theorem written_compact : ∀ v : Value, Written v (compactChars v)
  | .null => rfl
  | .boolean true => rfl
  | .boolean false => rfl
  | .integer _ => rfl
  | .text _ => rfl
  | .array [] => ⟨[], [], rfl, blanks_nil, rfl⟩
  | .array (v :: rest) =>
      ⟨_, [], writtenItems_compact true (v :: rest) (by simp), blanks_nil, rfl⟩
  | .object [] => ⟨[], [], rfl, blanks_nil, rfl⟩
  | .object (m :: rest) =>
      ⟨_, [], writtenMembers_compact true (m :: rest) (by simp), blanks_nil, rfl⟩

theorem writtenItems_compact (first : Bool) : ∀ items : List Value, items ≠ [] →
    WrittenItems first items (comma first ++ compactItems items)
  | [], h => absurd rfl h
  | [v], _ =>
      ⟨_, _, [], separator_comma first blanks_nil, written_compact v, rfl, by simp [compactItems]⟩
  | v :: u :: rest, _ =>
      ⟨_, _, _, separator_comma first blanks_nil, written_compact v,
        writtenItems_compact false (u :: rest) (by simp), by simp [compactItems, comma]⟩

theorem writtenMembers_compact (first : Bool) : ∀ members : List (String × Value), members ≠ [] →
    WrittenMembers first members (comma first ++ compactMembers members)
  | [], h => absurd rfl h
  | [(k, v)], _ =>
      ⟨_, _, _, [], separator_comma first blanks_nil, colon_of_blanks blanks_nil, written_compact v,
        rfl, by simp [compactMembers]⟩
  | (k, v) :: m :: rest, _ =>
      ⟨_, _, _, _, separator_comma first blanks_nil, colon_of_blanks blanks_nil, written_compact v,
        writtenMembers_compact false (m :: rest) (by simp), by simp [compactMembers, comma]⟩

end

theorem blanks_space : Blanks [' '] := by
  intro c hc
  rw [List.mem_singleton.mp hc]
  rfl

mutual

/-- **THE PRETTY FORM** is a written form, at any depth. -/
theorem written_pretty (depth : Nat) : ∀ v : Value, Written v (prettyChars depth v)
  | .null => rfl
  | .boolean true => rfl
  | .boolean false => rfl
  | .integer _ => rfl
  | .text _ => rfl
  | .array [] => ⟨[], [], rfl, blanks_nil, rfl⟩
  | .array (v :: rest) =>
      ⟨_, _, writtenItems_pretty (depth + 1) true (v :: rest) (by simp), blanks_lineBreak depth,
        by simp [prettyChars, comma]⟩
  | .object [] => ⟨[], [], rfl, blanks_nil, rfl⟩
  | .object (m :: rest) =>
      ⟨_, _, writtenMembers_pretty (depth + 1) true (m :: rest) (by simp), blanks_lineBreak depth,
        by simp [prettyChars, comma]⟩

theorem writtenItems_pretty (depth : Nat) (first : Bool) : ∀ items : List Value, items ≠ [] →
    WrittenItems first items (comma first ++ prettyItems depth items)
  | [], h => absurd rfl h
  | [v], _ =>
      ⟨_, _, [], separator_comma first (blanks_lineBreak depth), written_pretty depth v, rfl,
        by simp [prettyItems]⟩
  | v :: u :: rest, _ =>
      ⟨_, _, _, separator_comma first (blanks_lineBreak depth), written_pretty depth v,
        writtenItems_pretty depth false (u :: rest) (by simp), by simp [prettyItems, comma]⟩

theorem writtenMembers_pretty (depth : Nat) (first : Bool) : ∀ members : List (String × Value),
    members ≠ [] → WrittenMembers first members (comma first ++ prettyMembers depth members)
  | [], h => absurd rfl h
  | [(k, v)], _ =>
      ⟨_, _, _, [], separator_comma first (blanks_lineBreak depth), colon_of_blanks blanks_space,
        written_pretty depth v, rfl, by simp [prettyMembers]⟩
  | (k, v) :: m :: rest, _ =>
      ⟨_, _, _, _, separator_comma first (blanks_lineBreak depth), colon_of_blanks blanks_space,
        written_pretty depth v, writtenMembers_pretty depth false (m :: rest) (by simp),
        by simp [prettyMembers, comma]⟩

end

/-! ## §2. Documents of a shape. -/

mutual

/-- The shape can be read without doubt: no two fields of a record have one name, no integer is
wider than a word, and nothing is optional twice. -/
def Shape.IsSound : Shape → Prop
  | .integer w _ => Width.IsReadable w
  | .optional s => s.isOptional = false ∧ s.IsSound
  | .record _ fields => (fields.map (·.1)).Nodup ∧ SoundFields fields
  | .boolean | .text | .choice _ _ => True

def SoundFields : List (String × Shape) → Prop
  | [] => True
  | (_, s) :: rest => s.IsSound ∧ SoundFields rest

end

mutual

/-- The document is of the shape. -/
def Conforms : Shape → Value → Prop
  | .boolean, v => ∃ b, v = .boolean b
  | .integer w _, v => ∃ n, v = .integer n ∧ w.contains n = true
  | .text, v => ∃ s, v = .text s
  | .optional s, v => v = .null ∨ Conforms s v
  | .record _ fields, v => ∃ members, v = .object members ∧ ConformingFields fields members
  | .choice names .none, v => ∃ name ∈ names, v = .text name
  | .choice names .text, v => ∃ name ∈ names, ∃ s, v = .object [(name, .text s)]

/-- The members are those of the fields, in declared order. -/
def ConformingFields : List (String × Shape) → List (String × Value) → Prop
  | [], members => members = []
  | (name, s) :: rest, members =>
      ∃ v others, members = (name, v) :: others ∧ Conforms s v ∧ ConformingFields rest others

end

theorem ConformingFields.names {fields : List (String × Shape)} {members : List (String × Value)}
    (h : ConformingFields fields members) : members.map (·.1) = fields.map (·.1) := by
  induction fields generalizing members with
  | nil =>
      unfold ConformingFields at h
      rw [h]
      rfl
  | cons f rest ih =>
      unfold ConformingFields at h
      obtain ⟨v, others, rfl, -, h⟩ := h
      rw [List.map_cons, List.map_cons, ih h]

/-- In an association without doubles, a name stands for what stands beside it. -/
theorem lookup_eq_some_of_mem {α : Type} {l : List (String × α)} (hn : (l.map (·.1)).Nodup)
    {name : String} {a : α} (h : (name, a) ∈ l) : l.lookup name = some a := by
  obtain ⟨before, after, rfl⟩ := List.append_of_mem h
  refine List.lookup_eq_some_iff.mpr ⟨before, after, rfl, fun p hp => ?_⟩
  rw [List.map_append, List.nodup_append] at hn
  rw [bne_iff_ne]
  exact (hn.2.2 p.1 (List.mem_map_of_mem hp) name (by simp)).symm

/-- Every one of the members is what its field asks for. -/
def Declared (fields : List (String × Shape)) (members : List (String × Value)) : Prop :=
  ∀ p ∈ members, ∃ s, fields.lookup p.1 = some s ∧ s.IsSound ∧ Conforms s p.2

theorem SoundFields.of_mem {fields : List (String × Shape)} (h : SoundFields fields)
    {p : String × Shape} (hp : p ∈ fields) : p.2.IsSound := by
  induction fields with
  | nil => cases hp
  | cons f rest ih =>
      unfold SoundFields at h
      rcases List.mem_cons.mp hp with rfl | hp
      · exact h.1
      · exact ih h.2 hp

theorem ConformingFields.exists_mem {fields : List (String × Shape)}
    {members : List (String × Value)} (h : ConformingFields fields members) :
    ∀ p ∈ members, ∃ s, (p.1, s) ∈ fields ∧ Conforms s p.2 := by
  induction fields generalizing members with
  | nil =>
      unfold ConformingFields at h
      rw [h]
      intro p hp
      cases hp
  | cons f rest ih =>
      unfold ConformingFields at h
      obtain ⟨v, others, rfl, hv, h⟩ := h
      intro p hp
      rcases List.mem_cons.mp hp with rfl | hp
      · exact ⟨f.2, List.mem_cons_self, hv⟩
      · obtain ⟨s, hs, hc⟩ := ih h p hp
        exact ⟨s, List.mem_cons_of_mem f hs, hc⟩

theorem ConformingFields.declared {fields : List (String × Shape)}
    {members : List (String × Value)} (h : ConformingFields fields members)
    (hn : (fields.map (·.1)).Nodup) (hs : SoundFields fields) : Declared fields members := by
  intro p hp
  obtain ⟨s, hm, hc⟩ := h.exists_mem p hp
  exact ⟨s, lookup_eq_some_of_mem hn hm, hs.of_mem hm, hc⟩

/-! ## §3. What is written is read. -/

/-- A written form begins with its first token; only null begins with an `n`. -/
theorem Written.exists_cons {v : Value} {cs : List Char} (h : Written v cs) :
    ∃ c ds, cs = c :: ds ∧ isBlank c = false ∧ (v ≠ .null → c ≠ 'n') := by
  cases v with
  | null =>
      unfold Written at h
      exact ⟨'n', _, h, rfl, fun hn => absurd rfl hn⟩
  | boolean b =>
      unfold Written at h
      cases b with
      | true => exact ⟨'t', _, h, rfl, fun _ => by decide⟩
      | false => exact ⟨'f', _, h, rfl, fun _ => by decide⟩
  | text s =>
      unfold Written at h
      exact ⟨'"', _, h, rfl, fun _ => by decide⟩
  | array items =>
      unfold Written at h
      obtain ⟨body, w, -, -, he⟩ := h
      exact ⟨'[', _, he, rfl, fun _ => by decide⟩
  | object members =>
      unfold Written at h
      obtain ⟨body, w, -, -, he⟩ := h
      exact ⟨'\x7b', _, he, rfl, fun _ => by decide⟩
  | integer n =>
      unfold Written at h
      rw [h]
      unfold integerChars
      split
      · exact ⟨'-', _, rfl, rfl, fun _ => by decide⟩
      · obtain ⟨c, ds, he⟩ : ∃ c ds, Nat.toDigits 10 n.natAbs = c :: ds :=
          List.exists_cons_of_ne_nil Nat.toDigits_ne_nil
        -- a digit is neither a blank nor an n
        have hc : c.isDigit = true := isDigit_of_mem_toDigits (he ▸ List.mem_cons_self)
        refine ⟨c, ds, he, ?_, fun _ hn => ?_⟩
        · rw [Bool.eq_false_iff]
          intro hb
          unfold isBlank at hb
          simp only [Bool.or_eq_true, beq_iff_eq] at hb
          rcases hb with ((rfl | rfl) | rfl) | rfl <;> cases hc
        · rw [hn] at hc
          cases hc

section Steps

variable {r : List Char}

theorem scanShape_append_blanks (fuel : Nat) (s : Shape) {w : List Char} (h : Blanks w)
    (cs : List Char) : scanShape fuel s (w ++ cs) = scanShape fuel s cs := by
  cases fuel with
  | zero => rfl
  | succ fuel =>
      unfold scanShape
      rw [skipBlanks_append h]

theorem scanText_escape_append (s : String) (r : List Char) :
    ∃ cs, escape s ++ r = '"' :: cs ∧ scanText cs = .ok (s, r) := by
  refine ⟨s.toList.flatMap escapeChar ++ '"' :: r, ?_, scanText_escape s r⟩
  unfold escape
  simp

theorem skipBlanks_escape (s : String) (r : List Char) :
    skipBlanks (escape s ++ r) = escape s ++ r := by
  obtain ⟨cs, he, -⟩ := scanText_escape_append s r
  rw [he, skipBlanks_cons rfl]

theorem scanString_escape (expected s : String) (r : List Char) :
    scanString expected (escape s ++ r) = .ok (s, r) := by
  obtain ⟨cs, he, hs⟩ := scanText_escape_append s r
  rw [he]
  exact hs

theorem scanShape_boolean (fuel : Nat) (b : Bool) {own : List Char} (h : Written (.boolean b) own) :
    scanShape (fuel + 1) .boolean (own ++ r) = .ok (.boolean b, r) := by
  unfold Written at h
  subst h
  cases b <;> rfl

theorem scanShape_text (fuel : Nat) (s : String) :
    scanShape (fuel + 1) .text (escape s ++ r) = .ok (.text s, r) := by
  have hs := scanString_escape "a string" s r
  obtain ⟨cs, he, -⟩ := scanText_escape_append s r
  rw [he] at hs ⊢
  unfold scanShape
  rw [skipBlanks_cons rfl]
  simp only [List.isEmpty_cons, Bool.false_eq_true, if_false, hs]
  rfl

theorem scanShape_integer (fuel : Nat) {w : Width} (hw : Width.IsReadable w) (name : String)
    {n : Int} (hn : w.contains n = true) (hr : Apart r) :
    scanShape (fuel + 1) (.integer w name) (integerChars n ++ r) = .ok (.integer n, r) := by
  have hs := scanInteger_integerChars hw name hn hr
  obtain ⟨c, ds, he, hb, -⟩ := Written.exists_cons (v := .integer n) (by unfold Written; rfl)
  rw [he, List.cons_append] at hs ⊢
  unfold scanShape
  rw [skipBlanks_cons hb]
  simp only [List.isEmpty_cons, Bool.false_eq_true, if_false, hs]

theorem scanShape_null (fuel : Nat) (s : Shape) :
    scanShape (fuel + 1) (.optional s) (['n', 'u', 'l', 'l'] ++ r) = .ok (.null, r) := rfl

/-- What does not begin as null is read as what is optional. -/
theorem scanShape_optional (fuel : Nat) (s : Shape) {c : Char} (hb : isBlank c = false)
    (hn : c ≠ 'n') : scanShape (fuel + 1) (.optional s) (c :: r) = scanShape fuel s (c :: r) := by
  conv => lhs; unfold scanShape
  rw [skipBlanks_cons hb]
  simp only [List.isEmpty_cons, Bool.false_eq_true, if_false]
  split
  next r' he => exact absurd (List.cons.inj he).1 hn
  next => rfl

theorem scanVariant_escape {names : List String} {name : String} (h : name ∈ names)
    (r : List Char) : scanVariant names (escape name ++ r) = .ok (name, r) := by
  unfold scanVariant
  rw [scanString_escape]
  show (if names.contains name = true then _ else _) = _
  rw [if_pos (by simpa using h)]

/-- A variant alone. -/
theorem scanShape_name (fuel : Nat) {names : List String} {name : String} (h : name ∈ names) :
    scanShape (fuel + 1) (.choice names .none) (escape name ++ r) = .ok (.text name, r) := by
  have hs := scanVariant_escape h r
  obtain ⟨cs, he, -⟩ := scanText_escape_append name r
  rw [he] at hs ⊢
  unfold scanShape
  rw [skipBlanks_cons rfl]
  simp only [List.isEmpty_cons, Bool.false_eq_true, if_false]
  unfold scanChoice
  simp only [hs]
  rfl

/-- A variant with its payload. -/
theorem scanShape_variant (fuel : Nat) {names : List String} {name : String} (h : name ∈ names)
    (s : String) {own : List Char} (hw : Written (.object [(name, .text s)]) own) :
    scanShape (fuel + 1) (.choice names .text) (own ++ r) = .ok (.object [(name, .text s)], r) := by
  unfold Written at hw
  obtain ⟨body, w, hbody, hw, rfl⟩ := hw
  unfold WrittenMembers at hbody
  obtain ⟨separator, colon, text, rest, hsep, ⟨u, u', hu, hu', rfl⟩, htext, hrest, rfl⟩ := hbody
  unfold Written at htext
  unfold WrittenMembers at hrest
  subst htext hrest
  -- each part is read behind its blanks, and then the parts are put together
  have hname : ∀ cs, scanVariant names (skipBlanks (separator ++ (escape name ++ cs)))
      = .ok (name, cs) := by
    intro cs
    rw [skipBlanks_append hsep, skipBlanks_escape]
    exact scanVariant_escape h cs
  have hpayload : scanPayload name (skipBlanks (u' ++ (escape s ++ (w ++ '\x7d' :: r)))) .text
      = .ok (.object [(name, .text s)], w ++ '\x7d' :: r) := by
    rw [skipBlanks_append hu', skipBlanks_escape]
    unfold scanPayload
    simp only [scanString_escape]
    rfl
  simp only [List.append_assoc, List.cons_append, List.nil_append, List.append_nil]
  unfold scanShape
  rw [skipBlanks_cons rfl]
  simp only [List.isEmpty_cons, Bool.false_eq_true, if_false]
  unfold scanChoice
  simp only [hname, bind, Except.bind]
  rw [skipBlanks_append hu, skipBlanks_cons rfl]
  simp only [hpayload]
  rw [skipBlanks_append hw, skipBlanks_cons rfl]
  rfl

theorem scanShape_record (fuel : Nat) (name : String) (fields : List (String × Shape)) :
    scanShape (fuel + 1) (.record name fields) ('\x7b' :: r)
      = (do
          let (read, r) ← scanMembers fuel fields [] true r
          .ok (.object (← collectFields read fields), r)) := rfl

/-- The end of a record. -/
theorem scanMembers_end (fuel : Nat) (fields : List (String × Shape))
    (read : List (String × Value)) (first : Bool) {w : List Char} (h : Blanks w) :
    scanMembers (fuel + 1) fields read first (w ++ '\x7d' :: r) = .ok (read, r) := by
  unfold scanMembers
  simp only
  rw [skipBlanks_append h, skipBlanks_cons rfl]
  rfl

/-- **THE NEXT MEMBER OF A RECORD** is read as its field asks. -/
theorem scanMembers_next (fuel : Nat) {fields : List (String × Shape)}
    {read : List (String × Value)} {first : Bool} {separator colon cs : List Char} {k : String}
    {s : Shape} {v : Value} (hsep : Separator first separator) (hcolon : Colon colon)
    (hk : fields.lookup k = some s) (hnew : read.lookup k = none)
    (hv : scanShape fuel s cs = .ok (v, r)) :
    scanMembers (fuel + 1) fields read first (separator ++ (escape k ++ (colon ++ cs)))
      = scanMembers fuel fields (read ++ [(k, v)]) false r := by
  obtain ⟨w, w', hw, hw', rfl⟩ := hcolon
  obtain ⟨ds, he, htext⟩ := scanText_escape_append k (w ++ ':' :: w' ++ cs)
  have hcolon : skipBlanks (w ++ ':' :: w' ++ cs) = ':' :: (w' ++ cs) := by
    rw [List.append_assoc, skipBlanks_append hw, List.cons_append, skipBlanks_cons rfl]
  have hvalue : scanShape fuel s (w' ++ cs) = .ok (v, r) :=
    (scanShape_append_blanks fuel s hw' cs).trans hv
  rw [he]
  conv => lhs; unfold scanMembers
  -- behind a comma there may be blanks once more
  cases first with
  | true =>
      rw [skipBlanks_append hsep, skipBlanks_cons rfl]
      show (scanText ds >>= _) = _
      simp only [htext, bind, Except.bind, hk, hnew, hcolon, hvalue]
      rfl
  | false =>
      obtain ⟨u, u', hu, hu', rfl⟩ := hsep
      have hquote : skipBlanks (u' ++ '"' :: ds) = '"' :: ds := by
        rw [skipBlanks_append hu', skipBlanks_cons rfl]
      rw [List.append_assoc, skipBlanks_append hu, List.cons_append, skipBlanks_cons rfl]
      simp only [Bool.false_eq_true, if_false, hquote]
      simp only [htext, bind, Except.bind, hk, hnew, hcolon, hvalue]
      rfl

/-- A record gives back its members in declared order. -/
theorem collectFields_of_conforming {fields : List (String × Shape)}
    {members read : List (String × Value)} (h : ConformingFields fields members)
    (hread : ∀ p ∈ members, read.lookup p.1 = some p.2) :
    collectFields read fields = .ok members := by
  induction fields generalizing members with
  | nil =>
      unfold ConformingFields at h
      rw [h]
      rfl
  | cons f rest ih =>
      unfold ConformingFields at h
      obtain ⟨v, others, rfl, -, h⟩ := h
      have hrest := ih h fun p hp => hread p (List.mem_cons_of_mem _ hp)
      have hv : read.lookup f.1 = some v := hread (f.1, v) List.mem_cons_self
      unfold collectFields
      simp only [hv, hrest]
      rfl

/-- What follows a member does not go on with a number. -/
theorem apart_members {members : List (String × Value)} {body w : List Char}
    (h : WrittenMembers false members body) (hw : Blanks w) :
    Apart (body ++ (w ++ '\x7d' :: r)) := by
  cases members with
  | nil =>
      unfold WrittenMembers at h
      subst h
      exact hw.apart_append (apart_cons (by decide) r)
  | cons m rest =>
      unfold WrittenMembers at h
      obtain ⟨separator, colon, own, body', ⟨u, u', hu, -, rfl⟩, -, -, -, rfl⟩ := h
      rw [List.append_assoc, List.append_assoc]
      exact hu.apart_append (apart_cons (by decide) _)

theorem Conforms.ne_null {s : Shape} {v : Value} (h : Conforms s v) (hs : s.isOptional = false) :
    v ≠ .null := by
  rintro rfl
  cases s with
  | optional => cases hs
  | choice names payload => cases payload <;> (unfold Conforms at h; simp at h)
  | boolean | integer | text | record => unfold Conforms at h; simp at h

end Steps

/-- **WHAT IS WRITTEN IS READ**, with fuel for its parts. -/
structure Reads (fuel : Nat) : Prop where
  value : ∀ (s : Shape) (v : Value) (own r : List Char), s.IsSound → Conforms s v →
    Written v own → Apart r → own.length + (if s.isOptional then 1 else 0) ≤ fuel →
    scanShape fuel s (own ++ r) = .ok (v, r)
  members : ∀ (fields : List (String × Shape)) (read members : List (String × Value))
    (first : Bool) (body w r : List Char), Declared fields members →
    ((read ++ members).map (·.1)).Nodup → WrittenMembers first members body → Blanks w →
    body.length + 1 ≤ fuel →
    scanMembers fuel fields read first (body ++ (w ++ '\x7d' :: r)) = .ok (read ++ members, r)

namespace Reads

variable {fuel : Nat}

/-- A record with its members. -/
theorem record (h : Reads fuel) {name : String} {fields : List (String × Shape)}
    (hs : (Shape.record name fields).IsSound) {members : List (String × Value)}
    (hc : ConformingFields fields members) {own r : List Char}
    (hw : Written (.object members) own) (hfuel : own.length ≤ fuel + 1) :
    scanShape (fuel + 1) (.record name fields) (own ++ r) = .ok (.object members, r) := by
  unfold Written at hw
  obtain ⟨body, w, hbody, hblanks, rfl⟩ := hw
  unfold Shape.IsSound at hs
  have hnames : (members.map (·.1)).Nodup := hc.names ▸ hs.1
  have hread := h.members fields [] members true body w r (hc.declared hs.1 hs.2) hnames hbody
    hblanks (by simp only [List.length_cons, List.length_append, List.length_nil] at hfuel; omega)
  have hcollect : collectFields members fields = .ok members :=
    collectFields_of_conforming hc fun p hp => lookup_eq_some_of_mem hnames hp
  simp only [List.cons_append, List.append_assoc, List.nil_append]
  rw [scanShape_record, hread]
  show (do Except.ok (Value.object (← collectFields members fields), r)) = _
  rw [hcollect]
  rfl

/-- A value of any shape. -/
theorem value_succ (h : Reads fuel) (s : Shape) (v : Value) (own r : List Char) (hs : s.IsSound)
    (hc : Conforms s v) (hw : Written v own) (hr : Apart r)
    (hfuel : own.length + (if s.isOptional then 1 else 0) ≤ fuel + 1) :
    scanShape (fuel + 1) s (own ++ r) = .ok (v, r) := by
  cases s with
  | boolean =>
      unfold Conforms at hc
      obtain ⟨b, rfl⟩ := hc
      exact scanShape_boolean fuel b hw
  | integer width name =>
      unfold Conforms at hc
      obtain ⟨n, rfl, hn⟩ := hc
      unfold Shape.IsSound at hs
      unfold Written at hw
      rw [hw]
      exact scanShape_integer fuel hs name hn hr
  | text =>
      unfold Conforms at hc
      obtain ⟨s, rfl⟩ := hc
      unfold Written at hw
      rw [hw]
      exact scanShape_text fuel s
  | optional s =>
      unfold Conforms at hc
      unfold Shape.IsSound at hs
      rcases hc with rfl | hc
      · unfold Written at hw
        rw [hw]
        exact scanShape_null fuel s
      · obtain ⟨c, ds, he, hb, hn⟩ := hw.exists_cons
        -- what does not begin as null is read as what is optional
        have hread := h.value s v own r hs.2 hc hw hr
          (by rw [hs.1]; exact Nat.le_of_succ_le_succ hfuel)
        rw [he, List.cons_append] at hread ⊢
        rw [scanShape_optional fuel s hb (hn (hc.ne_null hs.1)), hread]
  | record name fields =>
      unfold Conforms at hc
      obtain ⟨members, rfl, hc⟩ := hc
      exact h.record hs hc hw hfuel
  | choice names payload =>
      cases payload with
      | none =>
          unfold Conforms at hc
          obtain ⟨name, hname, rfl⟩ := hc
          unfold Written at hw
          rw [hw]
          exact scanShape_name fuel hname
      | text =>
          unfold Conforms at hc
          obtain ⟨name, hname, s, rfl⟩ := hc
          exact scanShape_variant fuel hname s hw

/-- The members of a record. -/
theorem members_succ (h : Reads fuel) (fields : List (String × Shape))
    (read members : List (String × Value)) (first : Bool) (body w r : List Char)
    (hd : Declared fields members) (hn : ((read ++ members).map (·.1)).Nodup)
    (hb : WrittenMembers first members body) (hw : Blanks w)
    (hfuel : body.length + 1 ≤ fuel + 1) :
    scanMembers (fuel + 1) fields read first (body ++ (w ++ '\x7d' :: r))
      = .ok (read ++ members, r) := by
  cases members with
  | nil =>
      unfold WrittenMembers at hb
      rw [hb, List.append_nil]
      exact scanMembers_end fuel fields read first hw
  | cons m rest =>
      obtain ⟨k, v⟩ := m
      unfold WrittenMembers at hb
      obtain ⟨separator, colon, own, body', hsep, hcolon, hown, hrest, rfl⟩ := hb
      obtain ⟨s, hk, hs, hc⟩ := hd (k, v) List.mem_cons_self
      -- the name and its colon leave enough fuel for the value and for the members behind it
      have hlength : 2 ≤ (escape k).length := by
        unfold escape
        simp
      have hcolon' : 1 ≤ colon.length := by
        obtain ⟨u, u', -, -, rfl⟩ := hcolon
        rw [List.length_append, List.length_cons]
        omega
      simp only [List.length_append] at hfuel
      have hnew : read.lookup k = none := by
        rw [List.lookup_eq_none_iff]
        intro p hp
        rw [List.map_append, List.nodup_append] at hn
        rw [bne_iff_ne]
        exact (hn.2.2 p.1 (List.mem_map_of_mem hp) k (by simp)).symm
      have hv : scanShape fuel s (own ++ (body' ++ (w ++ '\x7d' :: r)))
          = .ok (v, body' ++ (w ++ '\x7d' :: r)) :=
        h.value s v own _ hs hc hown (apart_members hrest hw) (by split <;> omega)
      simp only [List.append_assoc]
      rw [scanMembers_next fuel hsep hcolon hk hnew hv,
        h.members fields (read ++ [(k, v)]) rest false body' w r
          (fun p hp => hd p (List.mem_cons_of_mem _ hp)) (by simpa using hn) hrest hw (by omega)]
      simp

end Reads

theorem reads (fuel : Nat) : Reads fuel := by
  induction fuel with
  | zero =>
      -- whatever is written has a length, so nothing is written that no fuel is enough for
      constructor
      case value =>
        intro s v own r _ _ hw _ hfuel
        obtain ⟨c, ds, rfl, -⟩ := hw.exists_cons
        simp at hfuel
      case members =>
        intro fields read members first body w r _ _ _ _ hfuel
        omega
  | succ fuel ih => exact ⟨ih.value_succ, ih.members_succ⟩

/-- **EVERY WRITTEN FORM OF A DOCUMENT IS READ BACK**, blanks around it included. -/
theorem Shape.read_of_written {s : Shape} (hs : s.IsSound) {v : Value} (hc : Conforms s v)
    {w own w' : List Char} (hw : Blanks w) (hown : Written v own) (hw' : Blanks w') :
    s.read (String.ofList (w ++ (own ++ w'))) = .ok v := by
  have hread := (reads ((w ++ (own ++ w')).length + 8)).value s v own w' hs hc hown
    (by simpa using hw'.apart_append apart_nil)
    (by simp only [List.length_append]; split <;> omega)
  unfold Shape.read
  simp only [String.toList_ofList]
  rw [scanShape_append_blanks _ s hw, hread]
  simp only [bind, Except.bind, hw'.skipBlanks]

theorem Shape.read_compact {s : Shape} (hs : s.IsSound) {v : Value} (hc : Conforms s v) :
    s.read v.compact = .ok v := by
  have hread := read_of_written hs hc blanks_nil (written_compact v) blanks_nil
  rwa [List.nil_append, List.append_nil] at hread

theorem Shape.read_pretty {s : Shape} (hs : s.IsSound) {v : Value} (hc : Conforms s v) :
    s.read v.pretty = .ok v := by
  have hread := read_of_written hs hc blanks_nil (written_pretty 0 v) blanks_nil
  rwa [List.nil_append, List.append_nil] at hread

end Admission.Json
