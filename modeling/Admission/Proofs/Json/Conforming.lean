/-
  Admission.Proofs.Json.Conforming — what is read conforms to the shape it was read as.

  A reader that skips unknown members, takes a record for an array and fills in what is missing still
  yields nothing but documents of its shape: every member in declared order, every integer within its
  width, every variant one of those that are declared.

  Main results:
    * `yields` — no scan yields anything else, whatever the fuel;
    * `Shape.conforms_of_read` — **what is read conforms**.
-/
import Admission.Proofs.Json.Written

namespace Admission.Json

/-! ## §1. Scalars and choices. -/

section Scalars

variable {cs r : List Char} {v : Value}

theorem mem_of_lookup {α : Type} {l : List (String × α)} {name : String} {a : α}
    (h : l.lookup name = some a) : (name, a) ∈ l := by
  obtain ⟨before, after, rfl, -⟩ := List.lookup_eq_some_iff.mp h
  simp

theorem ok_of_bind {ε α β : Type} {x : Except ε α} {f : α → Except ε β} {b : β}
    (h : x >>= f = .ok b) : ∃ a, x = .ok a ∧ f a = .ok b := by
  cases x with
  | error e => cases h
  | ok a => exact ⟨a, rfl, h⟩

theorem fitNumber_conforms {w : Width} {name : String} {n : Number}
    (h : fitNumber w name n = .ok v) : ∃ m, v = .integer m ∧ w.contains m = true := by
  unfold fitNumber at h
  cases n with
  | natural m | negative m =>
      simp only at h
      split at h
      next hm =>
        cases h
        exact ⟨_, rfl, hm⟩
      next => cases h
  | float x => cases h

theorem scanInteger_conforms {w : Width} {name : String}
    (h : scanInteger w name cs = .ok (v, r)) : ∃ m, v = .integer m ∧ w.contains m = true := by
  unfold scanInteger at h
  extract_lets fit at h
  -- with a sign or without, the number that was scanned is fitted into the width
  have hfit : ∀ scanned, fit scanned = .ok (v, r) → ∃ m, v = .integer m ∧ w.contains m = true := by
    intro scanned hscanned
    dsimp only [fit] at hscanned
    split at hscanned
    · split at hscanned
      next hnumber =>
        cases hscanned
        exact fitNumber_conforms hnumber
      next => cases hscanned
    · cases hscanned
  split at h
  · exact hfit _ h
  · split at h
    · exact hfit _ h
    · cases h
  · cases h

theorem scanBoolean_conforms (h : scanBoolean cs = .ok (v, r)) : ∃ b, v = .boolean b := by
  unfold scanBoolean at h
  split at h
  · split at h
    · cases h
      exact ⟨true, rfl⟩
    · cases h
  · split at h
    · cases h
      exact ⟨false, rfl⟩
    · cases h
  · cases h

theorem mem_of_scanVariant {names : List String} {name : String}
    (h : scanVariant names cs = .ok (name, r)) : name ∈ names := by
  unfold scanVariant at h
  obtain ⟨⟨s, r'⟩, -, h⟩ := ok_of_bind h
  simp only at h
  split at h
  next hm =>
    cases h
    simpa using hm
  next => cases h

/-- A payload makes a document of the choice. -/
theorem scanPayload_conforms {names : List String} {name : String} (hn : name ∈ names)
    {payload : Payload} (h : scanPayload name cs payload = .ok (v, r)) :
    Conforms (.choice names payload) v := by
  unfold scanPayload at h
  cases payload with
  | none =>
      unfold Conforms
      simp only at h
      split at h
      · split at h
        · cases h
          exact ⟨name, hn, rfl⟩
        · cases h
      · cases h
  | text =>
      unfold Conforms
      obtain ⟨⟨s, r'⟩, -, h⟩ := ok_of_bind h
      cases h
      exact ⟨name, hn, s, rfl⟩

theorem scanChoice_conforms {names : List String} {payload : Payload}
    (h : scanChoice names payload cs = .ok (v, r)) : Conforms (.choice names payload) v := by
  unfold scanChoice at h
  split at h
  · obtain ⟨⟨name, r'⟩, hname, h⟩ := ok_of_bind h
    cases payload with
    | none =>
        cases h
        unfold Conforms
        exact ⟨_, mem_of_scanVariant hname, rfl⟩
    | text => cases h
  · obtain ⟨⟨name, r'⟩, hname, h⟩ := ok_of_bind h
    simp only at h
    split at h
    · obtain ⟨⟨u, r''⟩, hpayload, h⟩ := ok_of_bind h
      simp only at h
      split at h
      · cases h
        exact scanPayload_conforms (mem_of_scanVariant hname) hpayload
      · cases h
    · cases h
  · cases h

end Scalars

/-! ## §2. Records. -/

theorem Declared.lookup {fields : List (String × Shape)} {read : List (String × Value)}
    (h : Declared fields read) {k : String} {v : Value} {s : Shape}
    (hv : read.lookup k = some v) (hs : fields.lookup k = some s) : Conforms s v := by
  obtain ⟨before, after, rfl, -⟩ := List.lookup_eq_some_iff.mp hv
  obtain ⟨s', hs', -, hc⟩ := h (k, v) (by simp)
  cases hs.symm.trans hs'
  exact hc

theorem Declared.append {fields : List (String × Shape)} {read : List (String × Value)}
    (h : Declared fields read) {k : String} {v : Value} {s : Shape}
    (hs : fields.lookup k = some s) (hsound : s.IsSound) (hc : Conforms s v) :
    Declared fields (read ++ [(k, v)]) := by
  intro p hp
  rcases List.mem_append.mp hp with hp | hp
  · exact h p hp
  · rw [List.mem_singleton.mp hp]
    exact ⟨s, hs, hsound, hc⟩

/-- What was read of each field, and null for what may be missing, make up a record. -/
theorem conforming_collectFields {fields rest : List (String × Shape)}
    {read members : List (String × Value)} (hread : Declared fields read)
    (hrest : ∀ p ∈ rest, fields.lookup p.1 = some p.2)
    (h : collectFields read rest = .ok members) : ConformingFields rest members := by
  induction rest generalizing members with
  | nil =>
      cases h
      rfl
  | cons f rest ih =>
      obtain ⟨name, s⟩ := f
      have hs : fields.lookup name = some s := hrest (name, s) List.mem_cons_self
      unfold collectFields at h
      split at h
      next v hv =>
        obtain ⟨others, hothers, h⟩ := ok_of_bind h
        cases h
        exact ⟨v, others, rfl, hread.lookup hv hs,
          ih (fun p hp => hrest p (List.mem_cons_of_mem _ hp)) hothers⟩
      next =>
        split at h
        next hoptional =>
          obtain ⟨others, hothers, h⟩ := ok_of_bind h
          cases h
          refine ⟨.null, others, rfl, ?_,
            ih (fun p hp => hrest p (List.mem_cons_of_mem _ hp)) hothers⟩
          -- what is missing was optional, and null stands for it
          cases s with
          | optional s =>
              unfold Conforms
              exact .inl rfl
          | boolean | integer | text | record | choice => cases hoptional
        next => cases h

/-- **WHAT IS READ CONFORMS**, with fuel for its parts. -/
structure Yields (fuel : Nat) : Prop where
  value : ∀ (s : Shape) (cs r : List Char) (v : Value), s.IsSound →
    scanShape fuel s cs = .ok (v, r) → Conforms s v
  members : ∀ (fields : List (String × Shape)) (read members : List (String × Value))
    (first : Bool) (cs r : List Char), SoundFields fields → Declared fields read →
    scanMembers fuel fields read first cs = .ok (members, r) → Declared fields members
  fields : ∀ (name : String) (count : Nat) (fields : List (String × Shape)) (index : Nat)
    (cs r : List Char) (members : List (String × Value)), SoundFields fields →
    scanFields fuel name count fields index cs = .ok (members, r) → ConformingFields fields members

namespace Yields

variable {fuel : Nat}

theorem value_succ (h : Yields fuel) (s : Shape) (cs r : List Char) (v : Value) (hs : s.IsSound)
    (hread : scanShape (fuel + 1) s cs = .ok (v, r)) : Conforms s v := by
  unfold scanShape at hread
  dsimp only at hread
  split at hread
  · cases hread
  cases s with
  | boolean =>
      unfold Conforms
      exact scanBoolean_conforms hread
  | integer w name =>
      unfold Conforms
      exact scanInteger_conforms hread
  | text =>
      obtain ⟨⟨t, r'⟩, -, hread⟩ := ok_of_bind hread
      cases hread
      unfold Conforms
      exact ⟨t, rfl⟩
  | optional s =>
      unfold Shape.IsSound at hs
      unfold Conforms
      dsimp only at hread
      split at hread
      · split at hread
        · cases hread
          exact .inl rfl
        · cases hread
      · exact .inr (h.value s _ r v hs.2 hread)
  | choice names payload => exact scanChoice_conforms hread
  | record name fields =>
      unfold Shape.IsSound at hs
      unfold Conforms
      dsimp only at hread
      split at hread
      · -- an object: the members in any order, then put into the declared one
        obtain ⟨⟨read, r'⟩, hmembers, hread⟩ := ok_of_bind hread
        obtain ⟨members, hcollect, hread⟩ := ok_of_bind hread
        cases hread
        refine ⟨members, rfl, conforming_collectFields
          (h.members fields [] read true _ _ hs.2 (fun p hp => by cases hp) hmembers) ?_ hcollect⟩
        exact fun p hp => lookup_eq_some_of_mem hs.1 hp
      · -- an array: the values of the fields, one after the other
        obtain ⟨⟨items, r'⟩, hfields, hread⟩ := ok_of_bind hread
        dsimp only at hread
        split at hread
        · cases hread
          exact ⟨items, rfl, h.fields name _ fields 0 _ _ items hs.2 hfields⟩
        · cases hread
      · cases hread

theorem members_succ (h : Yields fuel) (fields : List (String × Shape))
    (read members : List (String × Value)) (first : Bool) (cs r : List Char)
    (hs : SoundFields fields) (hd : Declared fields read)
    (hread : scanMembers (fuel + 1) fields read first cs = .ok (members, r)) :
    Declared fields members := by
  unfold scanMembers at hread
  -- a member is read in the same way behind a comma and at the start
  extract_lets key at hread
  have hkey : ∀ cs, key cs = .ok (members, r) → Declared fields members := by
    intro cs hcs
    dsimp only [key] at hcs
    split at hcs
    · obtain ⟨⟨name, r'⟩, -, hcs⟩ := ok_of_bind hcs
      dsimp only at hcs
      split at hcs
      · split at hcs
        · obtain ⟨rest, -, hcs⟩ := ok_of_bind hcs
          exact h.members fields read members false _ r hs hd hcs
        · cases hcs
      next s hlookup =>
        split at hcs
        · cases hcs
        split at hcs
        · obtain ⟨⟨v, r''⟩, hv, hcs⟩ := ok_of_bind hcs
          have hsound : s.IsSound := hs.of_mem (mem_of_lookup hlookup)
          exact h.members fields _ members false _ r hs
            (hd.append hlookup hsound (h.value s _ _ v hsound hv)) hcs
        · cases hcs
    · cases hcs
  split at hread
  · cases hread
    exact hd
  · split at hread
    · cases hread
    · exact hkey _ hread
  · split at hread
    · exact hkey _ hread
    · cases hread

theorem fields_succ (h : Yields fuel) (name : String) (count : Nat)
    (fields : List (String × Shape)) (index : Nat) (cs r : List Char)
    (members : List (String × Value)) (hs : SoundFields fields)
    (hread : scanFields (fuel + 1) name count fields index cs = .ok (members, r)) :
    ConformingFields fields members := by
  cases fields with
  | nil =>
      unfold scanFields at hread
      cases hread
      rfl
  | cons f rest =>
      obtain ⟨field, s⟩ := f
      unfold SoundFields at hs
      unfold scanFields at hread
      extract_lets item at hread
      -- an item is read in the same way behind a comma and at the start
      have hitem : ∀ cs, item cs = .ok (members, r) →
          ConformingFields ((field, s) :: rest) members := by
        intro cs hcs
        dsimp only [item] at hcs
        obtain ⟨⟨v, r'⟩, hv, hcs⟩ := ok_of_bind hcs
        obtain ⟨⟨vs, r''⟩, hvs, hcs⟩ := ok_of_bind hcs
        cases hcs
        exact ⟨v, vs, rfl, h.value s _ _ v hs.1 hv, h.fields name count rest _ _ _ vs hs.2 hvs⟩
      split at hread
      · cases hread
      · split at hread
        · exact hitem _ hread
        · split at hread
          · cases hread
          · cases hread
          · exact hitem _ hread
      · cases hread
      · split at hread
        · exact hitem _ hread
        · cases hread

end Yields

theorem yields (fuel : Nat) : Yields fuel := by
  induction fuel with
  | zero =>
      constructor
      case value =>
        intro s cs r v _ h
        cases h
      case members =>
        intro fields read members first cs r _ _ h
        cases h
      case fields =>
        intro name count fields index cs r members _ h
        cases h
  | succ fuel ih => exact ⟨ih.value_succ, ih.members_succ, ih.fields_succ⟩

/-- **WHAT IS READ CONFORMS** to the shape it was read as. -/
theorem Shape.conforms_of_read {s : Shape} (hs : s.IsSound) {text : String} {v : Value}
    (h : s.read text = .ok v) : Conforms s v := by
  unfold Shape.read at h
  obtain ⟨⟨u, r⟩, hscan, h⟩ := ok_of_bind h
  dsimp only at h
  split at h
  · cases h
    exact (yields _).value s _ _ _ hs hscan
  · cases h

end Admission.Json
