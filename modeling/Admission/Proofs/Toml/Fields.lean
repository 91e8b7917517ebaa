/-
  Admission.Proofs.Toml.Fields — what a record has in a field once it was read.

  A record is read from a table, key by key, or from an array, item by item.  What it then has in one
  field is what the last entry of that key says, or the item in the place of that field; if there is
  none, the field is as it was.  A field list SETTLES a part of a record under a name if every field
  of that name puts there what its value says, and every other leaves it alone.

  Main results:
    * `Settles.putEntries` — the last entry of a key decides;
    * `Settles.putItems` — the item in the place of the field decides;
    * `Settles.putRecord` — **what a record has in a field**;
    * `putRecord_keeps` — what no field touches stays.
-/
import Admission.Toml.Record

namespace Admission.Toml

/-! ## §1. What is said of a field. -/

section Said

variable {β : Type}

/-- What the entries under a key say; the last that says something counts. -/
def saidUnder (name : String) (tells : Value → Option β) (entries : List (String × Value)) :
    Option β :=
  entries.reverse.findSome? fun (key, v) => if key = name then tells v else none

/-- What a record says of one of its fields: in a table under its key, in an array at its place. -/
def Value.saidOf (names : List String) (name : String) (tells : Value → Option β) :
    Value → Option β
  | .table entries => saidUnder name tells entries
  | .array items => items[names.idxOf name]?.bind tells
  | _ => none

theorem saidUnder_cons (name : String) (tells : Value → Option β) (key : String) (v : Value)
    (rest : List (String × Value)) : saidUnder name tells ((key, v) :: rest)
      = (saidUnder name tells rest).or (if key = name then tells v else none) := by
  unfold saidUnder
  rw [List.reverse_cons, List.findSome?_append]
  simp only [List.findSome?_cons, List.findSome?_nil]
  split <;> simp_all

end Said

/-! ## §2. Fields that settle a part of a record. -/

variable {σ β : Type}

/-- **WHAT FIELDS SETTLE UNDER A NAME.** -/
structure Settles (fields : List (Field σ)) (name : String) (part : σ → Option β)
    (tells : Value → Option β) : Prop where
  put : ∀ f ∈ fields, ∀ v s s', f.put v s = .ok s' →
    part s' = (if f.name = name then tells v else none).or (part s)
  known : name ∈ fields.map (·.name)

/-- A value that is read and then put in its place. -/
theorem exists_of_put {α : Type} {r : Except Mismatch α} {g : α → σ} {s : σ}
    (h : (do return g (← r)) = Except.ok s) : ∃ a, r = .ok a ∧ g a = s := by
  cases r with
  | error e => cases h
  | ok a => exact ⟨a, rfl, Except.ok.inj h⟩

theorem exists_of_bind_ok {α : Type} {r : Except Mismatch α} {g : α → Except Mismatch σ} {s : σ}
    (h : (do g (← r)) = Except.ok s) : ∃ a, r = .ok a ∧ g a = .ok s := by
  cases r with
  | error e => cases h
  | ok a => exact ⟨a, rfl, h⟩

section Tables

variable {fields : List (Field σ)} {name : String} {part : σ → Option β} {tells : Value → Option β}

/-- **THE LAST ENTRY OF A KEY DECIDES.** -/
theorem Settles.putEntries (h : Settles fields name part tells) :
    ∀ {entries : List (String × Value)} {s s' : σ}, putEntries fields entries s = .ok s' →
      part s' = (saidUnder name tells entries).or (part s)
  | [], s, s', he => by
      cases he
      rfl
  | (key, v) :: rest, s, s', he => by
      rw [saidUnder_cons, Option.or_assoc]
      unfold Toml.putEntries at he
      split at he
      next f hf =>
        obtain ⟨s₁, hput, hrest⟩ := exists_of_bind_ok he
        have hkey : f.name = key := by simpa using List.find?_some hf
        rw [h.putEntries hrest, h.put f (List.mem_of_find?_eq_some hf) v s s₁ hput, hkey]
      next hnone =>
        -- the key names no field, and so not this one
        have hne : key ≠ name := by
          rintro rfl
          obtain ⟨f, hf, hfn⟩ := List.mem_map.mp h.known
          exact absurd hfn (by simpa using List.find?_eq_none.mp hnone f hf)
        rw [h.putEntries he, if_neg hne, Option.none_or]

/-- Whatever every field keeps, the entries of a table keep. -/
theorem putEntries_keeps {P : σ → Prop}
    (h : ∀ f ∈ fields, ∀ v s s', P s → f.put v s = .ok s' → P s') :
    ∀ {entries : List (String × Value)} {s s' : σ}, P s → putEntries fields entries s = .ok s' →
      P s'
  | [], s, s', hp, he => by
      cases he
      exact hp
  | (key, v) :: rest, s, s', hp, he => by
      unfold putEntries at he
      split at he
      next f hf =>
        obtain ⟨s₁, hput, hrest⟩ := exists_of_bind_ok he
        exact putEntries_keeps h (h f (List.mem_of_find?_eq_some hf) v s s₁ hp hput) hrest
      next => exact putEntries_keeps h hp he

end Tables

/-! ## §3. Arrays. -/

/-- Whatever every field keeps, the items of an array keep. -/
theorem putItems_keeps {P : σ → Prop} (expected : String) :
    ∀ {fields : List (Field σ)} (_ : ∀ f ∈ fields, ∀ v s s', P s → f.put v s = .ok s' → P s')
      {count : Nat} {items : List Value} {s s' : σ}, P s →
      putItems expected count fields items s = .ok s' → P s'
  | [], _, _, _, s, s', hp, he => by
      unfold putItems at he
      cases he
      exact hp
  | f :: fields, _, _, [], s, s', _, he => by cases he
  | f :: fields, h, _, v :: items, s, s', hp, he => by
      unfold putItems at he
      obtain ⟨s₁, hput, hrest⟩ := exists_of_bind_ok he
      exact putItems_keeps expected (fun f' hf' => h f' (List.mem_cons_of_mem _ hf'))
        (h f List.mem_cons_self v s s₁ hp hput) hrest

/-- **THE ITEM IN THE PLACE OF THE FIELD DECIDES.** -/
theorem Settles.putItems {name : String} {part : σ → Option β} {tells : Value → Option β}
    (expected : String) :
    ∀ {fields : List (Field σ)} (_ : Settles fields name part tells)
      (_ : (fields.map (·.name)).Nodup) {count : Nat} {items : List Value} {s s' : σ},
      putItems expected count fields items s = .ok s' →
      part s' = (items[(fields.map (·.name)).idxOf name]?.bind tells).or (part s)
  | [], h, _, _, _, _, _, _ => by
      have hk := h.known
      cases hk
  | f :: fields, _, _, _, [], _, _, he => by cases he
  | f :: fields, h, hn, count, v :: items, s, s', he => by
      unfold Toml.putItems at he
      obtain ⟨s₁, hput, hrest⟩ := exists_of_bind_ok he
      have hfirst := h.put f List.mem_cons_self v s s₁ hput
      obtain ⟨hnot, hn'⟩ := List.nodup_cons.mp hn
      have hlater : ∀ f' ∈ fields, ∀ v s s', f'.put v s = .ok s' →
          part s' = (if f'.name = name then tells v else none).or (part s) :=
        fun f' hf' => h.put f' (List.mem_cons_of_mem _ hf')
      by_cases hname : f.name = name
      · -- no later field has this name
        have hkeep : part s' = part s₁ := by
          refine putItems_keeps (P := fun s => part s = part s₁) expected ?_ rfl hrest
          intro f' hf' v' t t' ht hput'
          have hne : f'.name ≠ name := fun he => hnot (by
            show f.name ∈ fields.map (·.name)
            rw [hname, ← he]
            exact List.mem_map_of_mem hf')
          rw [hlater f' hf' v' t t' hput', if_neg hne, Option.none_or, ht]
        rw [List.map_cons, hname, List.idxOf_cons_self, hkeep, hfirst, if_pos hname]
        rfl
      · have hknown : name ∈ fields.map (·.name) := by
          rcases List.mem_cons.mp h.known with he | hm
          · exact absurd he.symm hname
          · exact hm
        have hplace : (f.name :: fields.map (·.name)).idxOf name
            = (fields.map (·.name)).idxOf name + 1 := by
          rw [List.idxOf_cons, beq_false_of_ne hname, cond_false]
        rw [Settles.putItems expected ⟨hlater, hknown⟩ hn' hrest, hfirst, if_neg hname,
          Option.none_or, List.map_cons, hplace, List.getElem?_cons_succ]

/-! ## §4. Records. -/

section Records

variable {fields : List (Field σ)} {name : String} {part : σ → Option β} {tells : Value → Option β}

/-- **WHAT A RECORD HAS IN A FIELD** once it was read. -/
theorem Settles.putRecord (h : Settles fields name part tells) (hn : (fields.map (·.name)).Nodup)
    {record : String} {v : Value} {s s' : σ} (he : v.putRecord record fields s = .ok s') :
    part s' = (v.saidOf (fields.map (·.name)) name tells).or (part s) := by
  unfold Value.putRecord at he
  split at he
  next entries => exact h.putEntries he
  next =>
    cases he
    rfl
  next items => exact h.putItems _ hn he
  next => cases he

/-- What no field touches stays. -/
theorem putRecord_keeps {P : σ → Prop}
    (h : ∀ f ∈ fields, ∀ v s s', P s → f.put v s = .ok s' → P s') {record : String} {v : Value}
    {s s' : σ} (hp : P s) (he : v.putRecord record fields s = .ok s') : P s' := by
  unfold Value.putRecord at he
  split at he
  next entries => exact putEntries_keeps h hp he
  next =>
    cases he
    exact hp
  next items => exact putItems_keeps _ h hp he
  next => cases he

end Records

end Admission.Toml
