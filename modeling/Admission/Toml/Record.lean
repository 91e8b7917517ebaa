/-
  Admission.Toml.Record — reading a table as a record with named fields.

  The keys of a table are looked at in the order of the text; those that name no field are skipped,
  and the first value that does not fit decides.  Every field may be absent.  A record may also be
  given as an array of all its fields in order, whose further items are not looked at.
-/
import Admission.Numeral
import Admission.Toml.Value

namespace Admission.Toml

/-! ## §1. Values of a kind. -/

/-- Reads an integer of a width. -/
def Value.asInteger (width : Width) (name : String) : Value → Except Mismatch Int
  | .integer n => if width.contains n then .ok n else .error (.range (.integer n) name)
  | v => .error (.kind v.found name)

def Value.asWord16 (v : Value) : Except Mismatch UInt16 := do
  return .ofNat (← v.asInteger .word16 "u16").toNat

def Value.asWord64 (v : Value) : Except Mismatch UInt64 := do
  return .ofNat (← v.asInteger .word64 "u64").toNat

def Value.asInt64 (v : Value) : Except Mismatch Int64 := do
  return .ofInt (← v.asInteger .int64 "i64")

def Value.asText : Value → Except Mismatch String
  | .text s => .ok s
  | v => .error (.kind v.found "a string")

def Value.asBoolean : Value → Except Mismatch Bool
  | .boolean b => .ok b
  | v => .error (.kind v.found "a boolean")

/-! ## §2. Records. -/

/-- A field of a record: its key, and what its value puts into the record. -/
structure Field (σ : Type) where
  name : String
  put : Value → σ → Except Mismatch σ

/-- Puts the entries of a table into a record. -/
def putEntries {σ : Type} (fields : List (Field σ)) : List (String × Value) → σ → Except Mismatch σ
  | [], s => .ok s
  | (key, v) :: rest, s =>
    match fields.find? (·.name == key) with
    | some f => do putEntries fields rest (← f.put v s)
    | none => putEntries fields rest s

/-- Puts the items of an array into the fields of a record, in order; `count` fields came before. -/
def putItems {σ : Type} (expected : String) : Nat → List (Field σ) → List Value → σ →
    Except Mismatch σ
  | _, [], _, s => .ok s
  | count, _ :: _, [], _ => .error (.length count expected)
  | count, f :: fields, v :: items, s => do
    putItems expected (count + 1) fields items (← f.put v s)

/-- Puts a value into a record with the fields given; `name` is what the record is called. -/
def Value.putRecord {σ : Type} (name : String) (fields : List (Field σ)) (v : Value) (s : σ) :
    Except Mismatch σ :=
  match v with
  | .table entries => putEntries fields entries s
  | .moment => .ok s
  | .array items => putItems (Mismatch.recordLength name fields.length) 0 fields items s
  | v => .error (.kind v.found ("struct " ++ name))

end Admission.Toml
