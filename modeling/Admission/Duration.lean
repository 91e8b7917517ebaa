/-
  Admission.Duration — spans of time, in whole nanoseconds, and how they are written.

  A span is an exact number of nanoseconds.  Its text picks the LARGEST unit with a non-zero whole
  part (`s`, `ms`, `µs`, `ns`) and then writes the exact decimal fraction, without trailing zeros.
-/

namespace Admission

/-! ## §1. Spans. -/

/-- A span of time, or an instant counted from the start of the clock. -/
structure Duration where
  /-- The whole span, in nanoseconds. -/
  nanos : Nat
deriving DecidableEq, Inhabited

namespace Duration

/-- The empty span. -/
def zero : Duration := ⟨0⟩

/-- `n` milliseconds. -/
def ofMillis (n : Nat) : Duration := ⟨1000000 * n⟩

/-- `n` seconds. -/
def ofSecs (n : Nat) : Duration := ⟨n * 1000000000⟩

/-- `secs` seconds and `nanos` nanoseconds. -/
def ofParts (secs nanos : Nat) : Duration := ⟨secs * 1000000000 + nanos⟩

/-- The whole seconds of a span, rounded down. -/
def wholeSecs (d : Duration) : Nat := d.nanos / 1000000000

/-- What is left of a span after its whole seconds, in nanoseconds. -/
def subsecNanos (d : Duration) : Nat := d.nanos % 1000000000

/-- The whole milliseconds of a span, rounded down. -/
def wholeMillis (d : Duration) : Nat := d.nanos / 1000000

/-- A later instant: `d` after `s`. -/
def add (s d : Duration) : Duration := ⟨s.nanos + d.nanos⟩

/-- The span from `s` to `d`, empty when `d` comes first. -/
def sub (d s : Duration) : Duration := ⟨d.nanos - s.nanos⟩

instance : Add Duration := ⟨add⟩
instance : Sub Duration := ⟨sub⟩
instance : LE Duration := ⟨fun a b => a.nanos ≤ b.nanos⟩
instance : LT Duration := ⟨fun a b => a.nanos < b.nanos⟩
instance (a b : Duration) : Decidable (a ≤ b) := inferInstanceAs (Decidable (a.nanos ≤ b.nanos))
instance (a b : Duration) : Decidable (a < b) := inferInstanceAs (Decidable (a.nanos < b.nanos))

/-- The earlier of two instants. -/
def earlier (a b : Duration) : Duration := if a < b then a else b

@[simp] theorem nanos_add (a b : Duration) : (a + b).nanos = a.nanos + b.nanos := rfl

@[simp] theorem nanos_sub (a b : Duration) : (a - b).nanos = a.nanos - b.nanos := rfl

theorem le_def {a b : Duration} : a ≤ b ↔ a.nanos ≤ b.nanos := Iff.rfl

theorem lt_def {a b : Duration} : a < b ↔ a.nanos < b.nanos := Iff.rfl

theorem nanos_earlier (a b : Duration) : (earlier a b).nanos = min a.nanos b.nanos := by
  unfold earlier
  split
  · rename_i h; rw [lt_def] at h; omega
  · rename_i h; rw [lt_def] at h; omega

theorem wholeSecs_ofSecs (n : Nat) : (ofSecs n).wholeSecs = n := by
  simp [ofSecs, wholeSecs]

/-! ## §2. The text of a span. -/

/-- The decimals of `frac`, a count of `10 ^ places`-ths, without trailing zeros. -/
def fractionDigits (places frac : Nat) : List Char :=
  let digits := Nat.toDigits 10 frac
  let padded := List.replicate (places - digits.length) '0' ++ digits
  (padded.reverse.dropWhile (· == '0')).reverse

/-- `n` counted in units of `10 ^ places`, as a decimal with the unit's name. -/
def renderIn (places : Nat) (unit : String) (n : Nat) : String :=
  let whole := n / Nat.pow 10 places
  let frac := n % Nat.pow 10 places
  if frac = 0 then toString whole ++ unit
  else toString whole ++ "." ++ String.ofList (fractionDigits places frac) ++ unit

/-- The text of a span: `1.5s`, `999ms`, `1.000001ms`, `1.5µs`, `0ns`. -/
def render (d : Duration) : String :=
  if 1000000000 ≤ d.nanos then renderIn 9 "s" d.nanos
  else if 1000000 ≤ d.nanos then renderIn 6 "ms" d.nanos
  else if 1000 ≤ d.nanos then renderIn 3 "µs" d.nanos
  else renderIn 0 "ns" d.nanos

end Duration

end Admission
