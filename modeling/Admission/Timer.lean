/-
  Admission.Timer — when a timer ends.

  A timer is set for an instant, or for a span from now on.  No span is longer than THIRTY YEARS to a
  timer: one that is ends after thirty years, however much longer it was meant to be, and so does one
  whose end no clock can count.

  Timers count whole milliseconds, and an instant between two of them is put off to the later one.
  The clock of a session moves in whole milliseconds as well; where it stands, an instant has come
  exactly when the millisecond has to which it was put off (`due_iff_tick`).  So instants are compared
  as they are.
-/
import Admission.Duration

namespace Admission.Timer

/-- The longest span that a timer is set for: thirty years. -/
def farAway : Duration := .ofSecs (86400 * 365 * 30)

/-- The span that a timer counts which is set for `d`. -/
def span (d : Duration) : Duration := d.earlier farAway

/-- The instant at which a timer ends that is set for `d` from `now` on. -/
def after (now d : Duration) : Duration := now + span d

/-- A timer for the instant `t` has ended. -/
abbrev Due (t now : Duration) : Prop := t ≤ now

/-- The millisecond to which a timer puts off an instant. -/
def tick (t : Duration) : Nat := (t.nanos + 999999) / 1000000

/-- On a clock of whole milliseconds, an instant has come when its millisecond has. -/
theorem due_iff_tick (t : Duration) (n : Nat) : Due t (.ofMillis n) ↔ tick t ≤ n := by
  show t.nanos ≤ 1000000 * n ↔ (t.nanos + 999999) / 1000000 ≤ n
  omega

/-! ## What a span comes to. -/

theorem nanos_span (d : Duration) : (span d).nanos = min d.nanos farAway.nanos :=
  Duration.nanos_earlier d farAway

/-- A span is over when its end has come, or, where it is too long, when thirty years are over. -/
theorem due_after_iff (since d now : Duration) :
    Due (after since d) now ↔ since + d ≤ now ∨ (farAway < d ∧ since + farAway ≤ now) := by
  have hspan := nanos_span d
  show since.nanos + (span d).nanos ≤ now.nanos ↔ since.nanos + d.nanos ≤ now.nanos
    ∨ (farAway.nanos < d.nanos ∧ since.nanos + farAway.nanos ≤ now.nanos)
  omega

/-- Only an empty span is over at once. -/
theorem due_after_self_iff (now d : Duration) : Due (after now d) now ↔ d.nanos = 0 := by
  have hspan := nanos_span d
  have hfar : 0 < farAway.nanos := by decide
  show now.nanos + (span d).nanos ≤ now.nanos ↔ d.nanos = 0
  omega

end Admission.Timer
