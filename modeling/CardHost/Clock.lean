/-!
# Time

Instants and durations, both in whole milliseconds. The clock is finite: it
counts seconds in a signed 64-bit word, so not every sum of an instant and a
duration is an instant. `after?` is the only way to add the two, and it says
when there is no such instant.

## Main definitions

* `Instant`, `Duration`: Milliseconds.
* `Duration.allowed`: The time a client allows for a request.
* `Clock.limit`: The end of the clock.
* `Clock.after?`: The instant a duration later.
* `Clock.left`: Time left until an instant, zero when it has passed.
-/

namespace CardHost

/-- A point in time, in milliseconds on the clock. -/
abbrev Instant := Nat

/-- A length of time in milliseconds. -/
abbrev Duration := Nat

namespace Duration

/-- One second. -/
def second : Duration := 1000

/-- The longest length of time there is, `2 ^ 64` seconds less a moment. -/
def longest : Duration := UInt64.size * second - 1

/-- How long a request waits that is to wait for ever: 365 days. -/
def indefinite : Duration := 365 * 24 * 60 * 60 * second

/-- The time a client allows for a request; zero allows any. -/
def allowed (milliseconds : UInt32) : Option Duration :=
  if milliseconds = 0 then none else some milliseconds.toNat

end Duration

namespace Clock

/-- The end of the clock: no instant is this late. -/
def limit : Instant := UInt64.size / 2 * Duration.second

/-- The instant a duration after another, if the clock goes that far. -/
def after? (now : Instant) (duration : Duration) : Option Instant :=
  if now + duration < limit then some (now + duration) else none

/-- Time left until an instant, zero when it has passed. -/
def left (now deadline : Instant) : Duration := deadline - now

theorem after?_eq_some_iff (now : Instant) (duration : Duration) (t : Instant) :
    after? now duration = some t ↔ t = now + duration ∧ t < limit := by
  unfold after?
  split
  · next h =>
      constructor
      · rintro ⟨⟩
        exact ⟨rfl, h⟩
      · rintro ⟨rfl, _⟩
        rfl
  · next h =>
      constructor
      · rintro ⟨⟩
      · rintro ⟨rfl, ht⟩
        exact absurd ht h

end Clock

end CardHost
