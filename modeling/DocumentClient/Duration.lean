import DocumentClient.Text.Numeral

/-!
# DocumentClient.Duration

**Lengths of time in whole nanoseconds**, up to the largest that a word of 64 bits of seconds and a
nanosecond count below one second can hold (`Duration.longest`).

* Arithmetic either stays at that bound (`saturatingMul`) or reports that it was passed (`add?`).
  Which of the two is used is a matter of the caller, and makes a difference in the waits of a
  policy.
* `Duration.text` is how a duration is shown: in the largest unit of which it is at least one,
  with a fraction that has no zeros at its end.
* A timer counts milliseconds, and one that has begun counts in full (`Duration.ticks`). It runs
  for thirty years at most, however long it is set; a wait that is longer ends then.
-/

namespace DocumentClient

/-- A length of time. -/
structure Duration where
  /-- The length in nanoseconds. -/
  nanos : Nat
  deriving DecidableEq, Repr, Inhabited

namespace Duration

/-- The nanoseconds of one millisecond. -/
def nanosPerMilli : Nat := 1000000

/-- The nanoseconds of one second. -/
def nanosPerSecond : Nat := 1000000000

/-- No time at all. -/
def zero : Duration := ⟨0⟩

/-- The longest duration. -/
def longest : Duration := ⟨(Word.max64 + 1) * nanosPerSecond - 1⟩

/-- A duration of whole milliseconds. -/
def ofMillis (n : Nat) : Duration := ⟨n * nanosPerMilli⟩

/-- A duration of whole seconds. -/
def ofSeconds (n : Nat) : Duration := ⟨n * nanosPerSecond⟩

/-- A duration of seconds and nanoseconds. -/
def ofParts (seconds nanos : Nat) : Duration := ⟨seconds * nanosPerSecond + nanos⟩

/-- The whole seconds. -/
def seconds (d : Duration) : Nat := d.nanos / nanosPerSecond

/-- The nanoseconds beyond the whole seconds. -/
def subsecondNanos (d : Duration) : Nat := d.nanos % nanosPerSecond

/-- The whole milliseconds. -/
def millis (d : Duration) : Nat := d.nanos / nanosPerMilli

/-- The shorter of two durations. -/
def min (a b : Duration) : Duration := if a.nanos ≤ b.nanos then a else b

/-- A multiple of a duration, or the longest duration if the multiple exceeds it. -/
def saturatingMul (d : Duration) (factor : Nat) : Duration :=
  ⟨Nat.min (d.nanos * factor) longest.nanos⟩

/-- The sum of two durations, if it does not exceed the longest one. -/
def add? (a b : Duration) : Option Duration :=
  if a.nanos + b.nanos ≤ longest.nanos then some ⟨a.nanos + b.nanos⟩ else none

/-! ## Text -/

/-- A number of units with its fraction, which is given as a whole number of `places` digits;
zeros at the end of the fraction are dropped. -/
def unitText (whole fraction places : Nat) (unit : String) : String :=
  let digits := Text.natChars fraction
  let padded := List.replicate (places - digits.length) '0' ++ digits
  let kept := (padded.reverse.dropWhile (· = '0')).reverse
  let point := if kept.isEmpty then [] else '.' :: kept
  String.ofList (Text.natChars whole ++ point) ++ unit

/-- The text of a duration, in the largest unit of which it is at least one: seconds,
milliseconds, microseconds or nanoseconds. -/
def text (d : Duration) : String :=
  if nanosPerSecond ≤ d.nanos then unitText d.seconds d.subsecondNanos 9 "s"
  else if nanosPerMilli ≤ d.nanos then unitText d.millis (d.nanos % nanosPerMilli) 6 "ms"
  else if 1000 ≤ d.nanos then unitText (d.nanos / 1000) (d.nanos % 1000) 3 "µs"
  else unitText d.nanos 0 0 "ns"

/-! ## Timers -/

/-- The longest time that a timer runs: thirty years of 365 days. -/
def longestTimer : Duration := ofSeconds (30 * 365 * 24 * 60 * 60)

/-- How long a timer set for a duration runs. -/
def timed (d : Duration) : Duration := d.min longestTimer

/-- How many milliseconds a timer set for a duration runs. The clock ticks in milliseconds, so
a started one counts in full. -/
def ticks (d : Duration) : Nat :=
  (d.timed.nanos + (nanosPerMilli - 1)) / nanosPerMilli

end Duration

end DocumentClient
