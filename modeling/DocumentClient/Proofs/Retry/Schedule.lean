import DocumentClient.Proofs.Retry.Policies
import DocumentClient.Retry.Script
import Mathlib.Algebra.BigOperators.Intervals
import Mathlib.Order.Bounds.Basic

/-!
# DocumentClient.Proofs.Retry.Schedule

**The exact course of a run that nobody cancels.** A `Rehearsal` is a call that is told how long
each attempt takes and what it gives, made under one of the two policies of the client with nothing
added at random; all times are whole milliseconds. From these numbers alone the course of the run is
computed: how long an attempt is waited for, what becomes of it, how long the wait after it is, and
when the next one starts.

* `Rehearsal.spent`, `result`, `pause` and `start` are the schedule, as functions of the numbers.
  `Rehearsal.KeepsSchedule` says that a run takes that course.
* The number that a timer set for a time really runs is left open there: with timers that run for
  as long as they are set the schedule is not kept, because no timer runs for more than thirty
  years (`longHint_not_keepsSchedule`); with such timers it always is (`keepsSchedule`).

## Proof shape

* `attempt_eq` and `wait_eq` are the step: an attempt leads from the moment before it to the one
  after it, and a wait from there to the moment before the next one.
* `run_eq_runFrom` is the induction over the attempts before the last one, `runFrom_of_last` its
  end.
* Durations are nanoseconds and the schedule is in milliseconds. `ticks_eq` and its neighbours
  change from one to the other, and nothing after them mentions nanoseconds.
-/

namespace DocumentClient

/-! ### Timers in milliseconds -/

namespace Duration

/-- The milliseconds of a duration, one that has begun being counted in full. -/
def millisBegun (d : Duration) : Nat := (d.nanos + (nanosPerMilli - 1)) / nanosPerMilli

/-- The longest time in milliseconds that a timer runs: thirty years of 365 days. -/
def longestTimerMillis : Nat := 30 * 365 * 24 * 60 * 60 * 1000

@[simp] theorem millisBegun_ofMillis (n : Nat) : (ofMillis n).millisBegun = n := by
  simp only [millisBegun, ofMillis, nanosPerMilli]
  omega

/-- A timer runs for the milliseconds that have begun, up to the longest time. -/
theorem ticks_eq (d : Duration) : d.ticks = Nat.min d.millisBegun longestTimerMillis := by
  have longest : longestTimer.nanos = 946080000000 * 1000000 := rfl
  have capped : d.timed.nanos = Nat.min d.nanos (946080000000 * 1000000) := by
    simp only [timed, Duration.min, longest]
    split
    · exact (Nat.min_eq_left ‹_›).symm
    · exact (Nat.min_eq_right (Nat.le_of_not_le ‹_›)).symm
  rw [ticks, capped]
  change (Min.min d.nanos (946080000000 * 1000000) + 999999) / 1000000 =
    Min.min ((d.nanos + 999999) / 1000000) 946080000000
  omega

/-- A multiple that exceeds the longest duration exceeds the longest timer all the same. -/
theorem ticks_saturatingMul_ofMillis (n factor : Nat) :
    ((ofMillis n).saturatingMul factor).ticks = Nat.min (n * factor) longestTimerMillis := by
  have product : n * 1000000 * factor = n * factor * 1000000 := Nat.mul_right_comm n 1000000 factor
  rw [ticks_eq]
  change Min.min ((Min.min (n * 1000000 * factor) 18446744073709551615999999999 + 999999) / 1000000)
    946080000000 = Min.min (n * factor) 946080000000
  rw [product]
  omega

/-- The shorter of two durations is that of fewer milliseconds. -/
theorem min_ofMillis (m n : Nat) : (ofMillis m).min (ofMillis n) = ofMillis (Nat.min m n) := by
  unfold Duration.min
  split
  · have shorter : m ≤ n := Nat.le_of_mul_le_mul_right ‹_› (by decide : 0 < nanosPerMilli)
    exact congrArg ofMillis (Nat.min_eq_left shorter).symm
  · have longer : n ≤ m := by
      by_contra h
      exact absurd (Nat.mul_le_mul_right nanosPerMilli (Nat.le_of_not_le h)) ‹_›
    exact congrArg ofMillis (Nat.min_eq_right longer).symm

end Duration

namespace Retry

open DocumentClient.Store

variable {α : Type}

namespace Rehearsal

/-! ### The schedule -/

variable (timer : Nat → Nat) (r : Rehearsal α)

/-- How long attempt `n` is waited for. -/
def spent (n : Nat) : Nat := (r.after n).elim (timer r.bound) (Nat.min · (timer r.bound))

/-- What becomes of attempt `n`: its answer if that is in time, else a failure. -/
def result (n : Nat) : Except Failure α :=
  if (r.after n).any (· ≤ timer r.bound) then r.outcome n
  else .error (timedOut r.operation (.ofMillis r.bound))

/-- How long the wait before repetition `i` is, after what became of an attempt: as long as the
store asked for when it took no more calls, else the base delay, doubled with every repetition up
to the sixteenth. -/
def pause (i : Nat) : Except Failure α → Nat
  | .error (.rateLimited _ (some hint)) => timer hint.millisBegun
  | _ => timer (r.base * 2 ^ Nat.min i 16)

/-- After how long attempt `n` starts: every attempt before it was waited for, and every one was
followed by a pause. -/
def start (n : Nat) : Nat :=
  ∑ i ∈ Finset.range n, (r.spent timer i + r.pause timer (i + 1) (r.result timer i))

/-- Does the run end with attempt `n`? It does if the attempt succeeds, if no rule accepts its
failure, and if no repetition is left. -/
def IsLast (n : Nat) : Prop :=
  (∀ failure, r.result timer n = .error failure → r.policy.ruleFor? failure = none) ∨
    n = r.maxRetries

/-- The moment before attempt `n`: the attempts so far have been noted. -/
def before (now : Nat) (draws : List Nat) (n : Nat) : Moment (List Nat) :=
  ⟨now + r.start timer n, ((List.range n).map (now + r.start timer ·)).reverse, draws⟩

/-- The moment after attempt `n`. -/
def afterwards (now : Nat) (draws : List Nat) (n : Nat) : Moment (List Nat) :=
  ⟨now + r.start timer n + r.spent timer n,
    ((List.range (n + 1)).map (now + r.start timer ·)).reverse, draws⟩

/-- The run takes the course that the numbers give: it ends with the first attempt that can be
the last, what became of that is its outcome, and each attempt up to it started when it should,
as did the end of the run. -/
def KeepsSchedule (now : Nat) (draws : List Nat) : Prop :=
  ∃ k, IsLeast {n | r.IsLast timer n} k ∧
    r.run now draws = (r.result timer k, r.afterwards timer now draws k)

/-! ### The run keeps to it -/

/-- How long a timer that is set for some milliseconds runs. -/
def cappedTimer (ms : Nat) : Nat := Nat.min ms Duration.longestTimerMillis

theorem attemptTimeout_eq (r : Rehearsal α) :
    r.request.attemptTimeout r.policy.attemptTimeout = .ofMillis r.bound := by
  rw [policy_attemptTimeout]
  unfold request bound Request.attemptTimeout
  cases r.override with
  | none => rfl
  | some timeout => exact Duration.min_ofMillis timeout r.ceiling

theorem ticks_bound (r : Rehearsal α) :
    (Duration.ofMillis r.bound).ticks = cappedTimer r.bound := by
  rw [Duration.ticks_eq, Duration.millisBegun_ofMillis]
  rfl

theorem policy_usual (r : Rehearsal α) : r.policy.Usual := by
  unfold Policy.Usual policy
  split
  · exact .inr rfl
  · exact .inl rfl

theorem pause_of_hint (r : Rehearsal α) (timer : Nat → Nat) (i : Nat) {failure : Failure}
    {hint : Duration} (h : failure.hint? = some hint) :
    r.pause timer i (.error failure) = timer hint.millisBegun := by
  cases failure <;> cases h
  rfl

theorem pause_of_noHint (r : Rehearsal α) (timer : Nat → Nat) (i : Nat) {failure : Failure}
    (h : failure.hint? = none) :
    r.pause timer i (.error failure) = timer (r.base * 2 ^ Nat.min i 16) := by
  cases failure <;> cases h <;> rfl

theorem add?_jitter (r : Rehearsal α) (i : Nat) :
    (r.policy.backoffDelay i).add? (r.policy.jitter 0) = some (r.policy.backoffDelay i) := by
  have zero : r.policy.jitter 0 = ⟨0⟩ := by
    rw [Policy.jitter, Nat.zero_mod]
    rfl
  have fits : (r.policy.backoffDelay i).nanos ≤ Duration.longest.nanos := Nat.min_le_right _ _
  rw [zero, Duration.add?, Nat.add_zero, if_pos fits]

/-- Before a repetition the run waits as the schedule says; nothing is drawn for that. -/
theorem wait_eq {r : Rehearsal α} {failure : Failure} {rule : Rule}
    (h : r.policy.ruleFor? failure = some rule) (i : Nat) (moment : Moment (List Nat)) :
    r.policy.wait rule i failure r.request false moment =
      (.ok (), moment.later (r.pause cappedTimer i (.error failure))) := by
  have nothing : r.policy.jitterBound = 0 := by
    change (0 / Duration.nanosPerMilli) % (Word.max64 + 1) = 0
    rw [Nat.zero_div, Nat.zero_mod]
  have drawn : r.policy.draw rule failure moment = (0, moment) := by
    simp [Policy.draw, Policy.drawsFor, nothing]
  have delay : ∃ d, r.policy.delayFor rule i failure 0 = some d ∧
      d.ticks = r.pause cappedTimer i (.error failure) := by
    cases hint : failure.hint? with
    | some d =>
        refine ⟨d, ?_, ?_⟩
        · rw [Policy.delayFor, r.policy_usual.hintFor?_eq h, hint]
        · rw [r.pause_of_hint cappedTimer i hint]
          exact Duration.ticks_eq d
    | none =>
        refine ⟨r.policy.backoffDelay i, ?_, ?_⟩
        · rw [Policy.delayFor, r.policy_usual.hintFor?_eq h, hint]
          exact r.add?_jitter i
        · rw [r.pause_of_noHint cappedTimer i hint]
          exact Duration.ticks_saturatingMul_ofMillis r.base (2 ^ Nat.min i 16)
  obtain ⟨d, delayed, ticks⟩ := delay
  unfold Policy.wait
  rw [drawn]
  simp only [delayed, ticks]
  rfl

theorem start_succ (n : Nat) :
    r.start timer (n + 1) =
      r.start timer n + (r.spent timer n + r.pause timer (n + 1) (r.result timer n)) :=
  Finset.sum_range_succ _ n

theorem later_afterwards (now : Nat) (draws : List Nat) (n : Nat) :
    (r.afterwards timer now draws n).later (r.pause timer (n + 1) (r.result timer n)) =
      r.before timer now draws (n + 1) := by
  simp only [before, afterwards, Moment.later, start_succ, Nat.add_assoc]

/-- An attempt is waited for, and has the outcome, that the schedule says. -/
theorem attempt_eq (r : Rehearsal α) (now : Nat) (draws : List Nat) (n : Nat) :
    attempt r.operation (r.request.attemptTimeout r.policy.attemptTimeout) r.request
        (scriptedCall r.script) (r.before cappedTimer now draws n) =
      .finished (r.result cappedTimer n) false (r.afterwards cappedTimer now draws n) := by
  have noted : (r.before cappedTimer now draws n).store.length = n := by simp [before]
  have reply : scriptedCall r.script (r.before cappedTimer now draws n).now
      (r.before cappedTimer now draws n).store =
        { after := r.after n, outcome := r.outcome n, cancels := .never
          settled := (r.afterwards cappedTimer now draws n).store
          dropped := (r.afterwards cappedTimer now draws n).store } := by
    simp only [scriptedCall, noted, script]
    simp [before, afterwards, List.range_succ]
  have live : ∀ instant, r.request.cancelledBy? instant = none := fun _ => rfl
  rw [attemptTimeout_eq]
  unfold attempt
  simp only [live, reply, Moment.await, ticks_bound]
  cases answered : r.after n with
  | none =>
      simp [result, spent, answered, before, afterwards, Moment.later]
  | some ms =>
      by_cases inTime : ms ≤ cappedTimer r.bound
      · have kept : (some ms).filter (· ≤ cappedTimer r.bound) = some ms := by simp [inTime]
        have spent : r.spent cappedTimer n = ms := by
          simp only [spent, answered, Option.elim_some]
          exact Nat.min_eq_left inTime
        simp [kept, result, spent, answered, inTime, before, afterwards, Moment.later]
      · have lost : (some ms).filter (· ≤ cappedTimer r.bound) = none := by
          simp [Option.filter, inTime]
        have spent : r.spent cappedTimer n = cappedTimer r.bound := by
          simp only [spent, answered, Option.elim_some]
          exact Nat.min_eq_right (Nat.le_of_not_le inTime)
        simp [lost, result, spent, answered, inTime, before, afterwards, Moment.later]

/-- The attempt that ends the run gives its outcome. -/
theorem runFrom_of_last {r : Rehearsal α} {n : Nat} (last : r.IsLast cappedTimer n) (now : Nat)
    (draws : List Nat) :
    r.policy.runFrom r.operation r.request (scriptedCall r.script) (r.maxRetries - n)
        (r.before cappedTimer now draws n) =
      (r.result cappedTimer n, r.afterwards cappedTimer now draws n) := by
  have attempted := r.attempt_eq now draws n
  cases outcome : r.result cappedTimer n with
  | ok value =>
      rw [outcome] at attempted
      exact Policy.runFrom_of_done (congrArg r.policy.judge attempted)
  | error failure =>
      rw [outcome] at attempted
      cases accepted : r.policy.ruleFor? failure with
      | none =>
          exact Policy.runFrom_of_done
            ((congrArg r.policy.judge attempted).trans (Policy.judge_of_refused accepted _ _))
      | some rule =>
          have spentAll : r.maxRetries - n = 0 := by
            rcases last with final | rfl
            · simp [final failure outcome] at accepted
            · omega
          rw [spentAll]
          exact Policy.runFrom_zero_of_again
            ((congrArg r.policy.judge attempted).trans (Policy.judge_of_accepted accepted _ _))

/-- After any other attempt the run waits, and then makes the next one. -/
theorem runFrom_of_notLast {r : Rehearsal α} {n : Nat} (more : ¬r.IsLast cappedTimer n)
    (within : n ≤ r.maxRetries) (now : Nat) (draws : List Nat) :
    r.policy.runFrom r.operation r.request (scriptedCall r.script) (r.maxRetries - n)
        (r.before cappedTimer now draws n) =
      r.policy.runFrom r.operation r.request (scriptedCall r.script) (r.maxRetries - (n + 1))
        (r.before cappedTimer now draws (n + 1)) := by
  have attempted := r.attempt_eq now draws n
  obtain ⟨unfinished, budget⟩ := not_or.mp more
  push Not at unfinished
  obtain ⟨failure, outcome, accepted⟩ := unfinished
  obtain ⟨rule, accepted⟩ := Option.ne_none_iff_exists'.mp accepted
  have left : r.maxRetries - n = r.maxRetries - (n + 1) + 1 := by omega
  have repetition : r.policy.maxRetries - (r.maxRetries - (n + 1)) = n + 1 := by
    rw [policy_maxRetries]
    omega
  have waited := wait_eq accepted (n + 1) (r.afterwards cappedTimer now draws n)
  rw [← outcome, later_afterwards] at waited
  rw [outcome] at attempted
  rw [left]
  refine Policy.runFrom_of_waited
    ((congrArg r.policy.judge attempted).trans (Policy.judge_of_accepted accepted _ _)) ?_
  rw [repetition]
  exact waited

/-- As long as no attempt is the last one, the run goes on as the schedule says. -/
theorem run_eq_runFrom {r : Rehearsal α} {n : Nat} (within : n ≤ r.maxRetries)
    (more : ∀ m < n, ¬r.IsLast cappedTimer m) (now : Nat) (draws : List Nat) :
    r.run now draws =
      r.policy.runFrom r.operation r.request (scriptedCall r.script) (r.maxRetries - n)
        (r.before cappedTimer now draws n) := by
  induction n with
  | zero =>
      rw [run, Policy.run, policy_maxRetries]
      simp [before, start]
  | succ n ih =>
      rw [ih (by omega) fun m h => more m (by omega)]
      exact runFrom_of_notLast (more n (by omega)) (by omega) now draws

/-- **A run that nobody cancels takes exactly its scheduled course**, if every timer runs for
thirty years at most. -/
theorem keepsSchedule (r : Rehearsal α) (now : Nat) (draws : List Nat) :
    r.KeepsSchedule cappedTimer now draws := by
  have some_last : ∃ n, r.IsLast cappedTimer n := ⟨r.maxRetries, .inr rfl⟩
  classical
  have last := Nat.find_spec some_last
  have first : ∀ m < Nat.find some_last, ¬r.IsLast cappedTimer m :=
    fun m h => Nat.find_min some_last h
  have within : Nat.find some_last ≤ r.maxRetries := Nat.find_min' some_last (.inr rfl)
  refine ⟨Nat.find some_last, ⟨last, fun m h => Nat.find_min' some_last h⟩, ?_⟩
  rw [run_eq_runFrom within first now draws]
  exact runFrom_of_last last now draws

/-- The store asks to wait for one second more than thirty years, and then answers. -/
def longHint : Rehearsal Unit where
  batches := false
  maxRetries := 1
  base := 1000
  ceiling := 30000
  override := none
  operation := "op"
  after _ := some 0
  outcome
    | 0 => .error (.rateLimited "" (some (.ofSeconds 946080001)))
    | _ + 1 => .ok ()

/-- The wait for such a hint is not the hint: the second attempt starts a second too early. -/
theorem longHint_not_keepsSchedule : ¬longHint.KeepsSchedule id 0 [] := by
  rintro ⟨k, -, course⟩
  have ran : longHint.run 0 [] = (.ok (), ⟨946080000000, [946080000000, 0], []⟩) := rfl
  rw [ran] at course
  have moment := (Prod.mk.inj course).2
  have attempts : k = 1 := by
    have length := congrArg (fun m => m.store.length) moment
    simpa [afterwards] using length.symm
  subst attempts
  have ended := congrArg Moment.now moment
  have scheduled : (longHint.afterwards id 0 [] 1).now = 946080001000 := by decide
  rw [scheduled] at ended
  exact absurd ended (by decide)

end Rehearsal

end Retry

end DocumentClient
