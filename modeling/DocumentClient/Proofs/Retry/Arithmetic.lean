import DocumentClient.Proofs.Retry.Policies
import DocumentClient.Retry.Script
import Mathlib.Algebra.Group.Nat.Defs

/-!
# DocumentClient.Proofs.Retry.Arithmetic

**Which policies count right.** The doubled base delay never exceeds the longest duration; but what
is drawn at random is added to it, and the sum may. The number of attempts is one more than that of
repetitions, which may be the largest word already. A policy is `Exact` if neither happens; then a
failure that keeps coming back is met by just the number of attempts that the policy gives.

* `Policy.delayFor_eq_none_iff` says which waits are no durations, and `maxAttempts?_eq_some_iff`
  which policies give a number of attempts.
* `Policy.overflows_exactly` puts the two together, and says which policies are exact.
  `largest_numbers_not_exact` shows that neither number is harmless.

## Proof shape

* `ScriptedAttempt.FailsWith` is an attempt whose answer does not matter: it fails by itself, or
  the time is up and it fails with that. Both are one case from there on.
* `Policy.runFrom_recurring` is the induction over the attempts of a run in which every attempt
  fails alike. It counts the attempts that are noted, so it needs every wait to be a duration.
* That every wait is one is asked of `Policy.WaitsFit`, for which there is a closed form; the
  characterization of exact policies goes through that form.
-/

namespace DocumentClient.Retry

open DocumentClient.Store

variable {α : Type}

/-! ### Failures that keep coming back -/

/-- An attempt of a script fails: its answer is the failure and comes in time, or it comes too
late and the failure is that the time is up. It does not cancel the request. -/
structure ScriptedAttempt.FailsWith (operation : String) (limit : Duration) (failure : Failure)
    (entry : ScriptedAttempt α) : Prop where
  kept : entry.cancels = .never
  fails : (∃ ms, entry.after = some ms ∧ ms ≤ limit.ticks ∧ entry.outcome = .error failure) ∨
    (∀ ms, entry.after = some ms → limit.ticks < ms) ∧ failure = timedOut operation limit

namespace Policy

variable {policy : Policy} {rule : Rule} {failure : Failure} {operation : String}
  {limit : Duration} {request : Request} {script : Nat → ScriptedAttempt α}

/-- An attempt that fails is noted, and ends with its failure. -/
theorem attempt_failsWith {moment : Moment (List Nat)}
    (uncancelled : request.cancelledFrom = none)
    (fails : (script moment.store.length).FailsWith operation limit failure) :
    ∃ moment', attempt operation limit request (scriptedCall script) moment =
        .finished (.error failure) false moment' ∧
      moment'.store = moment.now :: moment.store := by
  have live := request.cancelledBy?_of_uncancelled uncancelled
  unfold attempt scriptedCall
  simp only [live, fails.kept, Moment.await]
  rcases fails.fails with ⟨ms, after, inTime, outcome⟩ | ⟨late, rfl⟩
  · have answered : (some ms).filter (· ≤ limit.ticks) = some ms := by simp [inTime]
    refine ⟨{ moment.later ms with store := moment.now :: moment.store }, ?_, rfl⟩
    simp [after, answered, outcome]
  · have missed : (script moment.store.length).after.filter (· ≤ limit.ticks) = none := by
      refine Option.filter_eq_none_iff.mpr fun ms after => ?_
      simpa using late ms after
    refine ⟨{ moment.later limit.ticks with store := moment.now :: moment.store }, ?_, rfl⟩
    simp only [missed]
    exact (if_neg Bool.false_ne_true).trans (if_neg (by decide))

/-- **A failure that keeps coming back is met once, and once more for every repetition**, if the
waits are durations and nobody cancels the request. -/
theorem runFrom_recurring (fit : policy.WaitsFit) (uncancelled : request.cancelledFrom = none)
    (accepted : policy.ruleFor? failure = some rule)
    (fails : ∀ n, (script n).FailsWith operation (request.attemptTimeout policy.attemptTimeout)
      failure) (left : Nat) (moment : Moment (List Nat)) :
    ∃ moment', policy.runFrom operation request (scriptedCall script) left moment =
        (.error failure, moment') ∧
      moment'.store.length = moment.store.length + (left + 1) := by
  induction left generalizing moment with
  | zero =>
      obtain ⟨ended, attempted, noted⟩ := attempt_failsWith uncancelled (fails moment.store.length)
      refine ⟨ended, ?_, by rw [noted, List.length_cons]⟩
      exact runFrom_zero_of_again
        ((congrArg policy.judge attempted).trans (judge_of_accepted accepted _ _))
  | succ left ih =>
      obtain ⟨ended, attempted, noted⟩ := attempt_failsWith uncancelled (fails moment.store.length)
      obtain ⟨woken, waited, same⟩ :=
        wait_of_uncancelled fit uncancelled rule (policy.maxRetries - left) failure ended
      obtain ⟨moment', ran, count⟩ := ih woken
      refine ⟨moment', ?_, ?_⟩
      · rw [← ran]
        exact runFrom_of_waited
          ((congrArg policy.judge attempted).trans (judge_of_accepted accepted _ _)) waited
      · rw [count, same, noted, List.length_cons]
        omega

/-! ### Numbers out of range -/

/-- A wait is no duration exactly if the store did not ask for it, and the doubled base delay, as
far as it is a duration, and what is drawn make more than the longest one. -/
theorem delayFor_eq_none_iff (usual : policy.Usual)
    (accepted : policy.ruleFor? failure = some rule) (retry draw : Nat) :
    policy.delayFor rule retry failure draw = none ↔ failure.hint? = none ∧
      Duration.longest.nanos <
        (policy.backoffDelay retry).nanos + (policy.jitter draw).nanos := by
  unfold delayFor
  rw [usual.hintFor?_eq accepted]
  cases failure.hint? with
  | some hint => simp
  | none =>
      have sum := Duration.isSome_add?_iff (policy.backoffDelay retry) (policy.jitter draw)
      rw [← Option.not_isSome_iff_eq_none]
      simp [sum]

theorem maxAttempts?_eq_some_iff (n : Nat) :
    policy.maxAttempts? = some n ↔ policy.maxRetries < Word.max32 ∧ n = policy.maxRetries + 1 := by
  unfold maxAttempts?
  split <;> simp <;> omega

/-- A policy counts right: all of its waits are durations, and the number of attempts that it gives
is one more than that of repetitions, and the number of attempts that a failure gets which keeps
coming back. -/
structure Exact (policy : Policy) : Prop where
  waits : ∀ failure rule, policy.ruleFor? failure = some rule →
    ∀ retry draw, ∃ delay, policy.delayFor rule retry failure draw = some delay
  attempts : ∃ n, policy.maxAttempts? = some n ∧ n = policy.maxRetries + 1 ∧
    ∀ {α : Type} (operation : String) (request : Request) (script : Nat → ScriptedAttempt α)
      (failure : Failure) (now : Nat) (draws : List Nat), request.cancelledFrom = none →
      (policy.ruleFor? failure).isSome →
      (∀ i, (script i).FailsWith operation (request.attemptTimeout policy.attemptTimeout) failure) →
      ∃ moment, policy.run operation request (scriptedCall script) ⟨now, [], draws⟩ =
        (.error failure, moment) ∧ moment.store.length = n

/-- The waits that a policy gives are durations if its rules ask for hints of the store. -/
theorem waits_iff_waitsFit (usual : policy.Usual) :
    (∀ failure rule, policy.ruleFor? failure = some rule →
      ∀ retry draw, ∃ delay, policy.delayFor rule retry failure draw = some delay) ↔
      policy.WaitsFit := by
  constructor
  · intro waits retry draw
    -- a store that takes no more calls need not say for how long
    have accepted := usual.ruleFor?_rateLimited "" none
    obtain ⟨delay, delayed⟩ := waits _ _ accepted retry draw
    exact Option.isSome_iff_exists.mpr ⟨delay, delayed⟩
  · intro fit failure rule accepted retry draw
    refine Option.ne_none_iff_exists'.mp fun overflow => ?_
    have sum := (Duration.isSome_add?_iff _ _).mp (fit retry draw)
    exact absurd ((delayFor_eq_none_iff usual accepted retry draw).mp overflow).2 (by omega)

/-- **What overflows, and which policies count right.** Under a policy of the client a wait is no
duration exactly if the store did not ask for it, and the doubled base delay, or the longest
duration if that is shorter, makes more than the longest duration with what is drawn. The policy
counts right exactly if the last doubling and the most that can be drawn do not make more than that,
and if the number of repetitions is not the largest word. -/
theorem overflows_exactly {policy : Policy} (usual : policy.Usual) :
    (∀ failure rule, policy.ruleFor? failure = some rule → ∀ retry draw,
      (policy.delayFor rule retry failure draw = none ↔ failure.hint? = none ∧
        Duration.longest.nanos <
          Nat.min (policy.baseDelay.nanos * 2 ^ Nat.min retry 16) Duration.longest.nanos +
            draw % (policy.jitterBound + 1) * Duration.nanosPerMilli)) ∧
    (policy.Exact ↔ policy.maxRetries < Word.max32 ∧
      Nat.min (policy.baseDelay.nanos * 2 ^ 16) Duration.longest.nanos +
        policy.jitterBound * Duration.nanosPerMilli ≤ Duration.longest.nanos) := by
  refine ⟨fun _ _ accepted retry draw => delayFor_eq_none_iff usual accepted retry draw, ?_⟩
  constructor
  · intro exact
    obtain ⟨n, given, -, -⟩ := exact.attempts
    exact ⟨((maxAttempts?_eq_some_iff n).mp given).1,
      waitsFit_iff.mp ((waits_iff_waitsFit usual).mp exact.waits)⟩
  · rintro ⟨word, fits⟩
    have fit : policy.WaitsFit := waitsFit_iff.mpr fits
    refine ⟨(waits_iff_waitsFit usual).mpr fit, policy.maxRetries + 1,
      (maxAttempts?_eq_some_iff _).mpr ⟨word, rfl⟩, rfl, ?_⟩
    intro α operation request script failure now draws uncancelled accepted fails
    obtain ⟨rule, accepted⟩ := Option.isSome_iff_exists.mp accepted
    obtain ⟨moment, ran, count⟩ :=
      runFrom_recurring fit uncancelled accepted fails policy.maxRetries ⟨now, [], draws⟩
    exact ⟨moment, ran, count.trans (Nat.zero_add _)⟩

/-- The usual policy counts right, whatever is drawn for its third wait. -/
theorem overflows_exactly_usual :
    (forPoints 3 (.ofSeconds 30)).Usual ∧ (forPoints 3 (.ofSeconds 30)).Exact ∧
    (forPoints 3 (.ofSeconds 30)).ruleFor? (.timeout "late") = some Rule.transient ∧
    ¬(forPoints 3 (.ofSeconds 30)).delayFor Rule.transient 3 (.timeout "late") 1500 = none := by
  have usual : (forPoints 3 (.ofSeconds 30)).Usual := .inl rfl
  refine ⟨usual, (overflows_exactly usual).2.mpr ⟨by decide, by decide⟩, rfl, fun overflow => ?_⟩
  have sum := ((overflows_exactly usual).1 _ _ rfl 3 1500).mp overflow
  exact absurd sum.2 (by decide)

/-- The largest number of repetitions has no number of attempts, and a base delay that is doubled
up to the longest duration leaves no room for one millisecond more. -/
theorem largest_numbers_not_exact :
    (forPoints Word.max32 (.ofSeconds 30)).maxAttempts? = none ∧
    ({ forPoints 3 (.ofSeconds 30) with baseDelay := .longest } : Policy).delayFor Rule.transient 1
      (.serviceUnavailable "") 1 = none ∧
    ¬∀ policy : Policy, policy.Usual → policy.maxRetries ≤ Word.max32 →
      policy.baseDelay.nanos ≤ Duration.longest.nanos →
      policy.maxJitter.nanos ≤ Duration.longest.nanos → policy.Exact := by
  have attempts : (forPoints Word.max32 (.ofSeconds 30)).maxAttempts? = none := by decide
  have delay : ({ forPoints 3 (.ofSeconds 30) with baseDelay := .longest } : Policy).delayFor
      Rule.transient 1 (.serviceUnavailable "") 1 = none := by decide
  refine ⟨attempts, delay, fun all => ?_⟩
  obtain ⟨d, given⟩ := (all { forPoints 3 (.ofSeconds 30) with baseDelay := .longest } (.inl rfl)
    (by decide) (by decide) (by decide)).waits (.serviceUnavailable "") Rule.transient rfl 1 1
  rw [delay] at given
  cases given

end Policy

end DocumentClient.Retry
