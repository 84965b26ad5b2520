import DocumentClient.Proofs.Retry.Attempts

/-!
# DocumentClient.Proofs.Retry.Policies

**What the policies of the client have in common.** A policy is a number of repetitions, delays, and
a rule for each kind of failure; nothing in its type keeps its waits from overflowing, or its rules
from accepting any failure. Those that the client makes are better than that.

* `Policy.Usual` says which rules those are: those for points, or those for batches. Only failures
  that may go away by themselves are tried again (`Usual.isTransient`), and the rule that accepts
  a failure follows its hint, if it has one (`Usual.hintFor?_eq`).
* `Policy.WaitsFit` says that a wait is a duration, whatever is added to it at random.
  `Policy.waitsFit_iff` says of which policies that is true, in terms of their numbers;
  `standard_waits`, `waitsFit_ofSettings` and `waitsFit_batchesOfSettings` that it is true of
  every policy that is configured.
* `Policy.runFrom_of_uncancelled` is an induction over a run: if nobody cancels the request, and
  the call is never answered as cancelled, then neither is the run. Waits that fit are what it
  needs, since a wait that is no duration fails as well.
-/

namespace DocumentClient

open Store

theorem Duration.isSome_add?_iff (a b : Duration) :
    (a.add? b).isSome ↔ a.nanos + b.nanos ≤ Duration.longest.nanos := by
  unfold Duration.add?
  split <;> simp_all

theorem Retry.Request.cancelledBy?_of_uncancelled (request : Retry.Request)
    (uncancelled : request.cancelledFrom = none) (instant : Nat) :
    request.cancelledBy? instant = none := by
  rw [cancelledBy?, uncancelled, Option.filter_none]

namespace Retry.Policy

/-! ### Rules -/

/-- The rules are those for points, or those for batches. -/
def Usual (policy : Policy) : Prop :=
  policy.rules = [Rule.rateLimited, Rule.transient] ∨
    policy.rules = [Rule.rateLimited, Rule.notExecuted]

theorem Usual.isTransient {policy : Policy} (usual : policy.Usual) {failure : Failure}
    {rule : Rule} (h : policy.ruleFor? failure = some rule) : failure.isTransient = true := by
  unfold ruleFor? at h
  rcases usual with rules | rules <;> rw [rules] at h <;> cases failure <;> first
    | rfl
    | cases h

theorem Usual.ruleFor?_eq_none {policy : Policy} (usual : policy.Usual) {failure : Failure}
    (h : failure.isTransient = false) : policy.ruleFor? failure = none := by
  cases accepted : policy.ruleFor? failure with
  | none => rfl
  | some rule => cases h.symm.trans (usual.isTransient accepted)

/-- The rule that accepts a failure asks for its hint, if it has one. -/
theorem Usual.hintFor?_eq {policy : Policy} (usual : policy.Usual) {failure : Failure}
    {rule : Rule} (h : policy.ruleFor? failure = some rule) :
    hintFor? rule failure = failure.hint? := by
  unfold ruleFor? at h
  rcases usual with rules | rules <;> rw [rules] at h <;> cases failure <;> cases h <;> rfl

theorem Usual.ruleFor?_rateLimited {policy : Policy} (usual : policy.Usual) (detail : String)
    (hint : Option Duration) :
    policy.ruleFor? (.rateLimited detail hint) = some Rule.rateLimited := by
  unfold ruleFor?
  rcases usual with rules | rules <;> rw [rules] <;> rfl

/-! ### Waits -/

/-- Whatever is added to a wait at random, it remains a duration. -/
def WaitsFit (policy : Policy) : Prop :=
  ∀ retry draw, ((policy.backoffDelay retry).add? (policy.jitter draw)).isSome

theorem jitter_nanos_le (policy : Policy) (draw : Nat) :
    (policy.jitter draw).nanos ≤ policy.jitterBound * Duration.nanosPerMilli :=
  Nat.mul_le_mul_right _ (Nat.le_of_lt_succ (Nat.mod_lt _ (Nat.succ_pos _)))

theorem jitter_jitterBound (policy : Policy) :
    (policy.jitter policy.jitterBound).nanos = policy.jitterBound * Duration.nanosPerMilli := by
  rw [jitter, Nat.mod_eq_of_lt (Nat.lt_succ_self _)]
  rfl

theorem backoffDelay_le_last (policy : Policy) (retry : Nat) :
    (policy.backoffDelay retry).nanos ≤ (policy.backoffDelay lastDoubling).nanos := by
  have doublings : Nat.min retry lastDoubling ≤ Nat.min lastDoubling lastDoubling :=
    Nat.le_min.mpr ⟨Nat.min_le_right _ _, Nat.min_le_right _ _⟩
  have multiple := Nat.mul_le_mul_left policy.baseDelay.nanos
    (Nat.pow_le_pow_right (by decide : 0 < 2) doublings)
  exact Nat.le_min.mpr ⟨Nat.le_trans (Nat.min_le_left _ _) multiple, Nat.min_le_right _ _⟩

/-- **Every wait is a duration** exactly if the longest one with the most that is added to it is
one. -/
theorem waitsFit_iff {policy : Policy} :
    policy.WaitsFit ↔ (policy.backoffDelay lastDoubling).nanos +
      policy.jitterBound * Duration.nanosPerMilli ≤ Duration.longest.nanos := by
  constructor
  · intro fit
    have longest := (Duration.isSome_add?_iff _ _).mp (fit lastDoubling policy.jitterBound)
    rwa [jitter_jitterBound] at longest
  · intro fits retry draw
    refine (Duration.isSome_add?_iff _ _).mpr (Nat.le_trans ?_ fits)
    exact Nat.add_le_add (policy.backoffDelay_le_last retry) (policy.jitter_nanos_le draw)

theorem waitsFit_of_le {policy : Policy}
    (h : policy.baseDelay.nanos * 65536 + policy.jitterBound * Duration.nanosPerMilli ≤
      Duration.longest.nanos) : policy.WaitsFit :=
  waitsFit_iff.mpr (Nat.le_trans (Nat.add_le_add_right (Nat.min_le_left _ _) _) h)

/-- With a base delay of one second, and one second more at random, every wait is a duration. -/
theorem standard_waits :
    (Duration.ofSeconds 1).nanos * 65536 +
        ((Duration.ofSeconds 1).millis % (Word.max64 + 1)) * Duration.nanosPerMilli ≤
      Duration.longest.nanos := by
  decide

theorem waitsFit_ofSettings (settings : Settings) : (ofSettings settings).WaitsFit :=
  waitsFit_of_le standard_waits

theorem waitsFit_batchesOfSettings (settings : Settings) :
    (batchesOfSettings settings).WaitsFit :=
  waitsFit_of_le standard_waits

theorem WaitsFit.delayFor {policy : Policy} (fit : policy.WaitsFit) (rule : Rule) (retry : Nat)
    (failure : Failure) (draw : Nat) :
    ∃ delay, policy.delayFor rule retry failure draw = some delay := by
  unfold Policy.delayFor
  cases hintFor? rule failure with
  | some hint => exact ⟨hint, rfl⟩
  | none => exact Option.isSome_iff_exists.mp (fit retry draw)

/-- If waits fit, a wait fails only because the request is cancelled. -/
theorem WaitsFit.cancelled_of_wait {σ : Type} {policy : Policy} (fit : policy.WaitsFit)
    {rule : Rule} {retry : Nat} {failure failure' : Failure} {request : Request}
    {lastMoment : Bool} {moment moment' : Moment σ}
    (h : policy.wait rule retry failure request lastMoment moment = (.error failure', moment')) :
    failure' = .cancelled := by
  unfold wait at h
  generalize policy.draw rule failure moment = drawn at h
  obtain ⟨number, drawnMoment⟩ := drawn
  obtain ⟨delay, delayed⟩ := fit.delayFor rule retry failure number
  simp only [delayed] at h
  split at h
  · cases h
    rfl
  · split at h <;> cases h
    rfl

/-- A wait that nobody interrupts ends, and the store is left as it is. -/
theorem wait_of_uncancelled {σ : Type} {policy : Policy} {request : Request}
    (fit : policy.WaitsFit) (uncancelled : request.cancelledFrom = none) (rule : Rule)
    (retry : Nat) (failure : Failure) (moment : Moment σ) :
    ∃ moment', policy.wait rule retry failure request false moment = (.ok (), moment') ∧
      moment'.store = moment.store := by
  have store := policy.wait_store rule retry failure request false moment
  generalize waited : policy.wait rule retry failure request false moment = ended at store
  obtain ⟨outcome, moment'⟩ := ended
  refine ⟨moment', ?_, store⟩
  unfold wait at waited
  generalize policy.draw rule failure moment = drawn at waited
  obtain ⟨number, drawnMoment⟩ := drawn
  obtain ⟨delay, delayed⟩ := fit.delayFor rule retry failure number
  simp only [delayed, Request.cancelledBy?, uncancelled, Option.filter_none, Bool.false_eq_true,
    if_false] at waited
  cases waited
  rfl

/-! ### Runs that nobody cancels -/

section

variable {σ α : Type} {policy : Policy} {operation : String} {limit : Duration} {request : Request}
  {call : Call σ α} {moment : Moment σ}

/-- An attempt that nobody cancels comes to an end: with the answer, or because the time is up. -/
theorem attempt_of_uncancelled (uncancelled : request.cancelledFrom = none)
    (never : (call moment.now moment.store).cancels = .never) :
    ∃ outcome moment', attempt operation limit request call moment =
        .finished outcome false moment' ∧
      (outcome = .error (timedOut operation limit) ∨
        outcome = (call moment.now moment.store).outcome) := by
  simp only [attempt, request.cancelledBy?_of_uncancelled uncancelled, never, Option.isSome_none,
    Bool.false_eq_true, if_false, reduceCtorEq, decide_false, Moment.await]
  cases (call moment.now moment.store).after.filter (· ≤ limit.ticks) with
  | none => exact ⟨_, _, rfl, .inl rfl⟩
  | some ms => exact ⟨_, _, rfl, .inr rfl⟩

/-- What follows from such an attempt, if the call is not answered as cancelled. -/
theorem judge_of_uncancelled (uncancelled : request.cancelledFrom = none)
    (never : (call moment.now moment.store).cancels = .never)
    (answer : (call moment.now moment.store).outcome ≠ .error .cancelled) :
    (∀ outcome moment', policy.judge (attempt operation limit request call moment) =
      .done outcome moment' → outcome ≠ .error .cancelled) ∧
    ∀ rule failure lastMoment moment', policy.judge (attempt operation limit request call moment) =
      .again rule failure lastMoment moment' → failure ≠ .cancelled ∧ lastMoment = false := by
  obtain ⟨outcome, ended, ends, result⟩ := attempt_of_uncancelled uncancelled never
  have other : outcome ≠ .error .cancelled := by
    rcases result with rfl | rfl
    · exact nofun
    · exact answer
  rw [ends]
  refine ⟨fun outcome' _ verdict => judge_finished verdict ▸ other, ?_⟩
  intro rule failure lastMoment _ verdict
  have same := (judge_again verdict).1
  simp only [Ending.finished.injEq] at same
  exact ⟨fun cancelled => other (cancelled ▸ same.1), same.2.1.symm⟩

/-- **A run that nobody cancels does not end as cancelled**, if the call is never answered so. -/
theorem runFrom_of_uncancelled (fit : policy.WaitsFit) (uncancelled : request.cancelledFrom = none)
    (never : ∀ now store, (call now store).cancels = .never)
    (answers : ∀ now store, (call now store).outcome ≠ .error .cancelled) (left : Nat) :
    (policy.runFrom operation request call left moment).1 ≠ .error .cancelled := by
  induction left generalizing moment with
  | zero =>
      obtain ⟨ended, repeated⟩ := @judge_of_uncancelled _ _ policy operation
        (request.attemptTimeout policy.attemptTimeout) _ call moment uncancelled (never _ _)
        (answers _ _)
      cases verdict : policy.judge (attempt operation
          (request.attemptTimeout policy.attemptTimeout) request call moment) with
      | done outcome moment' =>
          rw [runFrom_of_done verdict]
          exact ended _ _ verdict
      | again rule failure lastMoment moment' =>
          rw [runFrom_zero_of_again verdict]
          exact fun same => (repeated _ _ _ _ verdict).1 (Except.error.inj same)
  | succ left ih =>
      obtain ⟨ended, repeated⟩ := @judge_of_uncancelled _ _ policy operation
        (request.attemptTimeout policy.attemptTimeout) _ call moment uncancelled (never _ _)
        (answers _ _)
      cases verdict : policy.judge (attempt operation
          (request.attemptTimeout policy.attemptTimeout) request call moment) with
      | done outcome moment' =>
          rw [runFrom_of_done verdict]
          exact ended _ _ verdict
      | again rule failure lastMoment moment' =>
          obtain rfl := (repeated _ _ _ _ verdict).2
          obtain ⟨woken, waited, -⟩ := wait_of_uncancelled fit uncancelled rule
            (policy.maxRetries - left) failure moment'
          rw [runFrom_of_waited verdict waited]
          exact ih

end

end Retry.Policy

end DocumentClient
