import DocumentClient.Retry.Run

/-!
# DocumentClient.Proofs.Retry.Attempts

**What one attempt at a call can do**, and what a whole run makes of it. Whoever shows something of
runs takes an attempt apart with `attempt_ends`, or does not look into attempts at all and uses one
of the inductions.

* `AttemptEnds` lists the four ways in which an attempt ends, each with the state in which it
  leaves the store: the call is not made, nobody waits for the answer, the answer is in time, or
  the time is up. `attempt_ends` shows that there is no other way.
* `Policy.GivesUp` are the failures with which a run ends that gives up.
* `Policy.run_ok` says where the value of a run that succeeds comes from.
* `Policy.run_of_atOnce` is a run that a store ends by its first answer, which arrives at once.

## Proof shape

* `Policy.runFrom_leads` is the one induction over the attempts of a run. Of a property that every
  repeated attempt preserves it makes a property of the end of the run. `Policy.runFrom_preserves`
  and `Policy.run_store` are the cases in which the failure, or the outcome, does not matter.
* `Policy.judge_of_accepted` and its neighbours unfold the decision after an attempt, once for
  each of the ways in which it can go.
-/

namespace DocumentClient.Retry

open DocumentClient.Store

variable {σ α : Type}

/-! ### One attempt -/

/-- How an attempt at a call ends. -/
inductive AttemptEnds (operation : String) (limit : Duration) (request : Request)
    (call : Call σ α) (moment : Moment σ) : Ending σ α → Prop
  /-- The request was cancelled before, so the call is not made. -/
  | notMade (h : (request.cancelledBy? moment.now).isSome) :
      AttemptEnds operation limit request call moment (.cancelled moment)
  /-- The request is cancelled while the call is served. -/
  | abandoned (now : Nat) :
      AttemptEnds operation limit request call moment
        (.cancelled { moment with now, store := (call moment.now moment.store).dropped })
  /-- The answer arrives in time. -/
  | answered (ms : Nat) (inTime : ms ≤ limit.ticks)
      (after : (call moment.now moment.store).after = some ms) :
      AttemptEnds operation limit request call moment
        (.finished (call moment.now moment.store).outcome
          ((call moment.now moment.store).cancels = .onAnswer)
          { moment.later ms with store := (call moment.now moment.store).settled })
  /-- The time is up before an answer arrives. -/
  | timedOut (late : ∀ ms, (call moment.now moment.store).after = some ms → limit.ticks < ms) :
      AttemptEnds operation limit request call moment
        (.finished (.error (timedOut operation limit)) false
          { moment.later limit.ticks with store := (call moment.now moment.store).dropped })

/-- An attempt ends in one of the four ways. -/
theorem attempt_ends (operation : String) (limit : Duration) (request : Request)
    (call : Call σ α) (moment : Moment σ) :
    AttemptEnds operation limit request call moment
      (attempt operation limit request call moment) := by
  unfold attempt
  split
  · exact .notMade ‹_›
  · simp only
    split
    · exact .abandoned moment.now
    · simp only [Moment.await]
      cases hafter : (call moment.now moment.store).after.filter (· ≤ limit.ticks) with
      | some ms =>
          obtain ⟨after, inTime⟩ := Option.filter_eq_some_iff.mp hafter
          simp only
          split
          · exact .abandoned _
          · exact .answered ms (by simpa using inTime) after
      | none =>
          simp only
          split
          · exact .abandoned _
          · refine .timedOut fun ms after => ?_
            simpa [after, Option.filter] using hafter

theorem Policy.draw_store (policy : Policy) (rule : Rule) (failure : Failure)
    (moment : Moment σ) : (policy.draw rule failure moment).2.store = moment.store := by
  unfold Policy.draw
  split <;> rfl

/-- Time alone passes in a wait: the store stays as it is. -/
theorem Policy.wait_store (policy : Policy) (rule : Rule) (retry : Nat) (failure : Failure)
    (request : Request) (lastMoment : Bool) (moment : Moment σ) :
    (policy.wait rule retry failure request lastMoment moment).2.store = moment.store := by
  rw [← policy.draw_store rule failure moment]
  unfold Policy.wait
  generalize policy.draw rule failure moment = drawn
  obtain ⟨number, moment⟩ := drawn
  dsimp only
  cases policy.delayFor rule retry failure number with
  | none => rfl
  | some delay =>
      dsimp only
      cases lastMoment with
      | true => rfl
      | false =>
          rw [if_neg Bool.false_ne_true]
          split
          · rfl
          · exact moment.later_store delay.ticks

/-! ### A run -/

/-- The moment at which an attempt ends. -/
def Ending.moment : Ending σ α → Moment σ
  | .cancelled moment => moment
  | .finished _ _ moment => moment

/-- A run that ends with an attempt ends at its moment. -/
theorem Policy.judge_done {policy : Policy} {ending : Ending σ α} {outcome : Except Failure α}
    {moment : Moment σ} (h : policy.judge ending = .done outcome moment) :
    ending.moment = moment := by
  cases ending with
  | cancelled m =>
      simp only [Policy.judge, Verdict.done.injEq] at h
      exact h.2
  | finished result last m =>
      cases result with
      | ok value =>
          simp only [Policy.judge, Verdict.done.injEq] at h
          exact h.2
      | error f =>
          cases hrule : policy.ruleFor? f with
          | none =>
              simp only [Policy.judge, hrule, Verdict.done.injEq] at h
              exact h.2
          | some rule => simp [Policy.judge, hrule] at h

theorem Policy.judge_finished {policy : Policy} {result outcome : Except Failure α}
    {lastMoment : Bool} {moment moment' : Moment σ}
    (h : policy.judge (.finished result lastMoment moment) = .done outcome moment') :
    result = outcome := by
  cases result with
  | ok value =>
      cases h
      rfl
  | error failure =>
      cases hrule : policy.ruleFor? failure with
      | none =>
          simp only [Policy.judge, hrule, Verdict.done.injEq] at h
          exact h.1
      | some rule => simp [Policy.judge, hrule] at h

theorem Policy.judge_of_accepted {policy : Policy} {failure : Failure} {rule : Rule}
    (h : policy.ruleFor? failure = some rule) (lastMoment : Bool) (moment : Moment σ) :
    policy.judge (.finished (.error failure) lastMoment moment : Ending σ α) =
      .again rule failure lastMoment moment := by
  simp only [Policy.judge, h]

theorem Policy.judge_of_refused {policy : Policy} {failure : Failure}
    (h : policy.ruleFor? failure = none) (lastMoment : Bool) (moment : Moment σ) :
    policy.judge (.finished (.error failure) lastMoment moment : Ending σ α) =
      .done (.error failure) moment := by
  simp only [Policy.judge, h]

/-- The attempt whose ending is worth another one failed, and a rule accepts the failure. -/
theorem Policy.judge_again {policy : Policy} {ending : Ending σ α} {rule : Rule}
    {failure : Failure} {lastMoment : Bool} {moment : Moment σ}
    (h : policy.judge ending = .again rule failure lastMoment moment) :
    ending = .finished (.error failure) lastMoment moment ∧
      policy.ruleFor? failure = some rule := by
  cases ending with
  | cancelled m => simp [Policy.judge] at h
  | finished outcome last m =>
      cases outcome with
      | ok value => simp [Policy.judge] at h
      | error f =>
          cases hrule : policy.ruleFor? f with
          | none => simp [Policy.judge, hrule] at h
          | some r =>
              simp only [Policy.judge, hrule, Verdict.again.injEq] at h
              obtain ⟨rfl, rfl, rfl, rfl⟩ := h
              exact ⟨rfl, hrule⟩

theorem Policy.runFrom_of_done {policy : Policy} {operation : String} {request : Request}
    {call : Call σ α} {left : Nat} {moment moment' : Moment σ} {outcome : Except Failure α}
    (h : policy.judge (attempt operation (request.attemptTimeout policy.attemptTimeout) request
      call moment) = .done outcome moment') :
    policy.runFrom operation request call left moment = (outcome, moment') := by
  unfold Policy.runFrom
  simp only [h]

/-- Without any repetition left, a run ends with the failure of its last attempt. -/
theorem Policy.runFrom_zero_of_again {policy : Policy} {operation : String} {request : Request}
    {call : Call σ α} {moment moment' : Moment σ} {rule : Rule} {failure : Failure}
    {lastMoment : Bool}
    (h : policy.judge (attempt operation (request.attemptTimeout policy.attemptTimeout) request
      call moment) = .again rule failure lastMoment moment') :
    policy.runFrom operation request call 0 moment = (.error failure, moment') := by
  unfold Policy.runFrom
  simp only [h]

theorem Policy.runFrom_of_stopped {policy : Policy} {operation : String} {request : Request}
    {call : Call σ α} {left : Nat} {moment moment' moment'' : Moment σ} {rule : Rule}
    {failure failure' : Failure} {lastMoment : Bool}
    (h : policy.judge (attempt operation (request.attemptTimeout policy.attemptTimeout) request
      call moment) = .again rule failure lastMoment moment')
    (hwait : policy.wait rule (policy.maxRetries - left) failure request lastMoment moment' =
      (.error failure', moment'')) :
    policy.runFrom operation request call (left + 1) moment = (.error failure', moment'') := by
  rw [Policy.runFrom]
  simp only [h, hwait]

theorem Policy.runFrom_of_waited {policy : Policy} {operation : String} {request : Request}
    {call : Call σ α} {left : Nat} {moment moment' moment'' : Moment σ} {rule : Rule}
    {failure : Failure} {lastMoment : Bool}
    (h : policy.judge (attempt operation (request.attemptTimeout policy.attemptTimeout) request
      call moment) = .again rule failure lastMoment moment')
    (hwait : policy.wait rule (policy.maxRetries - left) failure request lastMoment moment' =
      (.ok (), moment'')) :
    policy.runFrom operation request call (left + 1) moment =
      policy.runFrom operation request call left moment'' := by
  rw [Policy.runFrom]
  simp only [h, hwait]

/-- The failures with which a run ends that gives up: one that is worth another attempt, when there
is none left, or what keeps it from waiting for that attempt. -/
inductive Policy.GivesUp (policy : Policy) : Failure → Prop
  /-- No attempt is left. -/
  | exhausted {failure : Failure} {rule : Rule} (h : policy.ruleFor? failure = some rule) :
      policy.GivesUp failure
  /-- The wait would be too long. -/
  | overflow : policy.GivesUp .overflow
  /-- The request is cancelled. -/
  | cancelled : policy.GivesUp .cancelled

/-- A wait that fails ends a run that gives up. -/
theorem Policy.givesUp_of_wait {policy : Policy} {rule : Rule} {retry : Nat}
    {failure failure' : Failure} {request : Request} {lastMoment : Bool}
    {moment moment' : Moment σ}
    (h : policy.wait rule retry failure request lastMoment moment = (.error failure', moment')) :
    policy.GivesUp failure' := by
  unfold Policy.wait at h
  generalize policy.draw rule failure moment = drawn at h
  obtain ⟨number, drawnMoment⟩ := drawn
  dsimp only at h
  cases delayed : policy.delayFor rule retry failure number with
  | none =>
      rw [delayed] at h
      cases h
      exact .overflow
  | some delay =>
      rw [delayed] at h
      dsimp only at h
      split at h
      · cases h
        exact .cancelled
      · split at h
        · cases h
          exact .cancelled
        · cases h

/-- **Induction over a run.** `Live` holds of the store before every attempt, and `Final` of the
outcome and the store at the end. It is enough to look at one attempt: if it is the last one it
leads from `Live` to `Final`, and if it is repeated it leads from `Live` to `Live`. A run that
gives up after an attempt, or while it waits, ends with a failure of its own. -/
theorem Policy.runFrom_leads {policy : Policy} {operation : String} {request : Request}
    {call : Call σ α} (Live : σ → Prop) (Final : Except Failure α → σ → Prop)
    (gaveUp : ∀ failure store, policy.GivesUp failure → Live store →
      Final (.error failure) store)
    (ended : ∀ moment outcome moment', Live moment.store →
      policy.judge (attempt operation (request.attemptTimeout policy.attemptTimeout) request call
        moment) = .done outcome moment' → Final outcome moment'.store)
    (repeated : ∀ moment rule failure lastMoment moment', Live moment.store →
      policy.judge (attempt operation (request.attemptTimeout policy.attemptTimeout) request call
        moment) = .again rule failure lastMoment moment' → Live moment'.store)
    (left : Nat) (moment : Moment σ) (live : Live moment.store) :
    Final (policy.runFrom operation request call left moment).1
      (policy.runFrom operation request call left moment).2.store := by
  -- on the repetitions that are left; a pause between attempts does not touch the store
  induction left generalizing moment with
  | zero =>
      cases verdict : policy.judge (attempt operation
          (request.attemptTimeout policy.attemptTimeout) request call moment) with
      | done outcome moment' =>
          rw [Policy.runFrom_of_done verdict]
          exact ended moment outcome moment' live verdict
      | again rule failure lastMoment moment' =>
          rw [Policy.runFrom_zero_of_again verdict]
          exact gaveUp failure _ (.exhausted (judge_again verdict).2)
            (repeated moment _ _ _ _ live verdict)
  | succ left ih =>
      cases verdict : policy.judge (attempt operation
          (request.attemptTimeout policy.attemptTimeout) request call moment) with
      | done outcome moment' =>
          rw [Policy.runFrom_of_done verdict]
          exact ended moment outcome moment' live verdict
      | again rule failure lastMoment moment' =>
          have live' : Live moment'.store := repeated moment _ _ _ _ live verdict
          have waited := policy.wait_store rule (policy.maxRetries - left) failure request
            lastMoment moment'
          rcases hwait : policy.wait rule (policy.maxRetries - left) failure request lastMoment
            moment' with ⟨_ | _, moment''⟩
          · rw [hwait] at waited
            rw [Policy.runFrom_of_stopped verdict hwait]
            exact gaveUp _ _ (givesUp_of_wait hwait) (waited ▸ live')
          · rw [hwait] at waited
            rw [Policy.runFrom_of_waited verdict hwait]
            exact ih moment'' (waited ▸ live')

/-- The induction over a run, when it does not matter with which failure it gives up. -/
theorem Policy.runFrom_preserves {policy : Policy} {operation : String} {request : Request}
    {call : Call σ α} (Live : σ → Prop) (Final : Except Failure α → σ → Prop)
    (gaveUp : ∀ failure store, Live store → Final (.error failure) store)
    (ended : ∀ moment outcome moment', Live moment.store →
      policy.judge (attempt operation (request.attemptTimeout policy.attemptTimeout) request call
        moment) = .done outcome moment' → Final outcome moment'.store)
    (repeated : ∀ moment rule failure lastMoment moment', Live moment.store →
      policy.judge (attempt operation (request.attemptTimeout policy.attemptTimeout) request call
        moment) = .again rule failure lastMoment moment' → Live moment'.store)
    (left : Nat) (moment : Moment σ) (live : Live moment.store) :
    Final (policy.runFrom operation request call left moment).1
      (policy.runFrom operation request call left moment).2.store :=
  runFrom_leads Live Final (fun failure store _ => gaveUp failure store) ended repeated left moment
    live

/-- **What every reply to a call preserves, a run of the call preserves**, whether the replies are
waited for or not. -/
theorem Policy.run_store {call : Call σ α} (P : σ → Prop)
    (settled : ∀ now store, P store → P (call now store).settled)
    (dropped : ∀ now store, P store → P (call now store).dropped)
    (policy : Policy) (operation : String) (request : Request) (moment : Moment σ)
    (holds : P moment.store) : P (policy.run operation request call moment).2.store := by
  have afterAttempt : ∀ moment : Moment σ, P moment.store →
      P (attempt operation (request.attemptTimeout policy.attemptTimeout) request call
        moment).moment.store := by
    intro moment holds
    have ends := attempt_ends operation (request.attemptTimeout policy.attemptTimeout) request call
      moment
    generalize attempt operation (request.attemptTimeout policy.attemptTimeout) request call
      moment = ending at ends
    cases ends with
    | notMade _ => exact holds
    | abandoned now => exact dropped _ _ holds
    | answered ms _ _ => exact settled _ _ holds
    | timedOut _ => exact dropped _ _ holds
  refine runFrom_preserves P (fun _ => P) (fun _ _ live => live) ?_ ?_ policy.maxRetries moment
    holds
  · intro moment outcome moment' live verdict
    rw [← judge_done verdict]
    exact afterAttempt moment live
  · intro moment rule failure lastMoment moment' live verdict
    have same := congrArg Ending.moment (judge_again verdict).1
    rw [← show _ = moment' from same]
    exact afterAttempt moment live

/-- A run that succeeds does so with an answer of the store to its call. -/
theorem Policy.run_ok {policy : Policy} {operation : String} {request : Request}
    {call : Call σ α} {moment : Moment σ} {value : α}
    (succeeds : (policy.run operation request call moment).1 = .ok value) :
    ∃ now store, (call now store).outcome = .ok value := by
  refine runFrom_preserves (fun _ => True)
    (fun outcome _ => outcome = .ok value → ∃ now store, (call now store).outcome = .ok value)
    (fun _ _ _ => nofun) ?_ (fun _ _ _ _ _ _ _ => trivial) policy.maxRetries moment trivial
    succeeds
  rintro moment outcome moment' - verdict rfl
  have ends := attempt_ends operation (request.attemptTimeout policy.attemptTimeout) request call
    moment
  generalize attempt operation (request.attemptTimeout policy.attemptTimeout) request call
    moment = ending at ends verdict
  cases ends with
  | notMade _ => cases verdict
  | abandoned _ => cases verdict
  | answered _ _ _ => exact ⟨_, _, judge_finished verdict⟩
  | timedOut _ => cases judge_finished verdict

/-! ### Answers that arrive at once -/

theorem attempt_of_atOnce {operation : String} {limit : Duration} {request : Request}
    {call : Call σ α} {moment : Moment σ} {outcome : Except Failure α} {store : σ}
    (live : request.cancelledBy? moment.now = none)
    (answer : call moment.now moment.store = .atOnce outcome store) :
    attempt operation limit request call moment =
      .finished outcome false { moment with store } := by
  have hfilter : (some 0 : Option Nat).filter (· ≤ limit.ticks) = some 0 := by simp
  simp [attempt, live, answer, Reply.atOnce, Moment.await, Moment.later, hfilter]

theorem Policy.run_of_atOnce {policy : Policy} {operation : String} {request : Request}
    {call : Call σ α} {moment : Moment σ} {outcome : Except Failure α} {store : σ}
    (live : request.cancelledBy? moment.now = none)
    (answer : call moment.now moment.store = .atOnce outcome store)
    (final : ∀ failure, outcome = .error failure → policy.ruleFor? failure = none) :
    policy.run operation request call moment = (outcome, { moment with store }) := by
  refine Policy.runFrom_of_done ?_
  rw [attempt_of_atOnce live answer]
  cases outcome with
  | ok value => rfl
  | error failure => simp only [Policy.judge, final failure rfl]

end DocumentClient.Retry
