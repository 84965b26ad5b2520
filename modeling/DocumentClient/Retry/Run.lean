import DocumentClient.Retry.Policy
import DocumentClient.Store

/-!
# DocumentClient.Retry.Run

**Making a call under a policy.** Every attempt is bounded in time, and one that takes too long is a
failure like any other. A request that is cancelled ends at that instant: cancellation wins over
anything else that is due then. Between attempts the run waits as the policy says.

* `attempt` makes one attempt and says how it ended; `judge` says what follows from that, and
  `wait` what comes between two attempts. Each can be understood without the others.
* `runFrom` puts them together and recurses on the repetitions that are left, so a run ends
  whatever the store does.
* The answer to a call that takes too long is not waited for, but the call may have its effect all
  the same. Which state of the store is meant then is for the store to say: it gives one for
  either case.
* An answer that arrives at the instant at which the time is up is in time.
-/

namespace DocumentClient.Retry

open DocumentClient.Store

/-- What a caller asks for besides the call itself. -/
structure Request where
  /-- How long one attempt may take; the policy sets an upper bound. -/
  timeout : Option Duration := none
  /-- The instant from which on the request is cancelled. -/
  cancelledFrom : Option Nat := none
  deriving Repr, Inhabited

namespace Request

/-- How long one attempt may take, given the bound of the policy. -/
def attemptTimeout (request : Request) (ceiling : Duration) : Duration :=
  match request.timeout with
  | some timeout => timeout.min ceiling
  | none => ceiling

/-- The instant of the cancellation, if it is not after the given one. -/
def cancelledBy? (request : Request) (instant : Nat) : Option Nat :=
  request.cancelledFrom.filter (· ≤ instant)

end Request

/-- How an attempt ends. -/
inductive Ending (σ α : Type) where
  /-- The request was cancelled before the attempt came to an end. -/
  | cancelled (moment : Moment σ)
  /-- The attempt gave a result, or took too long; `lastMoment` tells that the request was
  cancelled just before that. -/
  | finished (outcome : Except Failure α) (lastMoment : Bool) (moment : Moment σ)

/-- The failure of an attempt that took too long. -/
def timedOut (operation : String) (limit : Duration) : Failure :=
  .timeout (operation ++ " did not complete within " ++ limit.text)

variable {σ α : Type}

/-- Makes one attempt at a call, unless the request is cancelled already. An answer that arrives
when the time is up is in time. -/
def attempt (operation : String) (limit : Duration) (request : Request) (call : Call σ α)
    (moment : Moment σ) : Ending σ α :=
  if (request.cancelledBy? moment.now).isSome then .cancelled moment
  else
    let reply := call moment.now moment.store
    if reply.cancels = .onCall then .cancelled { moment with store := reply.dropped }
    else
      let (answer, ended) := moment.await limit.ticks reply
      match request.cancelledBy? ended.now with
      | some instant => .cancelled { moment with now := instant, store := reply.dropped }
      | none =>
        match answer with
        | some outcome => .finished outcome (reply.cancels = .onAnswer) ended
        | none => .finished (.error (timedOut operation limit)) false ended

/-- What follows from the ending of an attempt. -/
inductive Verdict (σ α : Type) where
  /-- The run ends. -/
  | done (outcome : Except Failure α) (moment : Moment σ)
  /-- The call may be made again after a wait; the rule accepts the failure. -/
  | again (rule : Rule) (failure : Failure) (lastMoment : Bool) (moment : Moment σ)

namespace Policy

/-- Takes the number that a wait needs from those that will be drawn. -/
def draw (policy : Policy) (rule : Rule) (failure : Failure) (moment : Moment σ) :
    Nat × Moment σ :=
  if policy.drawsFor rule failure then
    (moment.draws.headD 0, { moment with draws := moment.draws.tail })
  else (0, moment)

/-- Waits before a repetition; a request that is cancelled meanwhile ends. -/
def wait (policy : Policy) (rule : Rule) (retry : Nat) (failure : Failure) (request : Request)
    (lastMoment : Bool) (moment : Moment σ) : Except Failure Unit × Moment σ :=
  let (drawn, moment) := policy.draw rule failure moment
  match policy.delayFor rule retry failure drawn with
  | none => (.error .overflow, moment)
  | some delay =>
    if lastMoment then (.error .cancelled, moment)
    else
      let woken := moment.later delay.ticks
      match request.cancelledBy? woken.now with
      | some instant =>
        (.error .cancelled, { moment with now := Nat.max instant moment.now })
      | none => (.ok (), woken)

/-- Judges the ending of an attempt: only a failure that a rule accepts is worth another one. -/
def judge (policy : Policy) : Ending σ α → Verdict σ α
  | .cancelled moment => .done (.error .cancelled) moment
  | .finished (.ok value) _ moment => .done (.ok value) moment
  | .finished (.error failure) lastMoment moment =>
    match policy.ruleFor? failure with
    | none => .done (.error failure) moment
    | some rule => .again rule failure lastMoment moment

/-- Makes a call, with `left` repetitions still allowed. -/
def runFrom (policy : Policy) (operation : String) (request : Request) (call : Call σ α) :
    Nat → Action (Moment σ) α
  | left, moment =>
    let limit := request.attemptTimeout policy.attemptTimeout
    match policy.judge (attempt operation limit request call moment) with
    | .done outcome moment => (outcome, moment)
    | .again rule failure lastMoment moment =>
      match left with
      | 0 => (.error failure, moment)
      | left + 1 =>
        match policy.wait rule (policy.maxRetries - left) failure request lastMoment moment with
        | (.error failure, moment) => (.error failure, moment)
        | (.ok (), moment) => policy.runFrom operation request call left moment

/-- Makes a call under a policy: the value of the first attempt that succeeds, else the failure
of the first one that no rule accepts, or of the last one. -/
def run (policy : Policy) (operation : String) (request : Request) (call : Call σ α) :
    Action (Moment σ) α :=
  policy.runFrom operation request call policy.maxRetries

end Policy

end DocumentClient.Retry
