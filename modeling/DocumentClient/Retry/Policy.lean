import DocumentClient.Failure
import DocumentClient.Settings

/-!
# DocumentClient.Retry.Policy

**Which failures are worth another attempt**, how long to wait before it, and how many attempts
there are. A policy is a list of rules; the first rule that matches a failure decides. The wait
depends on the number of the repetition, on the failure, and on a number drawn at random.

* There are two policies. `forPoints` is for single documents and queries, and tries again
  whatever may go away by itself; `forBatches` is for batches, and tries again only what is known
  to have had no effect.
* The base delay is doubled with every repetition up to the sixteenth, and stays within the
  longest duration. What is drawn at random is added to it, and the sum may be no duration at all;
  then there is no wait, and `delayFor` says so.
* A hint of the store takes the place of both. It is followed to the letter, and nothing is drawn
  (`drawsFor`), so the numbers that are drawn later do not depend on it.
* The number of attempts is one more than that of repetitions, if that is a word of 32 bits
  (`maxAttempts?`).
-/

namespace DocumentClient.Retry

/-- How a rule finds the length of a wait. -/
inductive Backoff where
  /-- As long as the store asked for; if it did not say, as for `exponential`. -/
  | hint
  /-- Twice as long with every repetition. -/
  | exponential
  deriving DecidableEq, Repr

/-- A class of failures, and how to wait after one of them. -/
structure Rule where
  /-- The name of the rule. -/
  name : String
  /-- Does the failure belong to the class? -/
  accepts : Failure → Bool
  /-- How to wait. -/
  backoff : Backoff

namespace Rule

/-- The store takes no more calls for now. -/
def isRateLimited : Failure → Bool
  | .rateLimited _ _ => true
  | _ => false

/-- The store refused the call before it did anything. -/
def isNotExecuted : Failure → Bool
  | .serviceUnavailable _ | .gone _ => true
  | _ => false

/-- Calls that the store had no room for. -/
def rateLimited : Rule := ⟨"rate-limited", isRateLimited, .hint⟩

/-- Failures that may go away by themselves. -/
def transient : Rule := ⟨"transient", Failure.isTransient, .exponential⟩

/-- Calls that are known to have had no effect. -/
def notExecuted : Rule := ⟨"not-executed", isNotExecuted, .exponential⟩

end Rule

/-- When and how often to repeat a failed call. -/
structure Policy where
  /-- The rules; the first that accepts a failure counts. -/
  rules : List Rule
  /-- How many repetitions there are at most. -/
  maxRetries : Nat
  /-- The wait before the first attempt would be this long. -/
  baseDelay : Duration := .ofSeconds 1
  /-- How much longer a wait may be, at random. -/
  maxJitter : Duration := .ofSeconds 1
  /-- How long one attempt may take. -/
  attemptTimeout : Duration

namespace Policy

/-- The policy for single documents and queries: whatever may go away is tried again. -/
def forPoints (maxRetries : Nat) (attemptTimeout : Duration) : Policy :=
  { rules := [Rule.rateLimited, Rule.transient], maxRetries, attemptTimeout }

/-- The policy for batches: a batch that may have been applied is not sent again. -/
def forBatches (maxRetries : Nat) (attemptTimeout : Duration) : Policy :=
  { rules := [Rule.rateLimited, Rule.notExecuted], maxRetries, attemptTimeout }

/-- The policy for single documents that settings ask for. -/
def ofSettings (settings : Settings) : Policy :=
  forPoints settings.retryAttempts settings.requestTimeout

/-- The policy for batches that settings ask for. -/
def batchesOfSettings (settings : Settings) : Policy :=
  forBatches settings.retryAttempts settings.requestTimeout

/-- How many attempts a failure that keeps coming back gets, if the number is a word of 32
bits. -/
def maxAttempts? (policy : Policy) : Option Nat :=
  if policy.maxRetries + 1 ≤ Word.max32 then some (policy.maxRetries + 1) else none

/-- The first rule that accepts a failure. -/
def ruleFor? (policy : Policy) (failure : Failure) : Option Rule :=
  policy.rules.find? fun rule => rule.accepts failure

/-! ## Waiting -/

/-- From this repetition on the wait grows no longer. -/
def lastDoubling : Nat := 16

/-- The wait before a repetition, apart from what is added at random: the base delay doubled
once for every repetition up to the sixteenth. -/
def backoffDelay (policy : Policy) (retry : Nat) : Duration :=
  policy.baseDelay.saturatingMul (Nat.pow 2 (Nat.min retry lastDoubling))

/-- How many milliseconds are added to a wait at most. The number is a word of 64 bits, and
what exceeds it is lost. -/
def jitterBound (policy : Policy) : Nat :=
  policy.maxJitter.millis % (Word.max64 + 1)

/-- What a number drawn at random adds to a wait: whole milliseconds up to the bound. -/
def jitter (policy : Policy) (draw : Nat) : Duration :=
  .ofMillis (draw % (policy.jitterBound + 1))

/-- The hint of a failure, if the rule asks for it. -/
def hintFor? (rule : Rule) (failure : Failure) : Option Duration :=
  match rule.backoff with
  | .hint => failure.hint?
  | .exponential => none

/-- The wait before a repetition, if it is a duration. A hint is followed to the letter. -/
def delayFor (policy : Policy) (rule : Rule) (retry : Nat) (failure : Failure) (draw : Nat) :
    Option Duration :=
  match hintFor? rule failure with
  | some hint => some hint
  | none => (policy.backoffDelay retry).add? (policy.jitter draw)

/-- Is a number drawn for the wait after a failure? Not if the store said how long it is, or if
nothing is ever added. -/
def drawsFor (policy : Policy) (rule : Rule) (failure : Failure) : Bool :=
  (hintFor? rule failure).isNone && policy.jitterBound != 0

end Policy

end DocumentClient.Retry
