import DocumentClient.Retry.Run

/-!
# DocumentClient.Retry.Script

**Calls that do as they are told, and runs of them.** The n-th attempt at a scripted call takes the
time, gives the answer and cancels the request as the script says; the state of the store is the
list of the instants at which attempts started. So the outcome of a run tells when it made its
attempts, and how many.

A `Rehearsal` is such a run under one of the two policies of the client, with nothing added to a
wait at random. All of its times are whole milliseconds, so that its course can be said in numbers,
without a duration.
-/

namespace DocumentClient.Retry

open DocumentClient.Store

variable {α : Type}

/-! ## Scripts -/

/-- What one attempt does. -/
structure ScriptedAttempt (α : Type) where
  /-- After how many milliseconds it answers; none if it never does. -/
  after : Option Nat
  /-- What it answers. -/
  outcome : Except Failure α
  /-- When it cancels its request. -/
  cancels : Cancels := .never

/-- The call that plays a script. The starts of attempts are noted with the last one first. -/
def scriptedCall (script : Nat → ScriptedAttempt α) : Call (List Nat) α :=
  fun now starts =>
    let entry := script starts.length
    { after := entry.after, outcome := entry.outcome, settled := now :: starts,
      dropped := now :: starts, cancels := entry.cancels }

/-- The script that a list gives, the last entry of which is played again and again. -/
def ScriptedAttempt.repeatLast (fallback : ScriptedAttempt α)
    (entries : List (ScriptedAttempt α)) (n : Nat) : ScriptedAttempt α :=
  entries.getD n (entries.getLast?.getD fallback)

/-- What a scripted call replies: the attempt is noted, whatever becomes of it. -/
theorem scriptedCall_eq {script : Nat → ScriptedAttempt α} {entry : ScriptedAttempt α}
    {moment : Moment (List Nat)} (h : script moment.store.length = entry) :
    scriptedCall script moment.now moment.store =
      { after := entry.after, outcome := entry.outcome, settled := moment.now :: moment.store,
        dropped := moment.now :: moment.store, cancels := entry.cancels } := by
  rw [scriptedCall, h]

/-! ## Rehearsals -/

/-- A call that is rehearsed under a policy, with all times in whole milliseconds. -/
structure Rehearsal (α : Type) where
  /-- Is the policy the one for batches, rather than the one for points? -/
  batches : Bool
  /-- How many repetitions there are at most. -/
  maxRetries : Nat
  /-- The base delay of the policy. -/
  base : Nat
  /-- How long the policy lets one attempt take. -/
  ceiling : Nat
  /-- How long the request lets one attempt take. -/
  override : Option Nat
  /-- The name of the operation. -/
  operation : String
  /-- After how long an attempt answers; none if it never does. -/
  after : Nat → Option Nat
  /-- What an attempt answers. -/
  outcome : Nat → Except Failure α

namespace Rehearsal

/-- The policy, which adds nothing to a wait at random. -/
def policy (r : Rehearsal α) : Policy :=
  let standard :=
    if r.batches then Policy.forBatches r.maxRetries (.ofMillis r.ceiling)
    else Policy.forPoints r.maxRetries (.ofMillis r.ceiling)
  { standard with baseDelay := .ofMillis r.base, maxJitter := .zero }

/-- The request, which is never cancelled. -/
def request (r : Rehearsal α) : Request := { timeout := r.override.map .ofMillis }

/-- The script, which never cancels the request either. -/
def script (r : Rehearsal α) (n : Nat) : ScriptedAttempt α :=
  { after := r.after n, outcome := r.outcome n }

/-- The run of the call, which starts at an instant. -/
def run (r : Rehearsal α) (now : Nat) (draws : List Nat) :
    Except Failure α × Moment (List Nat) :=
  r.policy.run r.operation r.request (scriptedCall r.script) ⟨now, [], draws⟩

/-- How long one attempt may take: what the request asks for, bounded by the policy. -/
def bound (r : Rehearsal α) : Nat := r.override.elim r.ceiling (Nat.min · r.ceiling)

/-- The policy allows as many repetitions as the rehearsal. -/
@[simp] theorem policy_maxRetries (r : Rehearsal α) : r.policy.maxRetries = r.maxRetries := by
  simp only [policy]
  split <;> rfl

/-- The policy lets an attempt take as long as the rehearsal. -/
@[simp] theorem policy_attemptTimeout (r : Rehearsal α) :
    r.policy.attemptTimeout = .ofMillis r.ceiling := by
  simp only [policy]
  split <;> rfl

end Rehearsal

end DocumentClient.Retry
