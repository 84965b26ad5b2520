import DocumentClient.Proofs.Batch.Execution
import DocumentClient.Proofs.Retry.Attempts

/-!
# DocumentClient.Proofs.Batch.AtMostOnce

**A batch is applied at most once.** Nothing is assumed of the store but that it applies a submitted
batch as a whole or not at all, and that it has not applied a batch that it refuses with one of
three failures: rate limiting, unavailability, and a resource that moved away. It may answer
anything else, late or never, and may have applied the batch all the same.

The store is any one that keeps an account of what was submitted to it (`Store.KeepsAccount`): each
call adds one `Submission`, with whether it was applied and how it was answered. Every store becomes
one by noting its calls, and `Ledger` is a store that is nothing but its account. A run is followed
by what it adds to the account, so that the state of the store is never looked into.

## Proof shape

* `RefusedSoFar` is the invariant of a run that goes on: every submission so far was refused in
  time and not applied. It is kept by a repetition (`RefusedSoFar.concat`) because the policy for
  batches makes another attempt after a refusal only (`ruleFor?_forBatches_isSome`).
* `AppliedAtMostOnce` is what is left of it at the end, where only the last submission may have
  been applied. The run may end without another submission, or with one of which nothing is known.
* An attempt that runs out of time is dropped by the client, not by the store: what the store did
  with it is in the account all the same, which is why a reply has two states.
* `Store.KeepsAccount.run` is the induction over the attempts. What the client does before and
  after the run submits nothing (`UnitOfWork.executeBatch_sends`).
-/

namespace DocumentClient

open Store Retry

variable {σ : Type}

/-! ### Which failures are tried again -/

/-- The failures of calls that the store has not executed. -/
def Failure.isRefusal : Failure → Bool
  | .rateLimited _ _ | .serviceUnavailable _ | .gone _ => true
  | _ => false

/-- The policy for batches makes another attempt after a refusal, and after no other failure. -/
theorem Retry.Policy.ruleFor?_forBatches_isSome (maxRetries : Nat) (attemptTimeout : Duration)
    (failure : Failure) :
    ((Policy.forBatches maxRetries attemptTimeout).ruleFor? failure).isSome =
      failure.isRefusal := by
  cases failure <;> rfl

/-! ### Accounts of submissions -/

/-- A batch that was submitted to a store, and what became of it. -/
structure Submission where
  /-- The container of the batch. -/
  container : String
  /-- The partition of the batch. -/
  key : PartitionKey
  /-- The operations of the batch. -/
  operations : List Batch.Operation
  /-- After how many milliseconds the store answers; none if it never does. -/
  after : Option Nat
  /-- What the store answers. -/
  outcome : Except Failure Batch.Response
  /-- Was the batch applied? -/
  applied : Bool

namespace Submission

/-- Was this batch submitted? -/
def IsOf (submission : Submission) (container : String) (key : PartitionKey)
    (operations : List Batch.Operation) : Prop :=
  submission.container = container ∧ submission.key = key ∧ submission.operations = operations

/-- Did the store answer within a limit, and with a refusal? -/
def WasRefusedWithin (submission : Submission) (limit : Duration) : Prop :=
  ∃ ms failure, submission.after = some ms ∧ ms ≤ limit.ticks ∧
    submission.outcome = .error failure ∧ failure.isRefusal = true

end Submission

/-- A store keeps an account of the batches that are submitted to it. Each call adds one
submission, which may have been applied or not, whether its answer is waited for or not. Only a
submission that is answered with a refusal is known not to have been applied. -/
structure Store.KeepsAccount (store : Store σ) (account : σ → List Submission) : Prop where
  /-- To prepare for calls of a container submits nothing. -/
  opened : ∀ database container now state,
    account (store.openContainer database container now state) = account state
  /-- The account once the answer has arrived. -/
  settled : ∀ container key operations now state,
    let reply := store.executeBatch container key operations now state
    ∃ applied, account reply.settled =
        account state ++ [⟨container, key, operations, reply.after, reply.outcome, applied⟩] ∧
      ∀ failure, reply.outcome = .error failure → failure.isRefusal = true → applied = false
  /-- The account if nobody waits for the answer. -/
  dropped : ∀ container key operations now state,
    let reply := store.executeBatch container key operations now state
    ∃ applied, account reply.dropped =
      account state ++ [⟨container, key, operations, reply.after, reply.outcome, applied⟩]

/-! ### The account during a run -/

/-- What a run has added to an account while it goes on: submissions of one batch, all of them
refused in time and not applied. -/
def RefusedSoFar (container : String) (key : PartitionKey) (operations : List Batch.Operation)
    (limit : Duration) (submissions : List Submission) : Prop :=
  ∀ s ∈ submissions, s.IsOf container key operations ∧ s.WasRefusedWithin limit ∧
    s.applied = false

/-- What a run has added to an account at its end: submissions of one batch, of which only the
last one may have been applied. -/
structure AppliedAtMostOnce (container : String) (key : PartitionKey)
    (operations : List Batch.Operation) (limit : Duration) (submissions : List Submission) :
    Prop where
  /-- The batch was applied at most once. -/
  once : submissions.countP Submission.applied ≤ 1
  /-- Nothing but the batch was submitted. -/
  isOf : ∀ s ∈ submissions, s.IsOf container key operations
  /-- Another submission followed only on one that the store refused in time. -/
  refused : ∀ s ∈ submissions.dropLast, s.WasRefusedWithin limit

section
variable {container : String} {key : PartitionKey} {operations : List Batch.Operation}
  {limit : Duration} {submissions : List Submission}

theorem RefusedSoFar.appliedAtMostOnce
    (h : RefusedSoFar container key operations limit submissions) :
    AppliedAtMostOnce container key operations limit submissions := by
  refine ⟨?_, fun s hs => (h s hs).1, fun s hs => (h s (List.dropLast_subset _ hs)).2.1⟩
  have none : submissions.countP Submission.applied = 0 :=
    List.countP_eq_zero.mpr fun s hs => by simp [(h s hs).2.2]
  omega

/-- A run may end with a submission of which nothing is known. -/
theorem RefusedSoFar.append (h : RefusedSoFar container key operations limit submissions)
    {last : Submission} (hlast : last.IsOf container key operations) :
    AppliedAtMostOnce container key operations limit (submissions ++ [last]) := by
  refine ⟨?_, ?_, ?_⟩
  · have none : submissions.countP Submission.applied = 0 :=
      List.countP_eq_zero.mpr fun s hs => by simp [(h s hs).2.2]
    rw [List.countP_append, none, Nat.zero_add]
    exact List.countP_le_length
  · intro s hs
    rcases List.mem_append.mp hs with hs | hs
    · exact (h s hs).1
    · exact List.mem_singleton.mp hs ▸ hlast
  · rw [List.dropLast_concat]
    exact fun s hs => (h s hs).2.1

theorem RefusedSoFar.concat (h : RefusedSoFar container key operations limit submissions)
    {last : Submission} (hlast : last.IsOf container key operations)
    (refused : last.WasRefusedWithin limit) (notApplied : last.applied = false) :
    RefusedSoFar container key operations limit (submissions ++ [last]) := by
  intro s hs
  rcases List.mem_append.mp hs with hs | hs
  · exact h s hs
  · exact List.mem_singleton.mp hs ▸ ⟨hlast, refused, notApplied⟩

end

/-- An attempt at a batch makes one submission, unless the request was cancelled before. -/
theorem Store.KeepsAccount.attempt {store : Store σ} {account : σ → List Submission}
    (keeps : store.KeepsAccount account) {operation : String} {limit : Duration}
    {request : Request} {container : String} {key : PartitionKey}
    {operations : List Batch.Operation} {moment : Moment σ} {ending : Ending σ Batch.Response}
    (ends : AttemptEnds operation limit request (store.executeBatch container key operations)
      moment ending) :
    account ending.moment.store = account moment.store ∨
      ∃ submission : Submission, submission.IsOf container key operations ∧
        account ending.moment.store = account moment.store ++ [submission] := by
  cases ends with
  | notMade => exact .inl rfl
  | abandoned now =>
      obtain ⟨applied, added⟩ := keeps.dropped container key operations moment.now moment.store
      exact .inr ⟨_, ⟨rfl, rfl, rfl⟩, added⟩
  | answered ms =>
      obtain ⟨applied, added, -⟩ :=
        keeps.settled container key operations moment.now moment.store
      exact .inr ⟨_, ⟨rfl, rfl, rfl⟩, added⟩
  | timedOut =>
      obtain ⟨applied, added⟩ := keeps.dropped container key operations moment.now moment.store
      exact .inr ⟨_, ⟨rfl, rfl, rfl⟩, added⟩

/-- An attempt at a batch that fails with a refusal made one submission, which was refused in
time and not applied. A time that is up is no refusal. -/
theorem Store.KeepsAccount.attempt_refused {store : Store σ} {account : σ → List Submission}
    (keeps : store.KeepsAccount account) {operation : String} {limit : Duration}
    {request : Request} {container : String} {key : PartitionKey}
    {operations : List Batch.Operation} {moment moment' : Moment σ} {failure : Failure}
    {lastMoment : Bool}
    (ends : AttemptEnds operation limit request (store.executeBatch container key operations)
      moment (.finished (.error failure) lastMoment moment'))
    (refusal : failure.isRefusal = true) :
    ∃ submission : Submission, submission.IsOf container key operations ∧
      submission.WasRefusedWithin limit ∧ submission.applied = false ∧
      account moment'.store = account moment.store ++ [submission] := by
  generalize hending : Ending.finished (.error failure) lastMoment moment' = ending at ends
  cases ends with
  | notMade => simp at hending
  | abandoned => simp at hending
  | answered ms inTime after =>
      obtain ⟨applied, added, notApplied⟩ :=
        keeps.settled container key operations moment.now moment.store
      simp only [Ending.finished.injEq] at hending
      obtain ⟨outcome, -, rfl⟩ := hending
      exact ⟨_, ⟨rfl, rfl, rfl⟩, ⟨ms, failure, after, inTime, outcome.symm, refusal⟩,
        notApplied failure outcome.symm refusal, added⟩
  | timedOut =>
      simp only [Ending.finished.injEq, Except.error.injEq] at hending
      rw [hending.1] at refusal
      cases refusal

/-- The account of a run that is over: whatever the store does, the batch was applied at most
once, and every submission but the last was refused in time. -/
theorem Store.KeepsAccount.run {store : Store σ} {account : σ → List Submission}
    (keeps : store.KeepsAccount account) {policy : Policy}
    (refusals : ∀ failure rule, policy.ruleFor? failure = some rule → failure.isRefusal = true)
    (operation : String) (request : Request) (container : String) (key : PartitionKey)
    (operations : List Batch.Operation) (moment : Moment σ) :
    ∃ submissions,
      account (policy.run operation request (store.executeBatch container key operations)
        moment).2.store = account moment.store ++ submissions ∧
      AppliedAtMostOnce container key operations
        (request.attemptTimeout policy.attemptTimeout) submissions := by
  refine Policy.runFrom_preserves
    (fun s => ∃ submissions, account s = account moment.store ++ submissions ∧
      RefusedSoFar container key operations (request.attemptTimeout policy.attemptTimeout)
        submissions)
    (fun _ s => ∃ submissions, account s = account moment.store ++ submissions ∧
      AppliedAtMostOnce container key operations
        (request.attemptTimeout policy.attemptTimeout) submissions)
    ?gaveUp ?ended ?repeated policy.maxRetries moment ⟨[], by simp, by simp [RefusedSoFar]⟩
  case gaveUp =>
    rintro failure s ⟨submissions, hs, refused⟩
    exact ⟨submissions, hs, refused.appliedAtMostOnce⟩
  case ended =>
    rintro m outcome m' ⟨submissions, hs, refused⟩ verdict
    have last := keeps.attempt (attempt_ends operation
      (request.attemptTimeout policy.attemptTimeout) request
      (store.executeBatch container key operations) m)
    rw [Policy.judge_done verdict] at last
    rcases last with same | ⟨submission, isOf, added⟩
    · exact ⟨submissions, same.trans hs, refused.appliedAtMostOnce⟩
    · exact ⟨submissions ++ [submission], by rw [added, hs, List.append_assoc],
        refused.append isOf⟩
  -- only refusals are repeated, and what was refused in time was not applied
  case repeated =>
    rintro m rule failure lastMoment m' ⟨submissions, hs, refused⟩ verdict
    obtain ⟨ending, accepted⟩ := Policy.judge_again verdict
    have ends := attempt_ends operation (request.attemptTimeout policy.attemptTimeout) request
      (store.executeBatch container key operations) m
    rw [ending] at ends
    obtain ⟨submission, isOf, inTime, notApplied, added⟩ :=
      keeps.attempt_refused ends (refusals failure rule accepted)
    exact ⟨submissions ++ [submission], by rw [added, hs, List.append_assoc],
      refused.concat isOf inTime notApplied⟩

/-! ### Executing a batch -/

/-- **A batch is applied at most once.** Under the policy for batches, with whatever number of
repetitions, time limits and instant of cancellation, and whatever the store does, executing a
batch adds submissions of that batch to the account, of which at most one was applied. Another
submission follows only on one that the store refused in time: never on an answer, on any other
failure, or on a time that was up. -/
theorem executeBatch_appliedAtMostOnce (store : Store σ) (account : σ → List Submission)
    (keeps : store.KeepsAccount account) (repositories : List (String × Repository))
    (maxRetries : Nat) (attemptTimeout : Duration) (request : Request)
    (operations : List Batch.Operation) (key : PartitionKey) (session : Session σ) :
    let unit : UnitOfWork :=
      { repositories, batchPolicy := .forBatches maxRetries attemptTimeout }
    let session' := (unit.executeBatch store request operations key session).2
    ∃ container submissions,
      account session'.moment.store = account session.moment.store ++ submissions ∧
      AppliedAtMostOnce container key operations (request.attemptTimeout attemptTimeout)
        submissions := by
  intro unit session'
  change ∃ container submissions,
    account (unit.executeBatch store request operations key session).2.moment.store = _ ∧ _
  have nothing : AppliedAtMostOnce "" key operations (request.attemptTimeout attemptTimeout) [] :=
    ⟨by simp, by simp, by simp⟩
  cases UnitOfWork.executeBatch_sends keeps.opened unit request operations key session with
  | nothing executed same =>
      rw [executed]
      exact ⟨"", [], by rw [same, List.append_nil], nothing⟩
  | @batch container session₁ outcome moment same ran executed =>
      have refusals : ∀ failure rule, unit.batchPolicy.ruleFor? failure = some rule →
          failure.isRefusal = true := by
        intro failure rule h
        rw [← Policy.ruleFor?_forBatches_isSome maxRetries attemptTimeout]
        exact Option.isSome_iff_exists.mpr ⟨rule, h⟩
      obtain ⟨submissions, added, once⟩ := keeps.run refusals "batch" request container key
        operations session₁.moment
      rw [ran] at added
      rw [executed]
      exact ⟨container, submissions, by rw [added, same], once⟩

/-! ### Every behaviour is that of a store -/

/-- What a store makes of one submission. -/
structure Treatment where
  /-- After how many milliseconds the store answers; none if it never does. -/
  after : Option Nat
  /-- What the store answers. -/
  outcome : Except Failure Batch.Response
  /-- Is the batch applied? -/
  applied : Bool

/-- A store that is nothing but its account. -/
structure Ledger where
  /-- The batches that were submitted so far. -/
  submissions : List Submission := []

/-- The store that treats one submission after the other as it is told to; it serves no other
calls. -/
def Ledger.store (treatments : Nat → Treatment) : Store Ledger where
  readDatabase _ _ := .atOnce (.error (.internal "not served"))
  createDatabase _ _ _ := .atOnce (.error (.internal "not served"))
  createContainer _ _ _ := .atOnce (.error (.internal "not served"))
  openContainer _ _ _ ledger := ledger
  dispose _ ledger := ledger
  readItem _ _ _ _ := .atOnce (.error (.internal "not served"))
  upsertItem _ _ _ _ := .atOnce (.error (.internal "not served"))
  deleteItem _ _ _ _ := .atOnce (.error (.internal "not served"))
  patchItem _ _ _ _ _ := .atOnce (.error (.internal "not served"))
  queryItems _ _ _ _ := .atOnce (.error (.internal "not served"))
  executeBatch container key operations _ ledger :=
    let treatment := treatments ledger.submissions.length
    let ledger : Ledger := ⟨ledger.submissions ++
      [⟨container, key, operations, treatment.after, treatment.outcome, treatment.applied⟩]⟩
    { after := treatment.after, outcome := treatment.outcome, settled := ledger,
      dropped := ledger }
  pageBound _ _ := 0

/-- All that is asked of the treatments is that a batch that is refused is not applied. -/
theorem Ledger.keepsAccount {treatments : Nat → Treatment}
    (h : ∀ n failure, (treatments n).outcome = .error failure → failure.isRefusal = true →
      (treatments n).applied = false) :
    (Ledger.store treatments).KeepsAccount Ledger.submissions where
  opened _ _ _ _ := rfl
  settled _ _ _ _ ledger := ⟨_, rfl, h ledger.submissions.length⟩
  dropped _ _ _ _ _ := ⟨_, rfl⟩

/-- The first submission is refused; any other one is applied, and never answered. -/
def refusedThenUnanswered : Nat → Treatment
  | 0 => ⟨some 0, .error (.serviceUnavailable "busy"), false⟩
  | _ + 1 => ⟨none, .ok ⟨true, []⟩, true⟩

/-- A batch that is refused, submitted again, applied and never answered is not submitted a
third time. -/
theorem executeBatch_appliedAtMostOnce_unanswered :
    let store := Ledger.store refusedThenUnanswered
    let request : Request := { timeout := some (.ofSeconds 10) }
    let goal : Batch.Operation := .ofDelete "Goal" "g1" (.ofText "u1")
    let unit : UnitOfWork := { batchPolicy := .forBatches 3 (.ofSeconds 30) }
    let session : Session Ledger := ⟨{ settings := {} }, ⟨0, {}, []⟩, 0⟩
    let session' := (unit.executeBatch store request [goal] (.ofText "u1") session).2
    store.KeepsAccount Ledger.submissions ∧
    ∃ container submissions,
      session'.moment.store.submissions = session.moment.store.submissions ++ submissions ∧
      AppliedAtMostOnce container (.ofText "u1") [goal]
        (request.attemptTimeout (.ofSeconds 30)) submissions := by
  have keeps : (Ledger.store refusedThenUnanswered).KeepsAccount Ledger.submissions := by
    refine Ledger.keepsAccount fun n failure outcome refusal => ?_
    cases n with
    | zero => rfl
    | succ n => cases outcome
  exact ⟨keeps, executeBatch_appliedAtMostOnce _ Ledger.submissions keeps [] 3 (.ofSeconds 30)
    { timeout := some (.ofSeconds 10) } [.ofDelete "Goal" "g1" (.ofText "u1")] (.ofText "u1")
    ⟨{ settings := {} }, ⟨0, {}, []⟩, 0⟩⟩

end DocumentClient
