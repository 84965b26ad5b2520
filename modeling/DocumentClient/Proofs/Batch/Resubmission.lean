import DocumentClient.Proofs.Batch.AtMostOnce
import DocumentClient.Proofs.Retry.Policies

/-!
# DocumentClient.Proofs.Batch.Resubmission

**After which statuses a batch is submitted again.** The store reports statuses, and the policy for
batches looks at the failures that they are turned into: rate limiting, unavailability, and a
resource that moved away. `isRefusal_ofStatus_iff` says which statuses those are. Besides the three
that stand for them there is any status above 500 but one, also that of a gateway that got no proper
answer and cannot say whether the batch was applied.

The store is any one that notes the batches that are submitted to it (`Store.NotesBatches`); nothing
is assumed of what it did with a batch that it answers with a failure. An answer holds a failure and
no status, and several statuses may stand behind one failure; `ResubmittedByStatus` therefore speaks
of any statuses from which the failures may come.

## Proof shape

* `SubmittedUntil` relates what a run added to the account to how it ended, for a number of
  attempts that are left. It has one lemma for each way to end with the first attempt, and
  `SubmittedUntil.cons` for the step of one repetition.
* `NotesBatches.runFrom` is the induction over the repetitions.
* `Policy.runFrom_of_uncancelled` says that a run which nobody cancels does not end as cancelled, so
  that a cancellation is never mistaken for an answer of the store.
* `executeBatch_resubmitted` reads statuses off the failures. `badGateway_resubmitted` is a batch
  that is applied twice.
-/

namespace DocumentClient

open Store Retry

variable {σ : Type}

/-! ### Statuses -/

/-- The statuses after which a batch is submitted again. -/
def ResubmittedStatus (status : Nat) : Prop :=
  status = 410 ∨ status = 429 ∨ (500 < status ∧ status ≠ 504)

/-- **A failure is tried again by its status**, whatever else is reported. -/
theorem Failure.isRefusal_ofStatus_iff (status : Nat) (detail : String) (hint : Option Duration) :
    (Failure.ofStatus status detail hint).isRefusal = true ↔ ResubmittedStatus status := by
  unfold ofStatus ResubmittedStatus
  split
  case h_14 =>
    -- no status with a failure of its own is left
    have others : status ≠ 410 ∧ status ≠ 429 ∧ status ≠ 504 := ⟨‹_›, ‹_›, ‹_›⟩
    split <;> simp only [isRefusal, Bool.false_eq_true, true_iff, false_iff]
      <;> omega
  all_goals simp [isRefusal]

theorem Failure.ofStatus_ne_cancelled (status : Nat) (detail : String) (hint : Option Duration) :
    Failure.ofStatus status detail hint ≠ .cancelled := by
  unfold ofStatus
  split
  case h_14 => split <;> simp
  all_goals simp

/-! ### Submissions and how a run ends -/

/-- Did the store answer within a limit, and with this failure? -/
def Submission.FailedWithin (submission : Submission) (limit : Duration) (failure : Failure) :
    Prop :=
  ∃ ms, submission.after = some ms ∧ ms ≤ limit.ticks ∧ submission.outcome = .error failure

theorem Submission.FailedWithin.unique {submission : Submission} {limit : Duration}
    {failure failure' : Failure} (h : submission.FailedWithin limit failure)
    (h' : submission.FailedWithin limit failure') : failure = failure' := by
  obtain ⟨_, -, -, outcome⟩ := h
  obtain ⟨_, -, -, outcome'⟩ := h'
  exact Except.error.inj (outcome.symm.trans outcome')

/-- What a run with a number of attempts added to an account, and the outcome of the run. -/
structure SubmittedUntil {α : Type} (limit : Duration) (attempts : Nat)
    (submissions : List Submission) (outcome : Except Failure α) : Prop where
  /-- There is no submission only if the run was cancelled. -/
  nothing : submissions = [] → outcome = .error .cancelled
  /-- There are no more than the attempts. -/
  within : submissions.length ≤ attempts
  /-- Another submission follows only on a refusal in time. -/
  refused : ∀ s ∈ submissions.dropLast, ∃ failure, s.FailedWithin limit failure ∧
    failure.isRefusal = true
  /-- Any other failure in time is the outcome, unless the run was cancelled. -/
  failed : ∀ s ∈ submissions.getLast?, ∀ failure, s.FailedWithin limit failure →
    failure.isRefusal = false → outcome = .error failure ∨ outcome = .error .cancelled
  /-- So is a refusal in time once all attempts were made; until then only a cancellation keeps it
  from being followed by another submission. -/
  exhausted : ∀ s ∈ submissions.getLast?, ∀ failure, s.FailedWithin limit failure →
    failure.isRefusal = true →
      (submissions.length = attempts ∧ outcome = .error failure) ∨ outcome = .error .cancelled

namespace SubmittedUntil

variable {α : Type} {limit : Duration} {attempts : Nat} {submissions : List Submission}
  {outcome : Except Failure α} {s : Submission} {failure : Failure}

/-- A run may be cancelled before or during its first submission. -/
theorem of_cancelled (few : submissions.length ≤ 1) :
    SubmittedUntil limit (attempts + 1) submissions (.error .cancelled : Except Failure α) where
  nothing _ := rfl
  within := by omega
  refused s mem := by
    have length : submissions.dropLast.length = 0 := by
      rw [List.length_dropLast]
      omega
    rw [List.length_eq_zero_iff.mp length] at mem
    cases mem
  failed _ _ _ _ _ := .inr rfl
  exhausted _ _ _ _ _ := .inr rfl

/-- A run may end with its first submission, if no refusal was in time. -/
theorem of_last (last : ∀ failure, s.FailedWithin limit failure →
    failure.isRefusal = false ∧ outcome = .error failure) :
    SubmittedUntil limit (attempts + 1) [s] outcome where
  nothing := nofun
  within := by simp
  refused _ mem := absurd mem (by simp)
  failed s' same failure failed _ := by
    obtain rfl : s = s' := by simpa using same
    exact .inl (last failure failed).2
  exhausted s' same failure failed refusal := by
    obtain rfl : s = s' := by simpa using same
    rw [(last failure failed).1] at refusal
    cases refusal

/-- With its only attempt a run ends, whatever the failure. -/
theorem of_exhausted (failed : s.FailedWithin limit failure) :
    SubmittedUntil limit 1 [s] (.error failure : Except Failure α) where
  nothing := nofun
  within := Nat.le_refl 1
  refused _ mem := absurd mem (by simp)
  failed s' same failure' failed' _ := by
    obtain rfl : s = s' := by simpa using same
    rw [failed.unique failed']
    exact .inl rfl
  exhausted s' same failure' failed' _ := by
    obtain rfl : s = s' := by simpa using same
    rw [failed.unique failed']
    exact .inl ⟨rfl, rfl⟩

/-- **One repetition.** A run may go on after a submission that was refused in time. -/
theorem cons (h : SubmittedUntil limit attempts submissions outcome)
    (failed : s.FailedWithin limit failure) (refusal : failure.isRefusal = true) :
    SubmittedUntil limit (attempts + 1) (s :: submissions) outcome := by
  cases submissions with
  | nil =>
      obtain rfl := h.nothing rfl
      exact of_cancelled (Nat.le_refl 1)
  | cons next rest =>
      have last : (s :: next :: rest).getLast? = (next :: rest).getLast? :=
        List.getLast?_cons_cons
      refine ⟨nofun, Nat.succ_le_succ h.within, ?_, ?_, ?_⟩
      · rw [List.dropLast_cons_cons]
        exact List.forall_mem_cons.mpr ⟨⟨failure, failed, refusal⟩, h.refused⟩
      · rw [last]
        exact h.failed
      · rw [last, List.length_cons]
        intro s' mem failure' failed' refusal'
        exact (h.exhausted s' mem failure' failed' refusal').imp
          (fun ended => ⟨congrArg Nat.succ ended.1, ended.2⟩) id

end SubmittedUntil

/-! ### The account during a run -/

/-- A store notes the batches that are submitted to it. Each call adds one submission, which may
have been applied or not, whether its answer is waited for or not. -/
structure Store.NotesBatches (store : Store σ) (account : σ → List Submission) : Prop where
  /-- To prepare for calls of a container submits nothing. -/
  opened : ∀ database container now state,
    account (store.openContainer database container now state) = account state
  /-- The account once the answer has arrived. -/
  settled : ∀ container key operations now state,
    let reply := store.executeBatch container key operations now state
    ∃ applied, account reply.settled =
      account state ++ [⟨container, key, operations, reply.after, reply.outcome, applied⟩]
  /-- The account if nobody waits for the answer. -/
  dropped : ∀ container key operations now state,
    let reply := store.executeBatch container key operations now state
    ∃ applied, account reply.dropped =
      account state ++ [⟨container, key, operations, reply.after, reply.outcome, applied⟩]

/-- Is the submission a call of the store for this batch? -/
def Submission.IsCallOf (submission : Submission) (store : Store σ) (container : String)
    (key : PartitionKey) (operations : List Batch.Operation) : Prop :=
  submission.IsOf container key operations ∧
    ∃ now state, (store.executeBatch container key operations now state).outcome =
      submission.outcome

/-- The outcome of an attempt that ends a run, and what was submitted. -/
theorem Store.NotesBatches.attempt_done {store : Store σ} {account : σ → List Submission}
    (notes : store.NotesBatches account) {policy : Policy}
    (rules : ∀ failure, (policy.ruleFor? failure).isSome = failure.isRefusal)
    {operation : String} {limit : Duration} {request : Request} {container : String}
    {key : PartitionKey} {operations : List Batch.Operation} {moment moment' : Moment σ}
    {outcome : Except Failure Batch.Response}
    (verdict : policy.judge (attempt operation limit request
      (store.executeBatch container key operations) moment) = .done outcome moment')
    (attempts : Nat) :
    ∃ submissions, account moment'.store = account moment.store ++ submissions ∧
      (∀ s ∈ submissions, s.IsCallOf store container key operations) ∧
      SubmittedUntil limit (attempts + 1) submissions outcome := by
  have ends := attempt_ends operation limit request (store.executeBatch container key operations)
    moment
  generalize attempt operation limit request (store.executeBatch container key operations)
    moment = ending at ends verdict
  cases ends with
  | notMade h =>
      cases verdict
      exact ⟨[], (List.append_nil _).symm, by simp, .of_cancelled (Nat.zero_le 1)⟩
  | abandoned now =>
      cases verdict
      obtain ⟨applied, added⟩ := notes.dropped container key operations moment.now moment.store
      exact ⟨_, added, List.forall_mem_singleton.mpr ⟨⟨rfl, rfl, rfl⟩, _, _, rfl⟩,
        .of_cancelled (Nat.le_refl 1)⟩
  | answered ms inTime after =>
      obtain ⟨applied, added⟩ := notes.settled container key operations moment.now moment.store
      have result := Policy.judge_finished verdict
      obtain rfl := Policy.judge_done verdict
      refine ⟨_, added, List.forall_mem_singleton.mpr ⟨⟨rfl, rfl, rfl⟩, _, _, rfl⟩, .of_last ?_⟩
      rintro failure ⟨_, -, -, failed⟩
      have failed : (store.executeBatch container key operations moment.now
        moment.store).outcome = .error failure := failed
      refine ⟨?_, result.symm.trans failed⟩
      rw [← rules failure, Option.isSome_eq_false_iff, Option.isNone_iff_eq_none]
      cases accepted : policy.ruleFor? failure with
      | none => rfl
      | some rule =>
          rw [failed, Policy.judge_of_accepted accepted] at verdict
          cases verdict
  | timedOut late =>
      obtain ⟨applied, added⟩ := notes.dropped container key operations moment.now moment.store
      obtain rfl := Policy.judge_done verdict
      refine ⟨_, added, List.forall_mem_singleton.mpr ⟨⟨rfl, rfl, rfl⟩, _, _, rfl⟩, .of_last ?_⟩
      rintro failure ⟨ms, after, inTime, -⟩
      exact absurd inTime (Nat.not_le_of_lt (late ms after))

/-- An attempt that is repeated made one submission, which was refused in time. -/
theorem Store.NotesBatches.attempt_again {store : Store σ} {account : σ → List Submission}
    (notes : store.NotesBatches account) {policy : Policy}
    (rules : ∀ failure, (policy.ruleFor? failure).isSome = failure.isRefusal)
    {operation : String} {limit : Duration} {request : Request} {container : String}
    {key : PartitionKey} {operations : List Batch.Operation} {moment moment' : Moment σ}
    {rule : Rule} {failure : Failure} {lastMoment : Bool}
    (verdict : policy.judge (attempt operation limit request
      (store.executeBatch container key operations) moment) =
        .again rule failure lastMoment moment') :
    ∃ s : Submission, account moment'.store = account moment.store ++ [s] ∧
      s.IsCallOf store container key operations ∧ s.FailedWithin limit failure ∧
      failure.isRefusal = true := by
  obtain ⟨ending, accepted⟩ := Policy.judge_again verdict
  have refusal : failure.isRefusal = true := by rw [← rules, accepted, Option.isSome_some]
  have ends := attempt_ends operation limit request (store.executeBatch container key operations)
    moment
  rw [ending] at ends
  generalize same : Ending.finished (.error failure) lastMoment moment' = ending at ends
  cases ends with
  | notMade => cases same
  | abandoned => cases same
  | answered ms inTime after =>
      obtain ⟨applied, added⟩ := notes.settled container key operations moment.now moment.store
      simp only [Ending.finished.injEq] at same
      obtain ⟨outcome, -, rfl⟩ := same
      exact ⟨_, added, ⟨⟨rfl, rfl, rfl⟩, _, _, rfl⟩, ⟨ms, after, inTime, outcome.symm⟩, refusal⟩
  | timedOut =>
      -- a time that is up is no refusal
      simp only [Ending.finished.injEq, Except.error.injEq] at same
      rw [same.1] at refusal
      cases refusal

/-- **The account of a run that is over**: only refusals in time were followed by another
submission, and any other failure was the outcome. -/
theorem Store.NotesBatches.runFrom {store : Store σ} {account : σ → List Submission}
    (notes : store.NotesBatches account) {policy : Policy} (fit : policy.WaitsFit)
    (rules : ∀ failure, (policy.ruleFor? failure).isSome = failure.isRefusal)
    (operation : String) (request : Request) (container : String) (key : PartitionKey)
    (operations : List Batch.Operation) (left : Nat) (moment : Moment σ) :
    let ended := policy.runFrom operation request (store.executeBatch container key operations)
      left moment
    ∃ submissions, account ended.2.store = account moment.store ++ submissions ∧
      (∀ s ∈ submissions, s.IsCallOf store container key operations) ∧
      SubmittedUntil (request.attemptTimeout policy.attemptTimeout) (left + 1) submissions
        ended.1 := by
  -- on the repetitions that are left; a pause between attempts submits nothing
  induction left generalizing moment with
  | zero =>
      cases verdict : policy.judge (attempt operation
          (request.attemptTimeout policy.attemptTimeout) request
          (store.executeBatch container key operations) moment) with
      | done outcome moment' =>
          rw [Policy.runFrom_of_done verdict]
          exact notes.attempt_done rules verdict 0
      | again rule failure lastMoment moment' =>
          obtain ⟨s, added, isOf, failed, -⟩ := notes.attempt_again rules verdict
          rw [Policy.runFrom_zero_of_again verdict]
          exact ⟨[s], added, List.forall_mem_singleton.mpr isOf, .of_exhausted failed⟩
  | succ left ih =>
      cases verdict : policy.judge (attempt operation
          (request.attemptTimeout policy.attemptTimeout) request
          (store.executeBatch container key operations) moment) with
      | done outcome moment' =>
          rw [Policy.runFrom_of_done verdict]
          exact notes.attempt_done rules verdict (left + 1)
      | again rule failure lastMoment moment' =>
          obtain ⟨s, added, isOf, failed, refusal⟩ := notes.attempt_again rules verdict
          have waited := policy.wait_store rule (policy.maxRetries - left) failure request
            lastMoment moment'
          rcases wait : policy.wait rule (policy.maxRetries - left) failure request lastMoment
            moment' with ⟨failure' | _, moment''⟩
          · rw [wait] at waited
            rw [Policy.runFrom_of_stopped verdict wait]
            obtain rfl := fit.cancelled_of_wait wait
            exact ⟨[s], (congrArg account waited).trans added, List.forall_mem_singleton.mpr isOf,
              .of_cancelled (Nat.le_refl 1)⟩
          · rw [wait] at waited
            rw [Policy.runFrom_of_waited verdict wait]
            obtain ⟨rest, more, others, ended⟩ := ih moment''
            refine ⟨s :: rest, ?_, List.forall_mem_cons.mpr ⟨isOf, others⟩,
              ended.cons failed refusal⟩
            rw [more, congrArg account waited, added, List.append_assoc]
            rfl

/-! ### Executing a batch -/

/-- What executing a batch added to an account, and the outcome, in terms of the statuses that the
store reported: a failure may come from several, and what is said holds of each of them. -/
structure ResubmittedByStatus (limit : Duration) (attempts : Nat) (submissions : List Submission)
    (outcome : Except Failure Batch.Result) : Prop where
  /-- There are no more submissions than attempts. -/
  within : submissions.length ≤ attempts
  /-- Another submission follows only on a failure in time, and only with one of the statuses. -/
  resubmitted : ∀ s ∈ submissions.dropLast,
    (∃ status detail hint, s.FailedWithin limit (.ofStatus status detail hint)) ∧
      ∀ status detail hint, s.FailedWithin limit (.ofStatus status detail hint) →
        ResubmittedStatus status
  /-- The failure of the last submission is the outcome, unless the request was cancelled. -/
  ended : ∀ s ∈ submissions.getLast?, ∀ status detail hint,
    s.FailedWithin limit (.ofStatus status detail hint) →
      outcome = .error (.ofStatus status detail hint) ∨ outcome = .error .cancelled
  /-- If its status is one of those, all attempts were made. -/
  exhausted : ∀ s ∈ submissions.getLast?, ∀ status detail hint,
    s.FailedWithin limit (.ofStatus status detail hint) → ResubmittedStatus status →
      submissions.length = attempts ∨ outcome = .error .cancelled

theorem ResubmittedByStatus.nil (limit : Duration) (attempts : Nat)
    (outcome : Except Failure Batch.Result) : ResubmittedByStatus limit attempts [] outcome :=
  ⟨Nat.zero_le _, by simp, by simp, by simp⟩

/-- Refusals are read as statuses. -/
theorem SubmittedUntil.byStatus {limit : Duration} {attempts : Nat}
    {submissions : List Submission} {outcome : Except Failure Batch.Response}
    (h : SubmittedUntil limit attempts submissions outcome)
    (reports : ∀ s ∈ submissions, ∀ failure, s.outcome = .error failure →
      ∃ status detail hint, failure = .ofStatus status detail hint) :
    ResubmittedByStatus limit attempts submissions (outcome.map Batch.Result.ofResponse) := by
  have cancelled : outcome = .error .cancelled →
      outcome.map Batch.Result.ofResponse = .error .cancelled := by rintro rfl; rfl
  refine ⟨h.within, fun s mem => ?_, fun s last status detail hint failed => ?_,
    fun s last status detail hint failed resubmitted => ?_⟩
  · obtain ⟨failure, failed, refusal⟩ := h.refused s mem
    have outcome : s.outcome = .error failure := failed.choose_spec.2.2
    obtain ⟨status, detail, hint, rfl⟩ := reports s (List.dropLast_subset _ mem) failure outcome
    refine ⟨⟨status, detail, hint, failed⟩, fun status' detail' hint' failed' => ?_⟩
    rw [failed.unique failed'] at refusal
    exact (Failure.isRefusal_ofStatus_iff ..).mp refusal
  · have failure : outcome = .error (.ofStatus status detail hint) ∨
        outcome = .error .cancelled := by
      cases refusal : (Failure.ofStatus status detail hint).isRefusal with
      | false => exact h.failed s last _ failed refusal
      | true => exact (h.exhausted s last _ failed refusal).imp And.right id
    exact failure.imp (by rintro rfl; rfl) cancelled
  · have refusal := (Failure.isRefusal_ofStatus_iff status detail hint).mpr resubmitted
    exact (h.exhausted s last _ failed refusal).imp And.left cancelled

/-- **A batch is submitted again after certain statuses only.** Under the policy for batches, and
with a store that reports its failures by statuses, another submission follows only on an answer in
time with one of these statuses: 410, 429, or one above 500 other than 504. An answer with any other
status ends the run with its failure, and so does the last attempt, unless the request is cancelled
meanwhile. -/
theorem executeBatch_resubmitted (store : Store σ) (account : σ → List Submission)
    (notes : store.NotesBatches account)
    (reports : ∀ container key operations now state failure,
      (store.executeBatch container key operations now state).outcome = .error failure →
        ∃ status detail hint, failure = .ofStatus status detail hint)
    (repositories : List (String × Repository)) (maxRetries : Nat) (attemptTimeout : Duration)
    (request : Request) (operations : List Batch.Operation) (key : PartitionKey)
    (session : Session σ) :
    let unit : UnitOfWork :=
      { repositories, batchPolicy := .forBatches maxRetries attemptTimeout }
    let ended := unit.executeBatch store request operations key session
    ∃ container submissions,
      account ended.2.moment.store = account session.moment.store ++ submissions ∧
      (∀ s ∈ submissions, s.IsOf container key operations) ∧
      ResubmittedByStatus (request.attemptTimeout attemptTimeout) (maxRetries + 1) submissions
        ended.1 ∧
      (submissions ≠ [] → request.cancelledFrom = none →
        (∀ now state, (store.executeBatch container key operations now state).cancels = .never) →
          ended.1 ≠ .error .cancelled) := by
  intro unit ended
  change ∃ container submissions,
    account (unit.executeBatch store request operations key session).2.moment.store = _ ∧ _ ∧
      ResubmittedByStatus _ _ _ (unit.executeBatch store request operations key session).1 ∧
        (_ → _ → _ → (unit.executeBatch store request operations key session).1 ≠ _)
  have fit : unit.batchPolicy.WaitsFit := Policy.waitsFit_of_le Policy.standard_waits
  cases UnitOfWork.executeBatch_sends notes.opened unit request operations key session with
  | nothing executed same =>
      rw [executed]
      exact ⟨"", [], by rw [same, List.append_nil], by simp, .nil ..,
        fun submitted => absurd rfl submitted⟩
  | @batch container session₁ outcome moment same ran executed =>
      obtain ⟨submissions, added, calls, submitted⟩ := notes.runFrom fit
        (Policy.ruleFor?_forBatches_isSome maxRetries attemptTimeout) "batch" request container
        key operations maxRetries session₁.moment
      have live := @Policy.runFrom_of_uncancelled _ _ unit.batchPolicy "batch" request
        (store.executeBatch container key operations) session₁.moment fit
      have ran' : unit.batchPolicy.runFrom "batch" request
        (store.executeBatch container key operations) maxRetries session₁.moment =
          (outcome, moment) := ran
      rw [ran'] at added submitted
      rw [executed]
      refine ⟨container, submissions, by rw [added, same], fun s mem => (calls s mem).1,
        submitted.byStatus fun s mem failure failed => ?_, fun _ uncancelled never cancelled => ?_⟩
      · obtain ⟨-, now, state, answer⟩ := calls s mem
        exact reports _ _ _ _ _ failure (answer.trans failed)
      · refine live uncancelled never (fun now state answer => ?_) maxRetries ?_
        · obtain ⟨status, detail, hint, failed⟩ := reports _ _ _ _ _ _ answer
          exact Failure.ofStatus_ne_cancelled status detail hint failed.symm
        · rw [ran']
          cases outcome with
          | error failure => exact congrArg Except.error (Except.error.inj cancelled)
          | ok response => cases cancelled

/-- Every behaviour of a store is that of one that notes its batches. -/
theorem Ledger.notesBatches (treatments : Nat → Treatment) :
    (Ledger.store treatments).NotesBatches Ledger.submissions where
  opened _ _ _ _ := rfl
  settled _ _ _ _ _ := ⟨_, rfl⟩
  dropped _ _ _ _ _ := ⟨_, rfl⟩

/-- The first submission is refused; any other one is for a resource that is not there. -/
def refusedThenMissing : Nat → Treatment
  | 0 => ⟨some 0, .error (.ofStatus 503 "busy" none), false⟩
  | _ + 1 => ⟨some 0, .error (.ofStatus 404 "no container" none), false⟩

/-- A batch that is refused, and then told that its container is missing, ends with that. -/
theorem executeBatch_resubmitted_missing :
    let store := Ledger.store refusedThenMissing
    let goal : Batch.Operation := .ofDelete "Goal" "g1" (.ofText "u1")
    let unit : UnitOfWork := { batchPolicy := .forBatches 3 (.ofSeconds 30) }
    let session : Session Ledger := ⟨{ settings := {} }, ⟨0, {}, []⟩, 0⟩
    let ended := unit.executeBatch store {} [goal] (.ofText "u1") session
    store.NotesBatches Ledger.submissions ∧
    ended.1 = .error (.ofStatus 404 "no container" none) ∧
    ∃ submissions,
      ended.2.moment.store.submissions = session.moment.store.submissions ++ submissions ∧
      submissions.length = 2 ∧
      ResubmittedByStatus (.ofSeconds 30) 4 submissions ended.1 := by
  have notes := Ledger.notesBatches refusedThenMissing
  have statuses : ∀ n failure, (refusedThenMissing n).outcome = .error failure →
      ∃ status detail hint, failure = .ofStatus status detail hint := by
    intro n failure failed
    cases n <;> exact ⟨_, _, _, (Except.error.inj failed).symm⟩
  obtain ⟨-, submissions, added, -, byStatus, -⟩ := executeBatch_resubmitted
    (Ledger.store refusedThenMissing) Ledger.submissions notes
    (fun _ _ _ _ ledger => statuses ledger.submissions.length) [] 3 (.ofSeconds 30) {}
    [.ofDelete "Goal" "g1" (.ofText "u1")] (.ofText "u1") ⟨{ settings := {} }, ⟨0, {}, []⟩, 0⟩
  have two := congrArg List.length added
  exact ⟨notes, rfl, submissions, added, two.symm, byStatus⟩

/-- Every submission is applied, and the first one is answered by a gateway that got no proper
answer. -/
def appliedBehindGateway : Nat → Treatment
  | 0 => ⟨some 0, .error (.ofStatus 502 "bad gateway" none), true⟩
  | _ + 1 => ⟨some 0, .ok ⟨true, []⟩, true⟩

/-- A batch that a gateway answers with 502 is submitted again, and so it is applied twice. -/
theorem badGateway_resubmitted :
    let goal : Batch.Operation := .ofDelete "Goal" "g1" (.ofText "u1")
    let unit : UnitOfWork := { batchPolicy := .forBatches 3 (.ofSeconds 30) }
    let session : Session Ledger := ⟨{ settings := {} }, ⟨0, {}, []⟩, 0⟩
    let ended := unit.executeBatch (Ledger.store appliedBehindGateway) {} [goal] (.ofText "u1")
      session
    ended.2.moment.store.submissions.map Submission.outcome =
        [.error (.ofStatus 502 "bad gateway" none), .ok ⟨true, []⟩] ∧
      ended.2.moment.store.submissions.countP Submission.applied = 2 := by
  exact ⟨rfl, rfl⟩

end DocumentClient
