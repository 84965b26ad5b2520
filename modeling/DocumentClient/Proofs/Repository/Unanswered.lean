import DocumentClient.Proofs.Connection
import DocumentClient.Proofs.Repository.Answers
import DocumentClient.Proofs.Retry.Attempts

/-!
# DocumentClient.Proofs.Repository.Unanswered

**What was done although nobody heard of it is done again.** The policy for points tries a call
again after a time that was up and after a connection that broke, and then nobody knows whether the
store had applied the call. Nothing else is assumed of the store: `Call.Accounts` says that a store
notes each time a call reaches it and whether it applied it, that it has applied what it reports
success for, and that it has not applied what it answers with a failure of another kind.

* `Execution` is what a store notes, and `Effect.times` what so many applications of a call make
  of what is stored.
* `Repository.repeats_unanswered` is what it means for changes and for removals: a patch is
  applied once, and once more for each execution that was applied and went unanswered; a removal
  that went unanswered is reported as nothing to remove.

## Proof shape

* `SoFar` is the invariant of a run: of the executions so far only those that went unanswered were
  applied, and what is stored is what so many applications make of the beginning. `SoFar.goesOn`
  keeps it from one attempt to the next, `SoFar.ends` concludes.
* `Call.Accounts.run` is the induction over the attempts. Time and cancellation come in only
  through the answer that an attempt gets, if it gets one.
* `removing_times` says why removals differ from changes: the second one finds nothing.
* `Lossy` is a store that loses its first answer, where both can be seen.
-/

namespace DocumentClient

open Store Retry

variable {σ α : Type}

/-! ### Executions of a call -/

/-- The failures after which nobody knows whether a call was executed. -/
def Failure.isUnanswered : Failure → Bool
  | .timeout _ | .transport _ => true
  | _ => false

/-- An execution of a call, as the store knows it. -/
structure Execution where
  /-- After how many milliseconds the store answers; none if it never does. -/
  after : Option Nat
  /-- The failure that it answers with, if it does not report success. -/
  failure : Option Failure
  /-- Was the call applied? -/
  applied : Bool

/-- Nobody learned within a limit whether the call was applied. -/
def Execution.WentUnanswered (limit : Duration) (execution : Execution) : Prop :=
  (∀ ms, execution.after = some ms → limit.ticks < ms) ∨
    ∃ failure, execution.failure = some failure ∧ failure.isUnanswered = true

/-- The failure of an outcome, if it is one. -/
def failureOf : Except Failure α → Option Failure
  | .ok _ => none
  | .error failure => some failure

/-- What is looked at in a store: the executions of a call so far, and what is stored under the id
that the call is about. -/
structure Account (σ : Type) where
  /-- The executions so far. -/
  executions : σ → List Execution
  /-- The document under the id, if there is one. -/
  stored : σ → Option Json

/-- What a call makes of what is stored, if it can be applied to that. -/
abbrev Effect : Type :=
  Option Json → Option (Option Json)

/-- What several applications make of what is stored. -/
def Effect.times (effect : Effect) : Nat → Option Json → Option (Option Json)
  | 0, stored => some stored
  | n + 1, stored => (effect.times n stored).bind effect

/-- What an execution makes of what is stored. -/
def Effect.of (effect : Effect) (applied : Bool) (stored : Option Json) : Option (Option Json) :=
  if applied then effect stored else some stored

/-- A store accounts for a call. Each execution is noted, whether its answer is waited for or not;
it is applied if the store reports success, and not if the store answers with a failure that leaves
no doubt. `reports` is what an answer says of what is stored then. -/
structure Call.Accounts (call : Call σ α) (account : Account σ) (effect : Effect)
    (reports : α → Option Json → Prop) : Prop where
  /-- What is noted once the answer has arrived. -/
  settled : ∀ now state, ∃ applied,
    account.executions (call now state).settled = account.executions state ++
        [⟨(call now state).after, failureOf (call now state).outcome, applied⟩] ∧
      effect.of applied (account.stored state) =
        some (account.stored (call now state).settled) ∧
      (∀ value, (call now state).outcome = .ok value →
        applied = true ∧ reports value (account.stored (call now state).settled)) ∧
      (∀ failure, (call now state).outcome = .error failure →
        failure.isUnanswered = false → applied = false) ∧
      (∀ failure, (call now state).outcome = .error failure →
        failure.isNotFound = true → account.stored state = none)
  /-- What is noted if nobody waits for the answer. -/
  dropped : ∀ now state, ∃ applied,
    account.executions (call now state).dropped = account.executions state ++
        [⟨(call now state).after, failureOf (call now state).outcome, applied⟩] ∧
      effect.of applied (account.stored state) =
        some (account.stored (call now state).dropped)

/-! ### Executions during a run -/

/-- A run has led to these executions, and to what is stored now. -/
structure Executed (account : Account σ) (effect : Effect) (begun now : σ)
    (executions : List Execution) : Prop where
  /-- The executions are noted. -/
  noted : account.executions now = account.executions begun ++ executions
  /-- What is stored is what those that were applied make of the beginning. -/
  stored : effect.times (executions.countP Execution.applied) (account.stored begun) =
    some (account.stored now)

/-- The invariant of a run: only executions that went unanswered were applied so far. -/
structure SoFar (account : Account σ) (effect : Effect) (limit : Duration) (begun now : σ)
    (executions : List Execution) : Prop extends
    Executed account effect begun now executions where
  /-- Those that were applied went unanswered. -/
  unanswered : ∀ e ∈ executions, e.applied = true → e.WentUnanswered limit

section

variable {account : Account σ} {effect : Effect} {limit : Duration} {begun now later : σ}
  {executions : List Execution}

/-- One more execution. -/
theorem Executed.concat (executed : Executed account effect begun now executions)
    {last : Execution} (noted : account.executions later = account.executions now ++ [last])
    (became : effect.of last.applied (account.stored now) = some (account.stored later)) :
    Executed account effect begun later (executions ++ [last]) where
  noted := by rw [noted, executed.noted, List.append_assoc]
  stored := by
    rw [List.countP_append]
    cases applied : last.applied with
    | true =>
        rw [List.countP_singleton, if_pos applied, Effect.times, executed.stored]
        rw [applied] at became
        exact became
    | false =>
        rw [List.countP_singleton, if_neg (by simp [applied]), Nat.add_zero, executed.stored]
        rw [applied] at became
        exact became

/-- What is known at the end of a run of its executions, of which one is the last. -/
structure RunEnds (account : Account σ) (effect : Effect) (limit : Duration) (begun now : σ)
    (earlier : List Execution) (last : Execution) : Prop extends
    Executed account effect begun now (earlier ++ [last]) where
  /-- Executions before the last one that were applied went unanswered. -/
  unanswered : ∀ e ∈ earlier, e.applied = true → e.WentUnanswered limit

theorem SoFar.ends (soFar : SoFar account effect limit begun now executions) {last : Execution}
    (noted : account.executions later = account.executions now ++ [last])
    (became : effect.of last.applied (account.stored now) = some (account.stored later)) :
    RunEnds account effect limit begun later executions last :=
  ⟨soFar.toExecuted.concat noted became, soFar.unanswered⟩

/-- The invariant is kept by an execution that went unanswered if it was applied. -/
theorem SoFar.goesOn (soFar : SoFar account effect limit begun now executions) {last : Execution}
    (noted : account.executions later = account.executions now ++ [last])
    (became : effect.of last.applied (account.stored now) = some (account.stored later))
    (unanswered : last.applied = true → last.WentUnanswered limit) :
    SoFar account effect limit begun later (executions ++ [last]) := by
  refine ⟨soFar.toExecuted.concat noted became, fun e mem applied => ?_⟩
  rcases List.mem_append.mp mem with mem | mem
  · exact soFar.unanswered e mem applied
  · obtain rfl := List.mem_singleton.mp mem
    exact unanswered applied

end

/-- What the outcome of a run says of its last execution: it was applied if the outcome is a
success, and if the outcome is that the document is missing, there is none. -/
def Concludes (account : Account σ) (effect : Effect) (limit : Duration)
    (reports : α → Option Json → Prop) (begun : σ) : Except Failure α → σ → Prop
  | .ok value, now =>
    ∃ earlier last, RunEnds account effect limit begun now earlier last ∧
      last.applied = true ∧ reports value (account.stored now)
  | .error failure, now =>
    failure.isNotFound = true →
      ∃ earlier last, RunEnds account effect limit begun now earlier last ∧
        last.applied = false ∧ account.stored now = none

/-- No policy for points or batches tries again because a document is missing. -/
theorem Retry.Policy.GivesUp.isNotFound {policy : Policy} (usual : policy.Usual)
    {failure : Failure} (h : policy.GivesUp failure) : failure.isNotFound = false := by
  cases h with
  | exhausted accepted =>
      have transient := usual.isTransient accepted
      cases failure <;> first
        | rfl
        | cases transient
  | overflow => rfl
  | cancelled => rfl

section

variable {call : Call σ α} {account : Account σ} {effect : Effect}
  {reports : α → Option Json → Prop} {limit : Duration} {begun : σ} {moment : Moment σ}
  {executions : List Execution}

/-- A run may end with an answer: it says of its execution what it should. -/
theorem Call.Accounts.concludes (accounts : Accounts call account effect reports)
    (soFar : SoFar account effect limit begun moment.store executions) :
    Concludes account effect limit reports begun (call moment.now moment.store).outcome
      (call moment.now moment.store).settled := by
  obtain ⟨applied, noted, became, successful, certain, missing⟩ :=
    accounts.settled moment.now moment.store
  have ended := soFar.ends noted became
  cases answer : (call moment.now moment.store).outcome with
  | ok value =>
      obtain ⟨isApplied, reported⟩ := successful value answer
      exact ⟨executions, _, ended, isApplied, reported⟩
  | error failure =>
      intro notFound
      -- a document that is missing leaves no doubt
      have isApplied := certain failure answer (by
        cases failure <;> first
          | rfl
          | cases notFound)
      refine ⟨executions, _, ended, isApplied, ?_⟩
      rw [isApplied] at became
      exact (Option.some.inj became).symm.trans (missing failure answer notFound)

/-- A run may go on after an answer that is a failure: if the call was applied all the same, the
failure leaves that open. -/
theorem Call.Accounts.goesOn (accounts : Accounts call account effect reports)
    (soFar : SoFar account effect limit begun moment.store executions) {failure : Failure}
    (failed : (call moment.now moment.store).outcome = .error failure) :
    ∃ executions', SoFar account effect limit begun (call moment.now moment.store).settled
      executions' := by
  obtain ⟨applied, noted, became, -, certain, -⟩ := accounts.settled moment.now moment.store
  refine ⟨_, soFar.goesOn noted became fun isApplied => .inr ⟨failure, ?_, ?_⟩⟩
  · rw [failed]
    rfl
  · by_contra answered
    rw [certain failure failed (by simpa using answered)] at isApplied
    cases isApplied

/-- A run may go on without an answer. -/
theorem Call.Accounts.goesOn_late (accounts : Accounts call account effect reports)
    (soFar : SoFar account effect limit begun moment.store executions)
    (late : ∀ ms, (call moment.now moment.store).after = some ms → limit.ticks < ms) :
    ∃ executions', SoFar account effect limit begun (call moment.now moment.store).dropped
      executions' := by
  obtain ⟨applied, noted, became⟩ := accounts.dropped moment.now moment.store
  exact ⟨_, soFar.goesOn noted became fun _ => .inl late⟩

end

/-- **The executions of a run.** Whatever the store does, and whenever the request is cancelled:
before the last execution only such were applied that went unanswered. -/
theorem Call.Accounts.run {call : Call σ α} {account : Account σ} {effect : Effect}
    {reports : α → Option Json → Prop} (accounts : Accounts call account effect reports)
    {policy : Policy} (usual : policy.Usual) (operation : String) (request : Request)
    (moment : Moment σ) :
    Concludes account effect (request.attemptTimeout policy.attemptTimeout) reports moment.store
      (policy.run operation request call moment).1
      (policy.run operation request call moment).2.store := by
  refine Policy.runFrom_leads
    (fun s => ∃ executions, SoFar account effect (request.attemptTimeout policy.attemptTimeout)
      moment.store s executions)
    (Concludes account effect (request.attemptTimeout policy.attemptTimeout) reports moment.store)
    ?gaveUp ?ended ?repeated policy.maxRetries moment
    ⟨[], ⟨(List.append_nil _).symm, rfl⟩, nofun⟩
  case gaveUp =>
    intro failure s givesUp _ missing
    rw [givesUp.isNotFound usual] at missing
    cases missing
  -- attempts before the last one are executions so far; the last one decides what is reported
  case ended =>
    rintro m outcome m' ⟨executions, soFar⟩ verdict
    have ends := attempt_ends operation (request.attemptTimeout policy.attemptTimeout) request
      call m
    have same := Policy.judge_done verdict
    generalize attempt operation (request.attemptTimeout policy.attemptTimeout) request call m =
      ending at ends verdict same
    subst same
    cases ends with
    | notMade cancelled =>
        cases verdict
        exact nofun
    | abandoned now =>
        cases verdict
        exact nofun
    | answered ms inTime after =>
        rw [← Policy.judge_finished verdict]
        exact accounts.concludes soFar
    | timedOut late =>
        rw [← Policy.judge_finished verdict]
        exact nofun
  case repeated =>
    rintro m rule failure lastMoment m' ⟨executions, soFar⟩ verdict
    have ends := attempt_ends operation (request.attemptTimeout policy.attemptTimeout) request
      call m
    rw [(Policy.judge_again verdict).1] at ends
    generalize ending : Ending.finished (.error failure) lastMoment m' = last at ends
    cases ends with
    | notMade => cases ending
    | abandoned => cases ending
    | answered ms inTime after =>
        simp only [Ending.finished.injEq] at ending
        obtain ⟨failed, -, rfl⟩ := ending
        exact accounts.goesOn soFar failed.symm
    | timedOut late =>
        simp only [Ending.finished.injEq] at ending
        obtain ⟨-, -, rfl⟩ := ending
        exact accounts.goesOn_late soFar late

/-! ### Changes and removals -/

/-- What a patch makes of a document: it is applied to the end, or not at all. -/
def patching (ops : List PatchOp) : Effect :=
  fun stored => stored.bind fun document =>
    match Patch.applyAll ops document with
    | (changed, none) => some (some changed)
    | (_, some _) => none

/-- What a removal makes of a document. -/
def removing : Effect :=
  fun stored => stored.map fun _ => none

theorem eq_none_of_removing_times {n : Nat} {stored after : Option Json}
    (h : removing.times (n + 1) stored = some after) : after = none := by
  obtain ⟨between, -, removed⟩ := Option.bind_eq_some_iff.mp h
  obtain ⟨document, -, nothing⟩ := Option.map_eq_some_iff.mp removed
  exact nothing.symm

/-- If nothing is left, a document was removed once, if there was one. -/
theorem removing_times {n : Nat} {stored : Option Json}
    (h : removing.times n stored = some none) : n = if stored.isSome then 1 else 0 := by
  match n, stored with
  | 0, none => rfl
  | 0, some document => cases h
  | 1, none => cases h
  | 1, some document => rfl
  | n + 2, stored =>
      have twice : ∀ between, (removing between).bind removing = none := by
        intro between
        cases between <;> rfl
      have none : removing.times (n + 2) stored = none := by
        rw [Effect.times, Effect.times, Option.bind_assoc, funext twice]
        exact Option.bind_fun_none _
      rw [none] at h
      cases h

namespace Repository

variable {repository : Repository} {store : Store σ} {account : Account σ} {id : String}
  {key : PartitionKey}

/-- A patch is applied once by the last execution, and by each earlier one that was applied. -/
theorem patch_repeats {ops : List PatchOp}
    (accounts : Call.Accounts (store.patchItem repository.handle.container id key ops) account
      (patching ops) fun response stored => stored = some response.resource)
    (usual : repository.policy.Usual) (request : Request) (moment : Moment σ)
    {document : Document}
    (patched : (repository.patch store request id key ops moment).1 = .ok document) :
    ∃ earlier last,
      RunEnds account (patching ops) (request.attemptTimeout repository.policy.attemptTimeout)
        moment.store (repository.patch store request id key ops moment).2.store earlier last ∧
      (patching ops).times (earlier.countP Execution.applied + 1)
        (account.stored moment.store) = some (some document.toJson) ∧
      account.stored (repository.patch store request id key ops moment).2.store =
        some document.toJson := by
  cases checked : Patch.check ops with
  | error error =>
      rw [patch_of_refused checked] at patched
      cases patched
  | ok _ =>
      have concludes := accounts.run usual "patch" request moment
      generalize ran : repository.policy.run "patch" request
        (store.patchItem repository.handle.container id key ops) moment = run at concludes
      obtain ⟨outcome, moment'⟩ := run
      rw [patch_of_checked checked ran] at patched ⊢
      cases outcome with
      | error failure => cases patched
      | ok response =>
          obtain ⟨earlier, last, ends, isApplied, stored⟩ := concludes
          have same : document.toJson = response.resource := Document.toJson_of_decode patched
          rw [← same] at stored
          refine ⟨earlier, last, ends, ?_, stored⟩
          have all := ends.stored
          rwa [List.countP_append, List.countP_singleton, if_pos isApplied, stored] at all

/-- A removal is reported by its last execution; in the end nothing is stored. -/
theorem delete_repeats
    (accounts : Call.Accounts (store.deleteItem repository.handle.container id key) account
      removing fun _ _ => True)
    (usual : repository.policy.Usual) (request : Request) (moment : Moment σ) {removed : Bool}
    (deleted : (repository.delete store request id key moment).1 = .ok removed) :
    ∃ earlier last,
      RunEnds account removing (request.attemptTimeout repository.policy.attemptTimeout)
        moment.store (repository.delete store request id key moment).2.store earlier last ∧
      removed = last.applied ∧
      account.stored (repository.delete store request id key moment).2.store = none ∧
      (earlier ++ [last]).countP Execution.applied =
        if (account.stored moment.store).isSome then 1 else 0 := by
  have concludes := accounts.run usual "delete" request moment
  generalize ran : repository.policy.run "delete" request
    (store.deleteItem repository.handle.container id key) moment = run at concludes
  obtain ⟨outcome, moment'⟩ := run
  rw [delete_of_run ran] at deleted ⊢
  -- the last execution was applied if the store reported success, and not if it found nothing
  obtain ⟨earlier, last, ends, same, nothing⟩ : ∃ earlier last,
      RunEnds account removing (request.attemptTimeout repository.policy.attemptTimeout)
        moment.store moment'.store earlier last ∧ removed = last.applied ∧
        account.stored moment'.store = none := by
    cases outcome with
    | ok charge =>
        obtain rfl : true = removed := Except.ok.inj deleted
        obtain ⟨earlier, last, ends, isApplied, -⟩ := concludes
        have all := ends.stored
        rw [List.countP_append, List.countP_singleton, if_pos isApplied] at all
        exact ⟨earlier, last, ends, isApplied.symm, eq_none_of_removing_times all⟩
    | error failure =>
        unfold removedOf at deleted
        dsimp only at deleted
        split at deleted
        · obtain rfl : false = removed := Except.ok.inj deleted
          obtain ⟨earlier, last, ends, isApplied, nothing⟩ := concludes ‹_›
          exact ⟨earlier, last, ends, isApplied.symm, nothing⟩
        · cases deleted
  refine ⟨earlier, last, ends, same, nothing, ?_⟩
  have all := ends.stored
  rw [nothing] at all
  exact removing_times all

/-- **What went unanswered and was applied all the same is done again.** In a run that succeeds
only executions before the last one that went unanswered may have been applied besides it.

* A patch is applied once, and once more for each of them: so many applications make of the document
  what is stored in the end, and what is returned.
* After a removal nothing is stored, and one execution has removed the document if there was one; it
  is reported whether that was the last one. -/
theorem repeats_unanswered
    (patches : ∀ ops, Call.Accounts (store.patchItem repository.handle.container id key ops)
      account (patching ops) fun response stored => stored = some response.resource)
    (deletes : Call.Accounts (store.deleteItem repository.handle.container id key) account
      removing fun _ _ => True)
    (usual : repository.policy.Usual) (request : Request) (moment : Moment σ) :
    (∀ ops document, (repository.patch store request id key ops moment).1 = .ok document →
      ∃ earlier last,
        RunEnds account (patching ops) (request.attemptTimeout repository.policy.attemptTimeout)
          moment.store (repository.patch store request id key ops moment).2.store earlier last ∧
        (patching ops).times (earlier.countP Execution.applied + 1)
          (account.stored moment.store) = some (some document.toJson) ∧
        account.stored (repository.patch store request id key ops moment).2.store =
          some document.toJson) ∧
    (∀ removed, (repository.delete store request id key moment).1 = .ok removed →
      ∃ earlier last,
        RunEnds account removing (request.attemptTimeout repository.policy.attemptTimeout)
          moment.store (repository.delete store request id key moment).2.store earlier last ∧
        removed = last.applied ∧
        account.stored (repository.delete store request id key moment).2.store = none ∧
        (earlier ++ [last]).countP Execution.applied =
          if (account.stored moment.store).isSome then 1 else 0) :=
  ⟨fun ops _ patched => patch_repeats (patches ops) usual request moment patched,
    fun _ deleted => delete_repeats deletes usual request moment deleted⟩

end Repository

/-! ### A store that loses its first answer -/

/-- A store of one document. -/
structure Lossy where
  /-- The document, if there is one. -/
  document : Option Json
  /-- The executions so far. -/
  executions : List Execution := []

namespace Lossy

/-- What is looked at in the store. -/
def account : Account Lossy :=
  ⟨executions, document⟩

/-- Applies a call, if it can be applied; the first time the answer is lost. -/
def call (effect : Effect) (answer : Option Json → α) (refusal : Failure) : Call Lossy α :=
  fun _ lossy =>
    let document := (effect lossy.document).getD lossy.document
    let applied := (effect lossy.document).isSome
    let outcome :=
      if lossy.executions.isEmpty then .error (.timeout "lost")
      else if applied then .ok (answer document)
      else .error refusal
    .atOnce outcome
      ⟨document, lossy.executions ++ [⟨some 0, failureOf outcome, applied⟩]⟩

/-- The store, which serves changes and removals. -/
def store : Store Lossy where
  readDatabase _ _ := .atOnce (.error (.internal "not served"))
  createDatabase _ _ _ := .atOnce (.error (.internal "not served"))
  createContainer _ _ _ := .atOnce (.error (.internal "not served"))
  openContainer _ _ _ lossy := lossy
  dispose _ lossy := lossy
  readItem _ _ _ _ := .atOnce (.error (.internal "not served"))
  upsertItem _ _ _ _ := .atOnce (.error (.internal "not served"))
  deleteItem _ _ _ := call removing (fun _ => .zero) (.notFound "gone")
  patchItem _ _ _ ops :=
    call (patching ops) (fun document => ⟨document.getD .null, .zero⟩) (.validation "no")
  queryItems _ _ _ _ := .atOnce (.error (.internal "not served"))
  executeBatch _ _ _ _ := .atOnce (.error (.internal "not served"))
  pageBound _ _ := 0

/-- The store accounts for its calls. -/
theorem accounts_call {effect : Effect} {answer : Option Json → α} {refusal : Failure}
    {reports : α → Option Json → Prop}
    (answers : ∀ before after, effect before = some after → reports (answer after) after)
    (missing : ∀ before, effect before = none → refusal.isNotFound = true → before = none) :
    Call.Accounts (call effect answer refusal) account effect reports where
  settled now lossy := by
    refine ⟨(effect lossy.document).isSome, rfl, ?_, ?_, ?_, ?_⟩
    · cases became : effect lossy.document <;> simp [call, account, Effect.of, Reply.atOnce, became]
    · intro value success
      cases first : lossy.executions.isEmpty <;> cases became : effect lossy.document <;>
        simp [call, account, Reply.atOnce, first, became] at success ⊢
      exact success ▸ answers _ _ became
    · intro failure failed certain
      cases first : lossy.executions.isEmpty <;> cases became : effect lossy.document <;>
        simp [call, Reply.atOnce, first, became] at failed ⊢
      rw [← failed] at certain
      cases certain
    · intro failure failed notFound
      cases first : lossy.executions.isEmpty <;> cases became : effect lossy.document <;>
        simp [call, account, Reply.atOnce, first, became] at failed ⊢
      · exact missing _ became (failed ▸ notFound)
      · rw [← failed] at notFound
        cases notFound
      · rw [← failed] at notFound
        cases notFound
  dropped now lossy := by
    refine ⟨(effect lossy.document).isSome, rfl, ?_⟩
    cases became : effect lossy.document <;> simp [call, account, Effect.of, Reply.atOnce, became]

theorem accounts_patchItem (container id : String) (key : PartitionKey) (ops : List PatchOp) :
    Call.Accounts (store.patchItem container id key ops) account (patching ops)
      fun response stored => stored = some response.resource := by
  change Call.Accounts (call (patching ops)
    (fun document => (⟨document.getD .null, .zero⟩ : ItemResponse)) (.validation "no")) _ _ _
  refine accounts_call (fun before after became => ?_) (fun _ _ notFound => nomatch notFound)
  obtain ⟨document, -, changed⟩ := Option.bind_eq_some_iff.mp became
  split at changed
  · cases changed
    rfl
  · cases changed

theorem accounts_deleteItem (container id : String) (key : PartitionKey) :
    Call.Accounts (store.deleteItem container id key) account removing fun _ _ => True := by
  change Call.Accounts (call removing (fun _ => Binary64.zero) (.notFound "gone")) _ _ _
  exact accounts_call (fun _ _ _ => trivial) fun _ nothing _ => Option.map_eq_none_iff.mp nothing

/-- A goal with a number. -/
def numbered (n : Int) : Json :=
  .obj [("id", .str "g1"), ("n", .int n), ("userId", .str "u1")]

/-- A store of a goal whose number is one. -/
def begun : Moment Lossy :=
  ⟨0, ⟨some (numbered 1), []⟩, []⟩

/-- To add one to the number. -/
def increment : List PatchOp :=
  [.increment "/n" (.int 1)]

end Lossy

open Lossy

/-- The number of a goal is increased twice by a patch whose first answer is lost, and the removal
of the goal whose first answer is lost is reported as nothing to remove. -/
theorem Repository.repeats_unanswered_lost :
    let patched := Repository.goals.patch Lossy.store {} "g1" (.ofText "u1") increment begun
    let deleted := Repository.goals.delete Lossy.store {} "g1" (.ofText "u1") begun
    (∃ earlier last,
      RunEnds account (patching increment) (.ofSeconds 30) begun.store patched.2.store earlier
          last ∧
        (patching increment).times (earlier.countP Execution.applied + 1)
          (account.stored begun.store) = some (some (numbered 3)) ∧
        account.stored patched.2.store = some (numbered 3)) ∧
    (∃ earlier last,
      RunEnds account removing (.ofSeconds 30) begun.store deleted.2.store earlier last ∧
        false = last.applied ∧ account.stored deleted.2.store = none ∧
        (earlier ++ [last]).countP Execution.applied =
          if (account.stored begun.store).isSome then 1 else 0) := by
  have repeats := @repeats_unanswered Lossy Repository.goals Lossy.store account "g1" (.ofText "u1")
    (accounts_patchItem _ _ _) (accounts_deleteItem _ _ _) goals_mapped.usual {} begun
  have three : (Repository.goals.patch Lossy.store {} "g1" (.ofText "u1") increment begun).1 =
      .ok ⟨[("id", .str "g1"), ("n", .int 3), ("userId", .str "u1")], "g1", rfl⟩ := rfl
  exact ⟨repeats.1 increment _ three, repeats.2 false rfl⟩

/-- **A patch may be applied twice, and a removal denied.** A store that accounts for its calls has
a goal whose number is one. When the first answer is lost, a patch that adds one succeeds and
leaves three, although its operations make two of it; and a removal succeeds and reports that
nothing was removed, although the goal was there and is not any more. -/
theorem Repository.patched_twice_and_removal_denied :
    let patched := Repository.goals.patch Lossy.store {} "g1" (.ofText "u1") increment begun
    let deleted := Repository.goals.delete Lossy.store {} "g1" (.ofText "u1") begun
    Repository.goals.policy = .forPoints 3 (.ofSeconds 30) ∧
      (∀ ops, Call.Accounts (Lossy.store.patchItem "Goals" "g1" (.ofText "u1") ops) account
        (patching ops) fun response stored => stored = some response.resource) ∧
      Call.Accounts (Lossy.store.deleteItem "Goals" "g1" (.ofText "u1")) account removing
        (fun _ _ => True) ∧
      patched.1.map Document.toJson = .ok (numbered 3) ∧
      account.stored patched.2.store = some (numbered 3) ∧
      patching increment (account.stored begun.store) = some (some (numbered 2)) ∧
      deleted.1 = .ok false ∧ account.stored begun.store = some (numbered 1) ∧
      account.stored deleted.2.store = none := by
  refine ⟨rfl, accounts_patchItem _ _ _, accounts_deleteItem _ _ _, ?_, ?_, ?_, ?_, ?_, ?_⟩
  · rfl
  · rfl
  · rfl
  · rfl
  · rfl
  · rfl

end DocumentClient
