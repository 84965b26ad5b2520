import DocumentClient.Action
import DocumentClient.Proofs.Batch.Execution
import DocumentClient.Proofs.Connection
import DocumentClient.Proofs.Repository.Answers

/-!
# DocumentClient.Proofs.Repository.Absorption

**Failures that are absorbed leave no trace.** A queue of failures waits in a container, and an
operation is performed once with it and once without.

* `Steady` says of a computation that only documents matter to it: two stores that differ in the
  number of calls lead to one answer and differ in that number still.
* `Absorbing` says of a computation what becomes of a queue in front of it. If the policy absorbs
  the queue, nothing but the number of calls tells the two runs apart; else the first failure that
  is not absorbed is the answer. `surface` is that answer, since a repository may answer a
  document that is missing.
* `Operation` lists what can be asked of repositories and units of work, by the type of the
  answer, and `Operation.Reaches` says whether the store is called at all.

## Proof shape

* A queue that a policy does not absorb has a first failure that ends the run (`exists_endsWith`),
  so that the two cases of `Absorbing` are all there are.
* The calls of a container are absorbing (`absorbing_run`), and so is whatever goes on steadily
  after one (`Absorbing.bind`): the queue is gone when the rest begins, so the rest meets two
  stores that are alike. To fetch pages is such a computation, with the queue in front of the
  first page.
* Checks that come before the call are another case: `Answering` is a computation that is refused
  before anything is sent, or has the queue in front of it.
* `Operation.leavesNoTrace` is the result for all operations, from one lemma for each.
-/

namespace DocumentClient

open Store Retry

variable {α β : Type}

/-! ### Queues of failures -/

namespace Retry.Policy

variable {policy : Policy}

/-- A queue that a policy absorbs: there are repetitions enough, and a rule accepts each
failure. -/
structure Absorbs (policy : Policy) (failures : List Failure) : Prop where
  /-- There is a repetition for each failure. -/
  within : failures.length ≤ policy.maxRetries
  /-- Each failure is accepted. -/
  accepted : ∀ failure ∈ failures, (policy.ruleFor? failure).isSome

/-- A failure that ends a run after those in front of it: no rule accepts it, or it is one more
than there are repetitions. -/
structure EndsWith (policy : Policy) (front : List Failure) (failure : Failure) : Prop where
  /-- There is a repetition for each failure in front. -/
  within : front.length ≤ policy.maxRetries
  /-- Each failure in front is accepted. -/
  accepted : ∀ other ∈ front, (policy.ruleFor? other).isSome
  /-- The failure itself is not absorbed. -/
  final : policy.ruleFor? failure = none ∨ front.length = policy.maxRetries

/-- In a list with too many members, or with one that is not accepted, there is a first one that
is either. -/
theorem exists_first_excess (accepts : Failure → Bool) (left : Nat) (failures : List Failure)
    (h : ¬(failures.length ≤ left ∧ ∀ failure ∈ failures, accepts failure)) :
    ∃ front failure back, failures = front ++ failure :: back ∧ front.length ≤ left ∧
      (∀ other ∈ front, accepts other) ∧ (accepts failure = false ∨ front.length = left) := by
  induction failures generalizing left with
  | nil => exact absurd ⟨Nat.zero_le left, by simp⟩ h
  | cons failure rest ih =>
      cases left with
      | zero => exact ⟨[], failure, rest, rfl, Nat.le_refl 0, by simp, .inr rfl⟩
      | succ left =>
          cases accepted : accepts failure with
          | false => exact ⟨[], failure, rest, rfl, Nat.zero_le _, by simp, .inl accepted⟩
          | true =>
              have excess : ¬(rest.length ≤ left ∧ ∀ other ∈ rest, accepts other) := by
                rintro ⟨within, all⟩
                exact h ⟨Nat.succ_le_succ within, by simpa [accepted] using all⟩
              obtain ⟨front, last, back, rfl, within, all, final⟩ := ih left excess
              refine ⟨failure :: front, last, back, rfl, Nat.succ_le_succ within, ?_, ?_⟩
              · simpa [accepted] using all
              · simpa using final

/-- A queue that is not absorbed has a first failure that ends the run. -/
theorem exists_endsWith {failures : List Failure} (h : ¬policy.Absorbs failures) :
    ∃ front failure back, failures = front ++ failure :: back ∧ policy.EndsWith front failure := by
  obtain ⟨front, failure, back, split, within, accepted, final⟩ :=
    exists_first_excess (fun failure => (policy.ruleFor? failure).isSome) policy.maxRetries
      failures fun excess => h ⟨excess.1, excess.2⟩
  exact ⟨front, failure, back, split, within, accepted, by simpa using final⟩

end Retry.Policy

/-! ### Two runs -/

/-- No failure waits in a container. -/
def Memory.quieted (memory : Memory) (name : String) : Memory :=
  memory.setContainer name { memory.container name with failures := [] }

/-- A store is the other one without the failures that wait in a container. -/
structure Memory.Quiets (name : String) (memory quiet : Memory) : Prop where
  /-- Only the failures are missing. -/
  here : quiet.container name = { memory.container name with failures := [] }
  /-- The other containers are the same. -/
  others : ∀ other, other ≠ name → quiet.container other = memory.container other

/-- Two stores without waiting failures that differ only in how often a container was called. -/
structure Memory.Alike (name : String) (extra : Nat) (memory quiet : Memory) : Prop where
  /-- The documents are the same. -/
  documents : (memory.container name).documents = (quiet.container name).documents
  /-- So many more calls have been made. -/
  calls : (memory.container name).calls = (quiet.container name).calls + extra
  /-- No failure waits in the first. -/
  emptied : (memory.container name).failures = []
  /-- No failure waits in the second. -/
  silent : (quiet.container name).failures = []
  /-- The other containers are the same. -/
  others : ∀ other, other ≠ name → memory.container other = quiet.container other

theorem Memory.quiets_quieted (memory : Memory) (name : String) :
    Memory.Quiets name memory (memory.quieted name) :=
  ⟨Memory.container_setContainer_self _ _ _,
    fun _ different => Memory.container_setContainer_of_ne different _ _⟩

/-- Calls that lead to the same documents keep two stores alike, apart from their numbers. -/
theorem Memory.Alike.of_serving {name : String} {extra more calls : Nat}
    {memory quiet memory' quiet' : Memory} {documents : Documents}
    (calledMore : (memory.container name).calls = (quiet.container name).calls + extra)
    (others : ∀ other, other ≠ name → memory.container other = quiet.container other)
    (served : Memory.Serving name memory memory' documents (calls + more) [])
    (served' : Memory.Serving name quiet quiet' documents calls []) :
    Memory.Alike name (extra + more) memory' quiet' where
  documents := by rw [served.documents, served'.documents]
  calls := by
    rw [served.calls, served'.calls, calledMore]
    omega
  emptied := served.failures
  silent := served'.failures
  others other different := by
    rw [served.others other different, served'.others other different, others other different]

/-! ### Computations that only documents matter to -/

/-- Moments that are alike lead to one answer, and to moments that are alike in the same way. -/
def Steady (name : String) (action : Action (Moment Memory) α) : Prop :=
  ∀ extra, action.Respects fun moment quiet => Memory.Alike name extra moment.store quiet.store

namespace Steady

variable {name : String}

theorem ofExcept (outcome : Except Failure α) :
    Steady name (Action.ofExcept outcome : Action (Moment Memory) α) :=
  fun _ => .ofExcept outcome

theorem bind {action : Action (Moment Memory) α} {next : α → Action (Moment Memory) β}
    (first : Steady name action) (rest : ∀ value, Steady name (next value)) :
    Steady name (action >>= next) :=
  fun extra => (first extra).bind fun value => rest value extra

end Steady

section

variable {policy : Policy} {request : Request} {name : String}
  {step : Memory.Container.Step α}

open Memory.Container in
theorem steady_run (operation : String) (usual : policy.Usual) (serves : Serves step)
    (conclusive : Conclusive step) (uncancelled : request.cancelledFrom = none) :
    Steady name (policy.run operation request (Memory.inContainer name step)) := by
  intro extra moment quiet alike
  have live := request.cancelledBy?_of_uncancelled uncancelled
  obtain ⟨memory, run, served⟩ := Policy.run_inContainer operation usual serves conclusive
    (live moment.now) alike.emptied policy.maxRetries
  obtain ⟨memory', run', served'⟩ := Policy.run_inContainer operation usual serves conclusive
    (live quiet.now) alike.silent policy.maxRetries
  rw [alike.documents] at run served
  rw [Policy.run, run, run']
  have servedOnce : Memory.Serving name moment.store memory _ (1 + 0) [] := served
  have alike' := Memory.Alike.of_serving alike.calls alike.others servedOnce served'
  exact ⟨rfl, alike'⟩

end

/-! ### Computations with a queue in front of them -/

/-- What becomes of a queue of failures in front of a computation under a policy; `surface` is
the answer that reports a failure. -/
structure Absorbing (policy : Policy) (name : String) (surface : Failure → Except Failure α)
    (action : Action (Moment Memory) α) : Prop where
  /-- If the queue is absorbed, only the number of calls tells of it. -/
  absorbs : ∀ moment quiet : Moment Memory, Memory.Quiets name moment.store quiet.store →
    policy.Absorbs (moment.store.container name).failures →
    (action moment).1 = (action quiet).1 ∧
      Memory.Alike name (moment.store.container name).failures.length (action moment).2.store
        (action quiet).2.store
  /-- Else the first failure that is not absorbed is reported, and nothing changes. -/
  surfaces : ∀ (moment : Moment Memory) (front : List Failure) (failure : Failure)
    (back : List Failure), (moment.store.container name).failures = front ++ failure :: back →
    policy.EndsWith front failure →
    (action moment).1 = surface failure ∧
      Memory.Serving name moment.store (action moment).2.store
        (moment.store.container name).documents (front.length + 1) back

section

variable {policy : Policy} {request : Request} {name : String}

open Memory.Container in
/-- **A call of a container** has a queue in front of it. -/
theorem absorbing_run {step : Memory.Container.Step α} (name operation : String)
    (usual : policy.Usual) (fit : policy.WaitsFit) (serves : Serves step)
    (conclusive : Conclusive step) (uncancelled : request.cancelledFrom = none) :
    Absorbing policy name .error
      (policy.run operation request (Memory.inContainer name step)) where
  absorbs moment quiet quiets absorbed := by
    have live := request.cancelledBy?_of_uncancelled uncancelled
    obtain ⟨left, enough⟩ := Nat.exists_eq_add_of_le' absorbed.within
    -- the failures cost repetitions; what is left of the run is that of a call without any
    obtain ⟨between, goesOn, absorbedCalls⟩ := Policy.runFrom_absorbs operation fit serves
      uncancelled (moment.store.container name).failures
      (List.append_nil _).symm absorbed.accepted left
    obtain ⟨memory, run, served⟩ := Policy.run_inContainer operation usual serves conclusive
      (live between.now) absorbedCalls.failures left
    have silent : (quiet.store.container name).failures = [] := by rw [quiets.here]
    obtain ⟨memory', run', served'⟩ := Policy.run_inContainer operation usual serves conclusive
      (live quiet.now) silent policy.maxRetries
    have documents : (quiet.store.container name).documents =
        (moment.store.container name).documents := by rw [quiets.here]
    have calls : (moment.store.container name).calls =
        (quiet.store.container name).calls + 0 := by rw [quiets.here]; rfl
    have allCalls := absorbedCalls.trans served
    rw [absorbedCalls.documents] at run allCalls
    rw [documents] at run' served'
    rw [Policy.run, enough, goesOn, run, ← enough, run']
    refine ⟨rfl, ?_⟩
    rw [Nat.add_comm] at allCalls
    have alike := Memory.Alike.of_serving calls
      (fun other different => (quiets.others other different).symm) allCalls served'
    rwa [Nat.zero_add] at alike
  surfaces moment front failure back queue ends := by
    have live := request.cancelledBy?_of_uncancelled uncancelled
    obtain ⟨left, enough⟩ := Nat.exists_eq_add_of_le' ends.within
    obtain ⟨between, goesOn, absorbedCalls⟩ := Policy.runFrom_absorbs operation fit serves
      uncancelled front queue ends.accepted left
    have final : policy.ruleFor? failure = none ∨ left = 0 :=
      ends.final.imp_right fun full => by omega
    obtain ⟨memory, run, served⟩ := Policy.runFrom_surfaces operation serves (live between.now)
      absorbedCalls.failures final
    rw [Policy.run, enough, goesOn, run]
    refine ⟨rfl, ?_⟩
    rw [absorbedCalls.documents] at served
    exact absorbedCalls.trans served

/-- What is read off the outcome of a computation has the queue in front of it that the
computation has. -/
theorem Absorbing.view {surface : Failure → Except Failure α}
    {action : Action (Moment Memory) α} {action' : Action (Moment Memory) β}
    (absorbing : Absorbing policy name surface action)
    (view : Except Failure α → Except Failure β)
    (eq : ∀ moment, action' moment = (view (action moment).1, (action moment).2)) :
    Absorbing policy name (fun failure => view (surface failure)) action' where
  absorbs moment quiet quiets absorbed := by
    obtain ⟨same, alike⟩ := absorbing.absorbs moment quiet quiets absorbed
    rw [eq, eq]
    exact ⟨congrArg view same, alike⟩
  surfaces moment front failure back queue ends := by
    obtain ⟨surfaced, served⟩ := absorbing.surfaces moment front failure back queue ends
    rw [eq]
    exact ⟨congrArg view surfaced, served⟩

/-- Whatever goes on steadily has the queue in front of it that its beginning has. -/
theorem Absorbing.bind {action : Action (Moment Memory) α}
    {next : α → Action (Moment Memory) β} (first : Absorbing policy name .error action)
    (rest : ∀ value, Steady name (next value)) :
    Absorbing policy name .error (action >>= next) where
  absorbs moment quiet quiets absorbed := by
    obtain ⟨same, alike⟩ := first.absorbs moment quiet quiets absorbed
    exact Action.Respects.follows same alike fun value => rest value _
  surfaces moment front failure back queue ends := by
    obtain ⟨surfaced, served⟩ := first.surfaces moment front failure back queue ends
    have failed : action moment = (.error failure, (action moment).2) :=
      Prod.ext surfaced rfl
    rw [Action.bind_apply_of_error failed]
    exact ⟨rfl, served⟩

/-- A computation that is refused before anything is sent, or has a queue of failures in front of
it. -/
def Answering (policy : Policy) (name : String) (surface : Failure → Except Failure α)
    (action : Action (Moment Memory) α) : Prop :=
  Absorbing policy name surface action ∨ ∀ moment, (action moment).2 = moment

/-- A check that fails refuses a computation; one that succeeds does not matter. -/
theorem Answering.of_check {surface : Failure → Except Failure β} {outcome : Except Failure α}
    {next : α → Action (Moment Memory) β}
    (passed : ∀ value, outcome = .ok value → Answering policy name surface (next value)) :
    Answering policy name surface (Action.ofExcept outcome >>= next) := by
  cases outcome with
  | error failure => exact .inr fun moment => rfl
  | ok value => exact passed value rfl

end

/-! ### Fetching -/

namespace Repository

variable {repository : Repository} {request : Request} {statement : Query.Statement}
  {key : Option PartitionKey} {most : Option Nat}

open Memory.Container

theorem absorbing_queryItems (usual : repository.policy.Usual)
    (fit : repository.policy.WaitsFit) (uncancelled : request.cancelledFrom = none)
    (options : QueryOptions) :
    Absorbing repository.policy repository.handle.container .error
      (repository.call "query" request fun container =>
        Memory.store.queryItems container statement options) :=
  absorbing_run _ "query" usual fit (serves_queryItems statement options)
    (conclusive_queryItems statement options) uncancelled

/-- To fetch pages is steady. -/
theorem steady_fetchFrom (usual : repository.policy.Usual)
    (uncancelled : request.cancelledFrom = none) (bound : Nat) (fetched : QueryOutcome Json)
    (continuation : Option String) :
    Steady repository.handle.container
      (repository.fetchFrom Memory.store request statement key most bound fetched
        continuation) := by
  induction bound generalizing fetched continuation with
  | zero =>
      unfold fetchFrom
      split
      · exact Steady.ofExcept (.ok fetched)
      · exact Steady.ofExcept (.error _)
  | succ bound ih =>
      by_cases enough : most.any (· ≤ fetched.items.length)
      · rw [fetchFrom_of_enough enough]
        exact Steady.ofExcept (.ok fetched)
      · rw [fetchFrom_of_wanted enough]
        refine Steady.bind (steady_run "query" usual (serves_queryItems statement _)
          (conclusive_queryItems statement _) uncancelled) fun page => ?_
        cases page.continuation with
        | none => exact Steady.ofExcept (.ok _)
        | some token => exact ih _ (some token)

/-- The first page has the queue of failures in front of it; the other pages find none. -/
theorem absorbing_fetchFrom (usual : repository.policy.Usual)
    (fit : repository.policy.WaitsFit) (uncancelled : request.cancelledFrom = none)
    (wanted : ¬most.any (· ≤ 0)) (bound : Nat) :
    Absorbing repository.policy repository.handle.container .error
      (repository.fetchFrom Memory.store request statement key most (bound + 1) .empty none) := by
  have first : ¬most.any (· ≤ (QueryOutcome.empty : QueryOutcome Json).items.length) := wanted
  rw [fetchFrom_of_wanted first]
  refine Absorbing.bind (absorbing_queryItems usual fit uncancelled _) fun page => ?_
  cases page.continuation with
  | none => exact Steady.ofExcept (.ok _)
  | some token => exact steady_fetchFrom usual uncancelled bound _ (some token)

/-- To fetch has the queue of failures in front of it, if anything is wanted at all. -/
theorem absorbing_fetch (usual : repository.policy.Usual) (fit : repository.policy.WaitsFit)
    (uncancelled : request.cancelledFrom = none) (wanted : ¬most.any (· ≤ 0)) :
    Absorbing repository.policy repository.handle.container .error
      (repository.fetch Memory.store request statement key most) := by
  -- how many pages there can be depends on the documents, which no failure changes
  have bounded : ∀ moment : Moment Memory,
      repository.fetch Memory.store request statement key most moment =
        (repository.fetchFrom Memory.store request statement key most
          ((moment.store.container repository.handle.container).documents.length + 1) .empty none
            >>= fun fetched => pure (fetched.limit most)) moment := fun _ => rfl
  have absorbing : ∀ bound, Absorbing repository.policy repository.handle.container .error
      (repository.fetchFrom Memory.store request statement key most (bound + 1) .empty none
        >>= fun fetched => pure (fetched.limit most)) := fun bound =>
    Absorbing.bind (absorbing_fetchFrom usual fit uncancelled wanted bound)
      fun fetched => Steady.ofExcept (.ok _)
  constructor
  · intro moment quiet quiets absorbed
    rw [bounded, bounded, quiets.here]
    exact (absorbing _).absorbs moment quiet quiets absorbed
  · intro moment front failure back queue ends
    rw [bounded]
    exact (absorbing _).surfaces moment front failure back queue ends

theorem absorbing_fetchDocuments (usual : repository.policy.Usual)
    (fit : repository.policy.WaitsFit) (uncancelled : request.cancelledFrom = none)
    (wanted : ¬most.any (· ≤ 0)) :
    Absorbing repository.policy repository.handle.container .error
      (repository.fetchDocuments Memory.store request statement key most) := by
  refine Absorbing.bind (absorbing_fetch usual fit uncancelled wanted) fun fetched => ?_
  exact Steady.bind (Steady.ofExcept _) fun items => Steady.ofExcept (.ok _)

/-- Nothing is fetched if nothing is wanted. -/
theorem fetchDocuments_of_unwanted (wanted : most.any (· ≤ 0)) (moment : Moment Memory) :
    (repository.fetchDocuments Memory.store request statement key most moment).2 = moment := by
  have nothing : repository.fetch Memory.store request statement key most moment =
      (.ok (QueryOutcome.empty.limit most), moment) := by
    have stopped : repository.fetchFrom Memory.store request statement key most
        ((moment.store.container repository.handle.container).documents.length + 1) .empty none =
          Action.succeed .empty :=
      fetchFrom_of_enough (show most.any (· ≤ QueryOutcome.empty.items.length) from wanted) _
    change (repository.fetchFrom Memory.store request statement key most
      ((moment.store.container repository.handle.container).documents.length + 1) .empty none
        >>= fun fetched => pure (fetched.limit most)) moment = _
    rw [stopped]
    rfl
  rw [fetchDocuments, Action.bind_apply_of_ok nothing]
  generalize (QueryOutcome.empty.limit most).items.mapM Document.decode = decoding
  cases decoding <;> rfl

theorem answering_fetchDocuments (usual : repository.policy.Usual)
    (fit : repository.policy.WaitsFit) (uncancelled : request.cancelledFrom = none) :
    Answering repository.policy repository.handle.container .error
      (repository.fetchDocuments Memory.store request statement key most) := by
  by_cases wanted : most.any (· ≤ 0)
  · exact .inr (fetchDocuments_of_unwanted wanted)
  · exact .inl (absorbing_fetchDocuments usual fit uncancelled wanted)

end Repository

/-! ### What can be asked -/

/-- What can be asked of a repository, by the type of the answer. -/
inductive RepositoryCall : Type → Type where
  /-- To store a document. -/
  | upsert (document : Document) (key : PartitionKey) : RepositoryCall Document
  /-- To return the document of an id. -/
  | get (id : String) (key : PartitionKey) : RepositoryCall (Option Document)
  /-- To tell whether there is a document of an id. -/
  | contains (id : String) (key : PartitionKey) : RepositoryCall Bool
  /-- To remove the document of an id. -/
  | delete (id : String) (key : PartitionKey) : RepositoryCall Bool
  /-- To change the document of an id. -/
  | patch (id : String) (key : PartitionKey) (ops : List PatchOp) : RepositoryCall Document
  /-- To count the documents that satisfy a predicate. -/
  | count (predicate : Option Query.Expr) (key : Option PartitionKey) : RepositoryCall Nat
  /-- To return the results of a plan. -/
  | query (plan : Query.Plan) (most : Option Nat) : RepositoryCall (QueryOutcome Document)
  /-- To return the results of a statement. -/
  | queryRaw (statement : Query.Statement) (key : Option PartitionKey) (most : Option Nat) :
    RepositoryCall (QueryOutcome Document)

namespace RepositoryCall

/-- What the repository does. -/
def perform (repository : Repository) (request : Request) :
    RepositoryCall α → Action (Moment Memory) α
  | .upsert document key => repository.upsert Memory.store request document key
  | .get id key => repository.get? Memory.store request id key
  | .contains id key => repository.contains Memory.store request id key
  | .delete id key => repository.delete Memory.store request id key
  | .patch id key ops => repository.patch Memory.store request id key ops
  | .count predicate key => repository.count Memory.store request predicate key
  | .query plan most => repository.queryWithMetrics Memory.store request plan most
  | .queryRaw statement key most =>
    repository.queryRawWithMetrics Memory.store request statement key most

/-- The answer that reports a failure of the store: the failure itself, unless it says that the
document is missing and the repository answers that. -/
def surface : RepositoryCall α → Failure → Except Failure α
  | .get _ _, failure => if failure.isNotFound then .ok none else .error failure
  | .contains _ _, failure => if failure.isNotFound then .ok false else .error failure
  | .delete _ _, failure => if failure.isNotFound then .ok false else .error failure
  | _, failure => .error failure

variable {repository : Repository} {request : Request}

open Memory.Container Repository

/-- **What is asked of a repository** is refused before anything is sent, or has the queue of
failures in front of it. -/
theorem answering (usual : repository.policy.Usual) (fit : repository.policy.WaitsFit)
    (uncancelled : request.cancelledFrom = none) (call : RepositoryCall α) :
    Answering repository.policy repository.handle.container call.surface
      (call.perform repository request) := by
  cases call with
  | upsert document key =>
      refine Answering.of_check fun _ _ => .inl ?_
      have stored := absorbing_run repository.handle.container "upsert" usual fit
        (serves_upsertItem key document.toJson) (conclusive_upsertItem key document.toJson)
        uncancelled
      exact Absorbing.bind stored fun response => Steady.ofExcept _
  | get id key =>
      have read := absorbing_run repository.handle.container "read" usual fit
        (serves_readItem repository.handle.container id key) (conclusive_readItem _ id key)
        uncancelled
      exact .inl (read.view foundOf fun moment => get?_of_run rfl)
  | contains id key =>
      have read := absorbing_run repository.handle.container "read" usual fit
        (serves_readItem repository.handle.container id key) (conclusive_readItem _ id key)
        uncancelled
      have found : Absorbing repository.policy repository.handle.container
          (fun failure => foundOf (.error failure))
          (repository.get? Memory.store request id key) :=
        read.view foundOf fun moment => get?_of_run rfl
      have surface : (contains id key).surface =
          fun failure => (foundOf (.error failure)).map Option.isSome := by
        funext failure
        simp only [RepositoryCall.surface, foundOf]
        split <;> rfl
      rw [surface]
      exact .inl (found.view (Except.map Option.isSome) (contains_eq repository _ request id key))
  | delete id key =>
      have removed := absorbing_run repository.handle.container "delete" usual fit
        (serves_deleteItem repository.handle.container id key) (conclusive_deleteItem _ id key)
        uncancelled
      exact .inl (removed.view removedOf fun moment => delete_of_run rfl)
  | patch id key ops =>
      refine Answering.of_check fun _ _ => .inl ?_
      have patched := absorbing_run repository.handle.container "patch" usual fit
        (serves_patchItem repository.handle.container id key ops)
        (conclusive_patchItem _ id key ops) uncancelled
      exact Absorbing.bind patched fun response => Steady.ofExcept _
  | count predicate key =>
      refine Answering.of_check fun statement _ => .inl ?_
      exact Absorbing.bind (absorbing_fetch usual fit uncancelled Bool.false_ne_true)
        fun fetched => Steady.ofExcept _
  | query plan most =>
      exact Answering.of_check fun statement _ => answering_fetchDocuments usual fit uncancelled
  | queryRaw statement key most =>
      exact Answering.of_check fun _ _ => answering_fetchDocuments usual fit uncancelled

end RepositoryCall

/-- What can be asked of the client, by the type of the answer: of a repository, or of a unit of
work. -/
inductive Operation : Type → Type 1 where
  /-- To ask a repository. -/
  | onRepository {α : Type} (repository : Repository) (call : RepositoryCall α) : Operation α
  /-- To apply operations as a batch. -/
  | batch (unit : UnitOfWork) (operations : List Batch.Operation) (key : PartitionKey) :
    Operation Batch.Result

/-- The session without the failures that wait in a container. -/
def Session.quieted (session : Session Memory) (name : String) : Session Memory :=
  { session with
    moment := { session.moment with store := session.moment.store.quieted name } }

namespace Operation

/-- The policy under which the store is called. -/
def policy : Operation α → Policy
  | .onRepository repository _ => repository.policy
  | .batch unit _ _ => unit.batchPolicy

/-- The container that is called, if any is. -/
def container : Operation α → String
  | .onRepository repository _ => repository.handle.container
  | .batch _ operations key =>
    match Batch.check operations key with
    | .ok placement => placement.container
    | .error _ => ""

/-- What the client does. -/
def perform (request : Request) : Operation α → Action (Session Memory) α
  | .onRepository repository call => Session.atStore (call.perform repository request)
  | .batch unit operations key => unit.executeBatch Memory.store request operations key

/-- The answer that reports a failure of the store. -/
def surface : Operation α → Failure → Except Failure α
  | .onRepository _ call => call.surface
  | .batch _ _ _ => .error

/-- Does the operation call the store, if no failure waits there? -/
def Reaches (operation : Operation α) (request : Request) (session : Session Memory) : Prop :=
  (session.moment.store.container operation.container).calls <
    ((operation.perform request (session.quieted operation.container)).2.moment.store.container
      operation.container).calls

/-- **What becomes of the failures that wait** in the container that an operation calls. -/
structure LeavesNoTrace (operation : Operation α) (request : Request)
    (session : Session Memory) : Prop where
  /-- If the policy absorbs them, they leave no trace but the number of calls: the answer and all
  documents are those of the operation without any failure. -/
  absorbed :
    operation.policy.Absorbs (session.moment.store.container operation.container).failures →
    let quiet := operation.perform request (session.quieted operation.container)
    (operation.perform request session).1 = quiet.1 ∧
      (∀ name, ((operation.perform request session).2.moment.store.container name).documents =
        (quiet.2.moment.store.container name).documents) ∧
      ((operation.perform request session).2.moment.store.container operation.container).calls =
        (quiet.2.moment.store.container operation.container).calls +
          (session.moment.store.container operation.container).failures.length
  /-- Else the first that is not absorbed is the answer, it and those in front of it are gone,
  and no document has changed. -/
  surfaced :
    ¬operation.policy.Absorbs (session.moment.store.container operation.container).failures →
    ∃ front failure back,
      (session.moment.store.container operation.container).failures =
          front ++ failure :: back ∧
        operation.policy.EndsWith front failure ∧
        (operation.perform request session).1 = operation.surface failure ∧
        (∀ name, ((operation.perform request session).2.moment.store.container name).documents =
          (session.moment.store.container name).documents) ∧
        ((operation.perform request session).2.moment.store.container
          operation.container).failures = back

variable {operation : Operation α} {request : Request} {session : Session Memory}

/-- An operation that comes down to a computation with the failures in front of it leaves no
trace of them. -/
theorem leavesNoTrace_of_absorbing {action : Action (Moment Memory) α} {name : String}
    (called : operation.container = name)
    (absorbing : Absorbing operation.policy name operation.surface action)
    {moment quiet : Moment Memory}
    (begun : moment.store.container = session.moment.store.container)
    (begun' : quiet.store.container =
      (session.quieted operation.container).moment.store.container)
    (run : (operation.perform request session).1 = (action moment).1 ∧
      (operation.perform request session).2.moment = (action moment).2)
    (run' : (operation.perform request (session.quieted operation.container)).1 =
        (action quiet).1 ∧
      (operation.perform request (session.quieted operation.container)).2.moment =
        (action quiet).2) :
    operation.LeavesNoTrace request session := by
  subst called
  have quiets : Memory.Quiets operation.container moment.store quiet.store := by
    have quieted := session.moment.store.quiets_quieted operation.container
    exact ⟨by rw [begun, begun']; exact quieted.here, by rw [begun, begun']; exact quieted.others⟩
  refine ⟨fun absorbed => ?_, fun excess => ?_⟩
  · rw [← begun] at absorbed
    obtain ⟨same, alike⟩ := absorbing.absorbs moment quiet quiets absorbed
    dsimp only
    rw [run.1, run.2, run'.1, run'.2, ← begun]
    refine ⟨same, fun name => ?_, alike.calls⟩
    by_cases here : name = operation.container
    · rw [here, alike.documents]
    · rw [alike.others name here]
  · obtain ⟨front, failure, back, queue, ends⟩ := Policy.exists_endsWith excess
    obtain ⟨surfaced, served⟩ :=
      absorbing.surfaces moment front failure back (begun ▸ queue) ends
    rw [run.1, run.2]
    refine ⟨front, failure, back, queue, ends, surfaced, fun name => ?_, served.failures⟩
    by_cases here : name = operation.container
    · rw [here, served.documents, begun]
    · rw [served.others name here, begun]

theorem not_reaches_of_idle
    (idle : (operation.perform request (session.quieted operation.container)).2 =
      session.quieted operation.container) : ¬operation.Reaches request session := by
  unfold Reaches
  rw [idle, Session.quieted, Memory.quieted, Memory.container_setContainer_self]
  exact Nat.lt_irrefl _

theorem onRepository_leavesNoTrace {repository : Repository} {call : RepositoryCall α}
    (usual : repository.policy.Usual) (fit : repository.policy.WaitsFit)
    (uncancelled : request.cancelledFrom = none)
    (reaches : (onRepository repository call).Reaches request session) :
    (onRepository repository call).LeavesNoTrace request session := by
  rcases call.answering usual fit uncancelled with absorbing | idle
  · exact leavesNoTrace_of_absorbing rfl absorbing rfl rfl ⟨rfl, rfl⟩ ⟨rfl, rfl⟩
  · refine absurd reaches (not_reaches_of_idle ?_)
    have performed : ∀ session' : Session Memory,
        ((onRepository repository call).perform request session').2 =
          { session' with moment := (call.perform repository request session'.moment).2 } :=
      fun _ => rfl
    rw [performed, idle]

open Memory.Container in
/-- A batch leaves no trace of failures. -/
theorem batch_leavesNoTrace {unit : UnitOfWork} {operations : List Batch.Operation}
    {key : PartitionKey} (coherent : session.connection.Coherent)
    (usual : unit.batchPolicy.Usual) (fit : unit.batchPolicy.WaitsFit)
    (uncancelled : request.cancelledFrom = none)
    (reaches : (batch unit operations key).Reaches request session) :
    (batch unit operations key).LeavesNoTrace request session := by
  cases checked : Batch.check operations key with
  | error failure =>
      exact absurd reaches (not_reaches_of_idle
        (congrArg Prod.snd (UnitOfWork.executeBatch_of_refused checked)))
  | ok placement =>
      have container : (batch unit operations key).container = placement.container := by
        simp only [Operation.container, checked]
      cases live : session.connection.disposed with
      | true =>
          have closed : Connection.container Memory.store placement.container
              (session.quieted (batch unit operations key).container) =
                (.error Connection.disposedFailure, _) := if_pos live
          exact absurd reaches (not_reaches_of_idle
            (congrArg Prod.snd (UnitOfWork.executeBatch_of_unopened checked closed)))
      | false =>
          obtain ⟨moment, begun, run⟩ :=
            unit.executeBatch_submitted request checked coherent live
          have coherent' : (session.quieted
              (batch unit operations key).container).connection.Coherent := coherent
          obtain ⟨quiet, begun', run'⟩ :=
            unit.executeBatch_submitted request checked coherent' live
          have called := absorbing_run placement.container "batch" usual fit
            (serves_executeBatch key operations) (conclusive_executeBatch key operations)
            uncancelled
          have absorbing := called.view (Except.map Batch.Result.ofResponse) fun _ => rfl
          exact leavesNoTrace_of_absorbing container absorbing begun begun' run run'

/-- **Failures that are absorbed leave no trace.** Whatever is asked of the client, by a request
that nobody cancels: if it reaches the store, failures that wait there are absorbed by its policy,
or the first that is not is reported and no document has changed. -/
theorem leavesNoTrace (operation : Operation α) (request : Request) (session : Session Memory)
    (coherent : session.connection.Coherent) (usual : operation.policy.Usual)
    (fit : operation.policy.WaitsFit) (uncancelled : request.cancelledFrom = none)
    (reaches : operation.Reaches request session) : operation.LeavesNoTrace request session := by
  cases operation with
  | onRepository repository call =>
      exact onRepository_leavesNoTrace usual fit uncancelled reaches
  | batch unit operations key =>
      exact batch_leavesNoTrace coherent usual fit uncancelled reaches

/-- A goal is removed although two failures wait in front of the removal. -/
theorem leavesNoTrace_removed :
    let waiting : Memory := ({} : Memory).setContainer "Goals"
      { documents := {(⟨"u1", "g1"⟩, .obj [("id", .str "g1"), ("userId", .str "u1")])}
        failures := [.gone "moved", .timeout "lost"] }
    let session : Session Memory := ⟨{ settings := {} }, ⟨0, waiting, []⟩, 0⟩
    let removal : Operation Bool := onRepository Repository.goals (.delete "g1" (.ofText "u1"))
    removal.policy.Absorbs (session.moment.store.container removal.container).failures ∧
      removal.Reaches {} session ∧ removal.LeavesNoTrace {} session := by
  intro waiting session removal
  have absorbed : removal.policy.Absorbs
      (session.moment.store.container removal.container).failures :=
    ⟨by decide, by decide⟩
  have reaches : removal.Reaches {} session := by
    unfold Reaches
    decide
  exact ⟨absorbed, reaches, leavesNoTrace removal {} session (fun _ mem => nomatch mem)
    (.inl rfl) (Policy.waitsFit_of_le Policy.standard_waits) rfl reaches⟩

end Operation

end DocumentClient
