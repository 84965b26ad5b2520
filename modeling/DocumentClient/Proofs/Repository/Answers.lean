import DocumentClient.Repository

/-!
# DocumentClient.Proofs.Repository.Answers

**What the operations on single documents make of the one call that they are about.** The moment at
which they end is that at which the call ended, and their answer is read off its outcome. The lemmas
hold for every store, so that no other proof has to take the operations apart.

* `upsert_of_checked`, `get?_of_run`, `delete_of_run` and `patch_of_checked` each take the outcome
  of the call as given; `upsert_of_refused` and `patch_of_refused` are about what is not sent.
* `foundOf` and `removedOf` say what a failure means to the caller: a document that is missing was
  not found, or was not there to be removed. Any other failure stays one.
* `decoded` is the document that a store returned. A store may return anything, so a call that
  succeeded may still fail as an operation, after the store has answered.

To fetch pages is a recursion, and has two equations: with enough results no other page is fetched,
and else a page, and after it the pages that it says there are. How often it may go on is bounded by
the store, and the bound is left open here.
-/

namespace DocumentClient

open Store

variable {σ α : Type}

namespace Action

variable {τ : Type}

theorem ofExcept_bind_of_ok {outcome : Except Failure α} {value : α} {β : Type}
    {next : α → Action τ β} {state : τ} (h : outcome = .ok value) :
    (ofExcept outcome >>= next) state = next value state :=
  bind_apply_of_ok (h ▸ ofExcept_apply outcome state)

theorem ofExcept_bind_of_error {outcome : Except Failure α} {failure : Failure} {β : Type}
    {next : α → Action τ β} {state : τ} (h : outcome = .error failure) :
    (ofExcept outcome >>= next) state = (.error failure, state) :=
  bind_apply_of_error (h ▸ ofExcept_apply outcome state)

end Action

namespace Document

/-- A document that was read is the document of a value. -/
theorem toJson_of_decode {value : Json} {document : Document}
    (h : decode value = .ok document) : document.toJson = value := by
  unfold decode ofJson? at h
  cases value with
  | obj fields =>
      dsimp only at h
      split at h
      · rename_i found
        split at found
        · cases found
          cases h
          rfl
        · cases found
      · cases h
  | _ => cases h

/-- Documents that were read are those of the values, in order. -/
theorem map_toJson_of_decodes {values : List Json} {documents : List Document}
    (h : values.mapM decode = .ok documents) : documents.map toJson = values := by
  induction values generalizing documents with
  | nil =>
      cases h
      rfl
  | cons value values ih =>
      rw [List.mapM_cons] at h
      obtain ⟨read, first, h⟩ := exists_of_outcome_bind_eq_ok h
      obtain ⟨others, rest, h⟩ := exists_of_outcome_bind_eq_ok h
      cases h
      rw [List.map_cons, toJson_of_decode first, ih rest]

theorem toJson_mem_of_decodes {values : List Json} {documents : List Document}
    (h : values.mapM decode = .ok documents) {document : Document}
    (mem : document ∈ documents) : document.toJson ∈ values :=
  map_toJson_of_decodes h ▸ List.mem_map_of_mem mem

/-- Values that are documents are read as such. -/
theorem exists_decodes {values : List Json}
    (h : ∀ value ∈ values, ∃ document, decode value = .ok document) :
    ∃ documents, values.mapM decode = .ok documents := by
  induction values with
  | nil => exact ⟨[], rfl⟩
  | cons value values ih =>
      obtain ⟨⟨document, first⟩, h⟩ := List.forall_mem_cons.mp h
      obtain ⟨documents, rest⟩ := ih h
      refine ⟨document :: documents, ?_⟩
      rw [List.mapM_cons, first, rest]
      rfl

end Document

namespace Repository

variable {repository : Repository} {store : Store σ} {request : Retry.Request}
  {document : Document} {id : String} {key : PartitionKey} {ops : List PatchOp}
  {moment moment' : Moment σ}

/-- The document that a store returned, if it returned one. -/
def decoded (outcome : Except Failure ItemResponse) : Except Failure Document :=
  outcome.bind fun response => Document.decode response.resource

theorem bind_decode {action : Action (Moment σ) ItemResponse}
    {outcome : Except Failure ItemResponse} (run : action moment = (outcome, moment')) :
    (action >>= decode) moment = (decoded outcome, moment') := by
  cases outcome with
  | ok response => exact Action.bind_apply_of_ok run
  | error failure => exact Action.bind_apply_of_error run

theorem upsert_of_refused {failure : Failure}
    (h : repository.checkUpsert document key = .error failure) :
    repository.upsert store request document key moment = (.error failure, moment) :=
  Action.ofExcept_bind_of_error h

theorem upsert_of_checked {outcome : Except Failure ItemResponse}
    (h : repository.checkUpsert document key = .ok ())
    (run : repository.call "upsert" request (fun container =>
      store.upsertItem container key document.toJson) moment = (outcome, moment')) :
    repository.upsert store request document key moment = (decoded outcome, moment') :=
  (Action.ofExcept_bind_of_ok h).trans (bind_decode run)

/-- What a failure of a read means: a document that is missing was not found. -/
def foundOf (outcome : Except Failure ItemResponse) : Except Failure (Option Document) :=
  match outcome with
  | .ok response => (Document.decode response.resource).map some
  | .error failure => if failure.isNotFound then .ok none else .error failure

/-- Finding a document ends with the call that reads it. -/
theorem get?_of_run {outcome : Except Failure ItemResponse}
    (run : repository.call "read" request (fun container => store.readItem container id key)
      moment = (outcome, moment')) :
    repository.get? store request id key moment = (foundOf outcome, moment') := by
  have read := Action.map_apply (some : ItemResponse → _) (repository.call "read" request
    fun container => store.readItem container id key) moment
  rw [run] at read
  cases outcome with
  | ok response =>
      refine (Action.bind_apply_of_ok (Action.recover_apply_of_ok read)).trans ?_
      exact Action.map_apply some (decode response) moment'
  | error failure =>
      have recovered : (((some : ItemResponse → _) <$> repository.call "read" request
          fun container => store.readItem container id key).recover (whenMissing none)) moment =
            ((whenMissing none failure).elim (.error failure) .ok, moment') :=
        Action.recover_apply_of_error read
      unfold foundOf
      by_cases missing : failure.isNotFound
      · simp only [whenMissing, if_pos missing] at recovered ⊢
        exact Action.bind_apply_of_ok recovered
      · simp only [whenMissing, if_neg missing] at recovered ⊢
        exact Action.bind_apply_of_error recovered

theorem contains_eq (repository : Repository) (store : Store σ) (request : Retry.Request)
    (id : String) (key : PartitionKey) (moment : Moment σ) :
    repository.contains store request id key moment =
      ((repository.get? store request id key moment).1.map Option.isSome,
        (repository.get? store request id key moment).2) :=
  Action.map_apply Option.isSome _ moment

/-- What a failure of a removal means: a document that is missing was not there. -/
def removedOf (outcome : Except Failure Binary64) : Except Failure Bool :=
  match outcome with
  | .ok _ => .ok true
  | .error failure => if failure.isNotFound then .ok false else .error failure

/-- Removing a document ends with the call that removes it. -/
theorem delete_of_run {outcome : Except Failure Binary64}
    (run : repository.call "delete" request (fun container => store.deleteItem container id key)
      moment = (outcome, moment')) :
    repository.delete store request id key moment = (removedOf outcome, moment') := by
  have removal := Action.map_apply (fun _ => true) (repository.call "delete" request
    fun container => store.deleteItem container id key) moment
  rw [run] at removal
  cases outcome with
  | ok charge => exact Action.recover_apply_of_ok removal
  | error failure =>
      refine (Action.recover_apply_of_error removal).trans ?_
      by_cases missing : failure.isNotFound
      · simp only [removedOf, whenMissing, if_pos missing]
        rfl
      · simp only [removedOf, whenMissing, if_neg missing]
        rfl

theorem patch_of_refused {error : PatchError} (h : Patch.check ops = .error error) :
    repository.patch store request id key ops moment = (.error error.toFailure, moment) :=
  Action.ofExcept_bind_of_error (congrArg (Except.mapError PatchError.toFailure) h)

theorem patch_of_checked {outcome : Except Failure ItemResponse} (h : Patch.check ops = .ok ())
    (run : repository.call "patch" request (fun container =>
      store.patchItem container id key ops) moment = (outcome, moment')) :
    repository.patch store request id key ops moment = (decoded outcome, moment') :=
  (Action.ofExcept_bind_of_ok (congrArg (Except.mapError PatchError.toFailure) h)).trans
    (bind_decode run)

/-! ### Fetching pages -/

variable {statement : Query.Statement} {scope : Option PartitionKey} {most : Option Nat}
  {fetched : QueryOutcome Json} {continuation : Option String}

theorem fetchFrom_of_enough (enough : most.any (· ≤ fetched.items.length)) (bound : Nat) :
    repository.fetchFrom store request statement scope most bound fetched continuation =
      Action.succeed fetched := by
  unfold fetchFrom
  exact if_pos enough

/-- Else a page is fetched, and after it the pages that it says there are. -/
theorem fetchFrom_of_wanted (wanted : ¬most.any (· ≤ fetched.items.length)) (bound : Nat) :
    repository.fetchFrom store request statement scope most (bound + 1) fetched continuation =
      (repository.call "query" request fun container => store.queryItems container statement
        { key := scope
          maxItems := some (repository.nextPageSize most fetched.items.length)
          continuation }) >>= fun page =>
        match page.continuation with
        | none => Action.succeed (fetched.addPage page)
        | some token =>
          repository.fetchFrom store request statement scope most bound (fetched.addPage page)
            (some token) := by
  conv => lhs; unfold fetchFrom
  exact if_neg wanted

end Repository

end DocumentClient
