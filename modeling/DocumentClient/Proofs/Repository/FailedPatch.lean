import DocumentClient.Proofs.Patch
import DocumentClient.Proofs.Repository.Answers
import DocumentClient.Proofs.Repository.Writes

/-!
# DocumentClient.Proofs.Repository.FailedPatch

**What a patch that fails leaves behind.** A list that makes no patch is not sent, a document that
is missing is not made, and a list that the store could not apply changes nothing, unless it fails
midway. A list that the store applied to its end may leave something that is no document any more:
then the patch fails after the store has answered, and what it left remains.

The store writes back how far it came. That is why a list which fails midway is left out here, and
why it has to be shown that to write back a document as it was changes nothing; there is one way to
write down what is stored (`Keyed.Map.insert_of_find?`).

## Proof shape

* `patchItem_refused` and `patchItem_applied` say what one call does.
* `PatchLeaves` is what is known after the call with all its attempts, by its outcome, and
  `run_patchItem` is the induction over the attempts. An attempt that the store refuses changes
  nothing, so the policy may make any number of them, and no other one follows on success.
* `patch_failed` reads the two cases of `PatchLeaves` as the two ways for a patch to fail: because
  the call failed, or because what came of it cannot be read.
-/

namespace DocumentClient

open Store Retry Memory.Container

/-! ### One call -/

namespace Memory.Container

variable {name id : String} {key : PartitionKey} {ops : List PatchOp} {container : Memory.Container}

/-- A patch that the store refuses changes no document, unless it fails midway. -/
theorem patchItem_refused
    (whole : ∀ document, container.documents.find? (documentKey key id) = some document →
      ¬Patch.FailsMidway ops document) {failure : Failure}
    (h : (patchItem name id key ops container).1 = .error failure) :
    (patchItem name id key ops container).2.documents = container.documents := by
  unfold patchItem served at h ⊢
  cases waiting : container.failures with
  | cons first failures => rfl
  | nil =>
      simp only [waiting] at h ⊢
      cases found : container.documents.find? (documentKey key id) with
      | none => rfl
      | some document =>
          simp only [found] at h ⊢
          rcases applied : Patch.applyAll ops document with ⟨changed, _ | error⟩
          · simp [applied] at h
          · -- what was changed until then is written back, so it has to be the document itself
            rcases Patch.changed_of_applyAll_stops applied with same | midway
            · rw [same]
              exact Keyed.Map.insert_of_find? found
            · exact absurd midway (whole document found)

/-- A patch that the store reports as done was applied to its end. -/
theorem patchItem_applied {response : ItemResponse}
    (h : (patchItem name id key ops container).1 = .ok response) :
    ∃ document, container.documents.find? (documentKey key id) = some document ∧
      Patch.applyAll ops document = (response.resource, none) ∧
      (patchItem name id key ops container).2.documents =
        container.documents.insert (documentKey key id) response.resource := by
  unfold patchItem served at h ⊢
  cases waiting : container.failures with
  | cons first failures => simp [waiting] at h
  | nil =>
      simp only [waiting] at h ⊢
      cases found : container.documents.find? (documentKey key id) with
      | none => simp [found] at h
      | some document =>
          simp only [found] at h ⊢
          rcases applied : Patch.applyAll ops document with ⟨changed, _ | error⟩
          · simp only [applied] at h ⊢
            cases h
            exact ⟨document, rfl, applied, rfl⟩
          · simp [applied] at h

end Memory.Container

/-! ### Any number of attempts -/

/-- No document differs between two stores, but for one container. -/
def Memory.SameElsewhere (name : String) (before after : Memory) : Prop :=
  ∀ other, other ≠ name → (after.container other).documents = (before.container other).documents

/-- What is known after the call of a patch: it failed and changed nothing, or it was applied to
its end. -/
def PatchLeaves (name id : String) (key : PartitionKey) (ops : List PatchOp) (before : Memory) :
    Except Failure ItemResponse → Memory → Prop
  | .error _, after =>
    ∀ other, (after.container other).documents = (before.container other).documents
  | .ok response, after =>
    (∃ document,
      (before.container name).documents.find? (Memory.documentKey key id) = some document ∧
        Patch.applyAll ops document = (response.resource, none) ∧
        (after.container name).documents = (before.container name).documents.insert
          (Memory.documentKey key id) response.resource) ∧
      before.SameElsewhere name after

section
variable {name id : String} {key : PartitionKey} {ops : List PatchOp}

/-- One call leads from documents that were not changed yet to what is known after it. -/
theorem patchLeaves_of_call {before now : Memory}
    (whole : ∀ document,
      (before.container name).documents.find? (Memory.documentKey key id) = some document →
        ¬Patch.FailsMidway ops document)
    (same : ∀ other, (now.container other).documents = (before.container other).documents) :
    PatchLeaves name id key ops before (patchItem name id key ops (now.container name)).1
      (now.setContainer name (patchItem name id key ops (now.container name)).2) := by
  have elsewhere : ∀ container : Memory.Container, ∀ other, other ≠ name →
      ((now.setContainer name container).container other).documents =
        (before.container other).documents := by
    intro container other different
    rw [Memory.container_setContainer_of_ne different]
    exact same other
  rw [← same name] at whole
  cases answer : (patchItem name id key ops (now.container name)).1 with
  | error failure =>
      intro other
      by_cases here : other = name
      · subst here
        rw [Memory.container_setContainer_self, patchItem_refused whole answer]
        exact same other
      · exact elsewhere _ other here
  | ok response =>
      obtain ⟨document, found, applied, documents⟩ := patchItem_applied answer
      rw [same name] at found documents
      refine ⟨⟨document, found, applied, ?_⟩, elsewhere _⟩
      rw [Memory.container_setContainer_self, documents]

/-- **Induction over the attempts.** Every attempt before the last one was refused, so the last one
finds the documents as they were. -/
theorem run_patchItem {policy : Policy} {operation : String} {request : Request}
    {moment later : Moment Memory} {outcome : Except Failure ItemResponse}
    (whole : ∀ document,
      (moment.store.container name).documents.find? (Memory.documentKey key id) =
        some document → ¬Patch.FailsMidway ops document)
    (ran : policy.run operation request (Memory.inContainer name (patchItem name id key ops))
      moment = (outcome, later)) :
    PatchLeaves name id key ops moment.store outcome later.store := by
  have attempts := fun now => Policy.attempt_inContainer operation
    (request.attemptTimeout policy.attemptTimeout) request name (patchItem name id key ops) now
  obtain rfl : _ = outcome := congrArg Prod.fst ran
  obtain rfl : _ = later := congrArg Prod.snd ran
  refine Policy.runFrom_preserves
    (fun memory => ∀ other, (memory.container other).documents =
      (moment.store.container other).documents)
    (PatchLeaves name id key ops moment.store) (fun _ _ same other => same other) ?ended ?repeated
    policy.maxRetries moment (fun _ => rfl)
  -- the attempt that ends the run finds the documents as they were
  case ended =>
    intro now outcome now' same verdict
    rcases attempts now with attempted | attempted
    · rw [attempted] at verdict
      cases verdict
      exact same
    · rw [attempted] at verdict
      obtain rfl := Policy.judge_finished verdict
      obtain rfl := Policy.judge_done verdict
      exact patchLeaves_of_call whole same
  -- only failures are repeated, and an attempt that failed changed nothing
  case repeated =>
    intro now rule failure lastMoment now' same verdict
    obtain ⟨ending, -⟩ := Policy.judge_again verdict
    rcases attempts now with attempted | attempted
    · cases attempted.symm.trans ending
    · obtain ⟨refused, -, rfl⟩ := Ending.finished.inj (attempted.symm.trans ending)
      have leaves := @patchLeaves_of_call name id key ops moment.store now.store whole same
      rw [refused] at leaves
      exact leaves

end

/-! ### A patch -/

namespace Repository

/-- **A patch that fails changed nothing, or left no document.** Whatever the policy and whenever
the request is cancelled, and unless the list fails midway: the documents of all containers are
what they were, or the store applied the list to its end, and what it made is no document any more;
then that is the failure, and what is stored. -/
theorem patch_failed (repository : Repository) (request : Request) (id : String)
    (key : PartitionKey) (ops : List PatchOp) (moment : Moment Memory)
    (whole : ∀ document,
      (moment.store.container repository.handle.container).documents.find?
        (Memory.documentKey key id) = some document → ¬Patch.FailsMidway ops document)
    {failure : Failure} {later : Moment Memory}
    (failed : repository.patch Memory.store request id key ops moment = (.error failure, later)) :
    (∀ name, (later.store.container name).documents = (moment.store.container name).documents) ∨
      ∃ document changed,
        (moment.store.container repository.handle.container).documents.find?
          (Memory.documentKey key id) = some document ∧
          Patch.applyAll ops document = (changed, none) ∧
          Document.decode changed = .error failure ∧
          (later.store.container repository.handle.container).documents =
            (moment.store.container repository.handle.container).documents.insert
              (Memory.documentKey key id) changed ∧
          moment.store.SameElsewhere repository.handle.container later.store := by
  cases checked : Patch.check ops with
  | error error =>
      rw [patch_of_refused checked] at failed
      cases failed
      exact .inl fun _ => rfl
  | ok _ =>
      rcases ran : repository.call "patch" request
        (fun container => Memory.store.patchItem container id key ops) moment with ⟨outcome, ended⟩
      have leaves := run_patchItem whole ran
      rw [patch_of_checked checked ran] at failed
      obtain ⟨decoded_eq, rfl⟩ := Prod.mk.inj failed
      -- the store has answered before anything is decoded, so what cannot be read stays changed
      cases outcome with
      | error failure' => exact .inl leaves
      | ok response =>
          obtain ⟨⟨document, found, applied, documents⟩, elsewhere⟩ := leaves
          exact .inr ⟨document, response.resource, found, applied, decoded_eq, documents,
            elsewhere⟩

/-- A patch of a field that is not there fails, and changes nothing. -/
theorem patch_failed_missing :
    let moment : Moment Memory := ⟨0, .withGoal "u1", []⟩
    let place := Memory.documentKey (.ofText "u1") "g1"
    let ops : List PatchOp := [.replace "/title" .null]
    (∀ document, (moment.store.container "Goals").documents.find? place = some document →
      ¬Patch.FailsMidway ops document) ∧
      ∃ failure later,
        goals.patch Memory.store {} "g1" (.ofText "u1") ops moment = (.error failure, later) ∧
          ((∀ name, (later.store.container name).documents =
              (moment.store.container name).documents) ∨
            ∃ document changed,
              (moment.store.container "Goals").documents.find? place = some document ∧
                Patch.applyAll ops document = (changed, none) ∧
                Document.decode changed = .error failure ∧
                (later.store.container "Goals").documents =
                  (moment.store.container "Goals").documents.insert place changed ∧
                moment.store.SameElsewhere "Goals" later.store) := by
  intro moment place ops
  have whole : ∀ document,
      (moment.store.container "Goals").documents.find? place = some document →
        ¬Patch.FailsMidway ops document :=
    fun document _ => Patch.not_failsMidway_singleton _ document
  obtain ⟨failure, later, run⟩ : ∃ failure later,
      goals.patch Memory.store {} "g1" (.ofText "u1") ops moment = (.error failure, later) :=
    ⟨_, _, rfl⟩
  exact ⟨whole, failure, later, run,
    patch_failed goals {} "g1" (.ofText "u1") ops moment whole run⟩

/-- A patch that removes the id fails, and the id is removed all the same. -/
theorem patch_failed_changed :
    ∃ failure later,
      goals.patch Memory.store {} "g1" (.ofText "u1") [.remove "/id"] ⟨0, .withGoal "u1", []⟩ =
          (.error failure, later) ∧
        (later.store.container "Goals").documents ≠
          ((Memory.withGoal "u1").container "Goals").documents := by
  refine ⟨_, _, rfl, fun same => ?_⟩
  have fields := congrArg Keyed.Map.values same
  change [Json.obj [("userId", .str "u1")]] =
    [.obj [("id", .str "g1"), ("userId", .str "u1")]] at fields
  simp at fields

end Repository

end DocumentClient
