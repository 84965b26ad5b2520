import DocumentClient.Proofs.Connection
import DocumentClient.Proofs.Repository.Answers
import Mathlib.Logic.Function.Basic

/-!
# DocumentClient.Proofs.Repository.FiniteMap

**Repositories are a finite map.** Over a store in memory that has no failure waiting, calls for
single documents are answered as by a map from containers, texts of partition keys, and ids to
documents, and leave the contents of that map.

* `DocumentMap` is the map, with a count of the calls of each container. `PointCall.meaning` is
  what a call for a single document does to it: a document is stored only if its id is not blank,
  it carries the key, and it is not too large, which is checked in this order; a document that is
  not stored costs no call.
* `DocumentMap.Represents` says that a store holds the contents of a map. It does so place by
  place; nothing has to be said of the order of documents, which every store keeps.

## Proof shape

* What a call of a container does is said by its `effect` on documents alone; `call_memory` is the
  way from there to the repository, past the connection, the policy and the number of calls.
* `Represents.kept`, `Represents.stored` and `Represents.removed` are the three things that a call
  may do to a container, and leave the others as they are.
* `perform_refines` is the simulation of one call, and `performAll_refines` that of any number of
  calls on any repositories of the catalog, one after the other: one that fails does not keep the
  next from being made.
-/

namespace DocumentClient

open Store

/-! ### The map -/

/-- Documents by container, and within one by the text of the partition key and the id; and how
often each container was called. -/
structure DocumentMap where
  /-- The documents. -/
  documents : String → DocumentKey → Option Document
  /-- The numbers of calls. -/
  calls : String → Nat

namespace DocumentMap

/-- No documents, and no calls. -/
def empty : DocumentMap := ⟨fun _ _ => none, fun _ => 0⟩

/-- The map after a call of a container, which has other contents now. -/
def afterCall (map : DocumentMap) (container : String)
    (contents : DocumentKey → Option Document) : DocumentMap where
  documents := Function.update map.documents container contents
  calls := Function.update map.calls container (map.calls container + 1)

@[simp] theorem afterCall_documents (map : DocumentMap) (container : String)
    (contents : DocumentKey → Option Document) :
    (map.afterCall container contents).documents =
      Function.update map.documents container contents := rfl

@[simp] theorem afterCall_calls (map : DocumentMap) (container : String)
    (contents : DocumentKey → Option Document) :
    (map.afterCall container contents).calls =
      Function.update map.calls container (map.calls container + 1) := rfl

end DocumentMap

/-- A call for a single document. -/
inductive PointCall where
  /-- Stores a document. -/
  | upsert (document : Document) (key : PartitionKey)
  /-- Returns the document of an id. -/
  | get (id : String) (key : PartitionKey)
  /-- Tells whether there is a document of an id. -/
  | contains (id : String) (key : PartitionKey)
  /-- Removes the document of an id. -/
  | delete (id : String) (key : PartitionKey)

/-- The answer to such a call. -/
inductive PointAnswer where
  /-- The document that was stored. -/
  | stored (document : Document)
  /-- The document that was found. -/
  | found (document : Option Document)
  /-- Is there a document? -/
  | present (isThere : Bool)
  /-- Was there a document to remove? -/
  | removed (wasThere : Bool)

/-- Why a document is not stored. -/
inductive Rejection where
  /-- Its id is blank, or it does not carry the key. -/
  | invalid
  /-- It is too large. -/
  | tooLarge

/-- The failure that reports a rejection. -/
def Rejection.Reports : Rejection → Failure → Prop
  | .invalid, failure => ∃ detail, failure = .validation detail
  | .tooLarge, failure => ∃ detail, failure = .payloadTooLarge detail

/-- An answer is the expected one. -/
def Agrees : Except Rejection PointAnswer → Except Failure PointAnswer → Prop
  | .ok expected, .ok answer => answer = expected
  | .error rejection, .error failure => rejection.Reports failure
  | _, _ => False

/-- Why a document is not stored under a key, if it is not: the id and the key are looked at
before the size. -/
def rejection? (placement : Placement) (document : Document) (key : PartitionKey) :
    Option Rejection :=
  if Text.isBlankText document.id ∨ ¬key.isCarriedBy document.toJson placement then some .invalid
  else if Repository.maxDocumentSize < document.toJson.size then some .tooLarge
  else none

/-- What a call for documents of a placement answers, and the map afterwards. -/
def PointCall.meaning (placement : Placement) (map : DocumentMap) :
    PointCall → Except Rejection PointAnswer × DocumentMap
  | .upsert document key =>
    match rejection? placement document key with
    | some rejection => (.error rejection, map)
    | none =>
      (.ok (.stored document),
        map.afterCall placement.container
          (Function.update (map.documents placement.container) ⟨key.text, document.id⟩
            (some document)))
  | .get id key =>
    (.ok (.found (map.documents placement.container ⟨key.text, id⟩)),
      map.afterCall placement.container (map.documents placement.container))
  | .contains id key =>
    (.ok (.present (map.documents placement.container ⟨key.text, id⟩).isSome),
      map.afterCall placement.container (map.documents placement.container))
  | .delete id key =>
    (.ok (.removed (map.documents placement.container ⟨key.text, id⟩).isSome),
      map.afterCall placement.container
        (Function.update (map.documents placement.container) ⟨key.text, id⟩ none))

/-! ### Stores that hold the map -/

/-- A store holds the contents of a map, and no failure waits in it. -/
structure DocumentMap.Represents (map : DocumentMap) (memory : Memory) : Prop where
  /-- The documents are those of the map. -/
  documents : ∀ name place,
    (memory.container name).documents.find? place =
      (map.documents name place).map Document.toJson
  /-- The calls have been counted. -/
  calls : ∀ name, (memory.container name).calls = map.calls name
  /-- No failure waits. -/
  quiet : ∀ name, (memory.container name).failures = []

namespace DocumentMap

variable {map : DocumentMap} {memory memory' : Memory} {name : String} {documents : Documents}

theorem empty_represents : empty.Represents {} :=
  ⟨fun _ _ => rfl, fun _ => rfl, fun _ => rfl⟩

/-- A container that was called holds other contents, and the others hold what they held. -/
theorem Represents.afterCall (represents : map.Represents memory)
    (serving : Memory.Serving name memory memory' documents 1 [])
    {contents : DocumentKey → Option Document}
    (holds : ∀ place, documents.find? place = (contents place).map Document.toJson) :
    (map.afterCall name contents).Represents memory' := by
  refine ⟨fun other place => ?_, fun other => ?_, fun other => ?_⟩
  · by_cases same : other = name
    · rw [same, serving.documents, afterCall_documents, Function.update_self]
      exact holds place
    · rw [serving.others other same, afterCall_documents, Function.update_of_ne same]
      exact represents.documents other place
  · by_cases same : other = name
    · rw [same, serving.calls, represents.calls, afterCall_calls, Function.update_self]
    · rw [serving.others other same, afterCall_calls, Function.update_of_ne same]
      exact represents.calls other
  · by_cases same : other = name
    · rw [same, serving.failures]
    · rw [serving.others other same]
      exact represents.quiet other

theorem Represents.kept (represents : map.Represents memory)
    (serving : Memory.Serving name memory memory' (memory.container name).documents 1 []) :
    (map.afterCall name (map.documents name)).Represents memory' :=
  represents.afterCall serving (represents.documents name)

/-- A call may store a document in a place. -/
theorem Represents.stored (represents : map.Represents memory) (place : DocumentKey)
    (document : Document)
    (serving : Memory.Serving name memory memory'
      ((memory.container name).documents.insert place document.toJson) 1 []) :
    (map.afterCall name (Function.update (map.documents name) place (some document))).Represents
      memory' := by
  refine represents.afterCall serving fun other => ?_
  by_cases same : other = place
  · rw [same, Keyed.Map.find?_insert_self, Function.update_self]
    rfl
  · rw [Keyed.Map.find?_insert_of_ne same, Function.update_of_ne same]
    exact represents.documents name other

/-- A call may remove what is in a place. -/
theorem Represents.removed (represents : map.Represents memory) (place : DocumentKey)
    (serving : Memory.Serving name memory memory'
      ((memory.container name).documents.erase place) 1 []) :
    (map.afterCall name (Function.update (map.documents name) place none)).Represents
      memory' := by
  refine represents.afterCall serving fun other => ?_
  by_cases same : other = place
  · rw [same, Keyed.Map.find?_erase_self, Function.update_self]
    rfl
  · rw [Keyed.Map.find?_erase_of_ne same, Function.update_of_ne same]
    exact represents.documents name other

end DocumentMap

/-! ### Calls of a container -/

namespace Memory.Container

/-- What a read of an id answers, given what is stored under it. -/
def readAnswer (name id : String) : Option Json → Except Failure ItemResponse
  | some document => .ok ⟨document, readCharge⟩
  | none => .error (missing name id)

theorem effect_readItem (name id : String) (key : PartitionKey) (documents : Documents) :
    effect (readItem name id key) documents =
      (readAnswer name id (documents.find? (documentKey key id)), documents) := by
  simp only [effect, readItem, served]
  cases documents.find? (documentKey key id) <;> rfl

theorem effect_upsertItem (key : PartitionKey) (document : Document) (documents : Documents) :
    effect (upsertItem key document.toJson) documents =
      (.ok ⟨document.toJson, writeCharge⟩,
        documents.insert (documentKey key document.id) document.toJson) := by
  have id : document.toJson.field? "id" = some (.str document.id) := document.find?_id
  simp only [effect, upsertItem, served, id]

theorem effect_deleteItem_of_present {name id : String} {key : PartitionKey}
    {documents : Documents} (h : documents.contains (documentKey key id) = true) :
    effect (deleteItem name id key) documents =
      (.ok deleteCharge, documents.erase (documentKey key id)) := by
  simp only [effect, deleteItem, served, h, if_true]

theorem effect_deleteItem_of_absent {name id : String} {key : PartitionKey}
    {documents : Documents} (h : documents.contains (documentKey key id) = false) :
    effect (deleteItem name id key) documents = (.error (missing name id), documents) := by
  simp only [effect, deleteItem, served, h, Bool.false_eq_true, if_false]

end Memory.Container

namespace Repository

open Memory.Container Retry

/-! ### One call -/

section

variable {repository : Repository} {request : Request} {moment : Moment Memory}
  {map : DocumentMap} {α : Type} {step : Step α}

/-- A call for a single document, made on a repository. -/
def perform (repository : Repository) (request : Request) :
    PointCall → Action (Moment Memory) PointAnswer
  | .upsert document key =>
    PointAnswer.stored <$> repository.upsert Memory.store request document key
  | .get id key => PointAnswer.found <$> repository.get? Memory.store request id key
  | .contains id key => PointAnswer.present <$> repository.contains Memory.store request id key
  | .delete id key => PointAnswer.removed <$> repository.delete Memory.store request id key

/-- A call of the container of a repository has its effect. -/
theorem call_memory (mapped : repository.Mapped) (call : String → Store.Call Memory α)
    (is : call repository.placement.container =
      Memory.inContainer repository.placement.container step)
    (serves : Serves step) (conclusive : Conclusive step)
    (live : request.cancelledBy? moment.now = none)
    (represents : map.Represents moment.store) (operation : String) :
    ∃ memory,
      repository.call operation request call moment =
        ((effect step (moment.store.container repository.placement.container).documents).1,
          { moment with store := memory }) ∧
      Memory.Serving repository.placement.container moment.store memory
        (effect step (moment.store.container repository.placement.container).documents).2 1 [] := by
  obtain ⟨memory, run, serving⟩ := Policy.run_inContainer operation mapped.usual serves conclusive
    live (represents.quiet _) repository.policy.maxRetries
  refine ⟨memory, ?_, serving⟩
  rw [Repository.call, mapped.handle, is]
  exact run

/-- A call leaves a store that holds a map, at the same instant and with the same numbers still
to be drawn. -/
def LeadsTo (moment : Moment Memory) (map : DocumentMap) (moment' : Moment Memory) : Prop :=
  ∃ memory, moment' = { moment with store := memory } ∧ map.Represents memory

theorem foundOf_readAnswer (name id : String) (found : Option Document) :
    foundOf (readAnswer name id (found.map Document.toJson)) = .ok found := by
  cases found with
  | none => rfl
  | some document =>
      simp only [Option.map_some, readAnswer, foundOf, Document.decode,
        Document.ofJson?_toJson]
      rfl

/-- Finding a document finds what the map has in its place. -/
theorem get?_refines (mapped : repository.Mapped)
    (live : request.cancelledBy? moment.now = none) (represents : map.Represents moment.store)
    (id : String) (key : PartitionKey) :
    (repository.get? Memory.store request id key moment).1 =
        .ok (map.documents repository.placement.container ⟨key.text, id⟩) ∧
      LeadsTo moment
        (map.afterCall repository.placement.container
          (map.documents repository.placement.container))
        (repository.get? Memory.store request id key moment).2 := by
  obtain ⟨memory, run, serving⟩ := call_memory mapped
    (fun container => Memory.store.readItem container id key) rfl
    (serves_readItem repository.placement.container id key) (conclusive_readItem _ id key) live
    represents "read"
  rw [effect_readItem, represents.documents] at run
  rw [effect_readItem] at serving
  rw [get?_of_run run]
  exact ⟨foundOf_readAnswer _ id _, memory, rfl, represents.kept serving⟩

/-- A document is rejected for what the check of the repository finds. -/
theorem checkUpsert_of_rejected {document : Document} {key : PartitionKey} {rejection : Rejection}
    (h : rejection? repository.placement document key = some rejection) :
    ∃ failure, repository.checkUpsert document key = .error failure ∧
      rejection.Reports failure := by
  unfold rejection? at h
  unfold checkUpsert Document.checkWritable
  by_cases blank : Text.isBlankText document.id
  · obtain rfl : Rejection.invalid = rejection := by simpa [blank] using h
    exact ⟨_, by rw [if_pos blank]; rfl, _, rfl⟩
  · by_cases carried : key.isCarriedBy document.toJson repository.placement
    · simp only [blank, carried, not_true_eq_false, or_false, if_false, Bool.false_eq_true] at h
      split at h
      · rename_i large
        obtain rfl := Option.some.inj h
        refine ⟨repository.tooLarge document document.toJson.size, ?_, _, rfl⟩
        rw [if_neg blank, carried]
        exact if_pos large
      · cases h
    · obtain rfl : Rejection.invalid = rejection := by simpa [carried] using h
      refine ⟨repository.keyMismatch document key, ?_, _, rfl⟩
      rw [if_neg blank, Bool.eq_false_iff.mpr carried]
      rfl

/-- A document that is not rejected passes the check. -/
theorem checkUpsert_of_accepted {document : Document} {key : PartitionKey}
    (h : rejection? repository.placement document key = none) :
    repository.checkUpsert document key = .ok () := by
  unfold rejection? at h
  split at h
  · cases h
  · rename_i valid
    obtain ⟨named, carried⟩ := not_or.mp valid
    split at h
    · cases h
    · rename_i small
      unfold checkUpsert Document.checkWritable
      rw [if_neg named, not_not.mp carried, if_neg small]
      rfl

/-- Storing a document puts it in its place in the map, or is rejected without any call. -/
theorem upsert_refines (mapped : repository.Mapped)
    (live : request.cancelledBy? moment.now = none) (represents : map.Represents moment.store)
    (document : Document) (key : PartitionKey) :
    Agrees (PointCall.meaning repository.placement map (.upsert document key)).1
        ((repository.upsert Memory.store request document key moment).1.map .stored) ∧
      LeadsTo moment (PointCall.meaning repository.placement map (.upsert document key)).2
        (repository.upsert Memory.store request document key moment).2 := by
  cases rejected : rejection? repository.placement document key with
  | some rejection =>
      obtain ⟨failure, refused, reports⟩ := checkUpsert_of_rejected rejected
      simp only [PointCall.meaning, rejected, upsert_of_refused refused]
      exact ⟨reports, moment.store, rfl, represents⟩
  | none =>
      obtain ⟨memory, run, serving⟩ := call_memory mapped
        (fun container => Memory.store.upsertItem container key document.toJson) rfl
        (serves_upsertItem key document.toJson) (conclusive_upsertItem key _) live
        represents "upsert"
      rw [effect_upsertItem] at run serving
      simp only [PointCall.meaning, rejected,
        upsert_of_checked (checkUpsert_of_accepted rejected) run]
      refine ⟨?_, memory, rfl, represents.stored _ document serving⟩
      simp only [decoded, Except.bind, Document.decode, Document.ofJson?_toJson]
      rfl

/-- Removing a document empties its place in the map. -/
theorem delete_refines (mapped : repository.Mapped)
    (live : request.cancelledBy? moment.now = none) (represents : map.Represents moment.store)
    (id : String) (key : PartitionKey) :
    (repository.delete Memory.store request id key moment).1 =
        .ok (map.documents repository.placement.container ⟨key.text, id⟩).isSome ∧
      LeadsTo moment
        (map.afterCall repository.placement.container
          (Function.update (map.documents repository.placement.container) ⟨key.text, id⟩ none))
        (repository.delete Memory.store request id key moment).2 := by
  obtain ⟨memory, run, serving⟩ := call_memory mapped
    (fun container => Memory.store.deleteItem container id key) rfl
    (serves_deleteItem repository.placement.container id key) (conclusive_deleteItem _ id key)
    live represents "delete"
  have stored := represents.documents repository.placement.container (Memory.documentKey key id)
  rw [delete_of_run run]
  cases found : map.documents repository.placement.container (Memory.documentKey key id) with
  | some document =>
      have present : (moment.store.container repository.placement.container).documents.contains
          (Memory.documentKey key id) = true := by
        rw [Keyed.Map.contains, stored, found]
        rfl
      rw [effect_deleteItem_of_present present] at serving ⊢
      rw [show map.documents repository.placement.container ⟨key.text, id⟩ = _ from found]
      exact ⟨rfl, memory, rfl, represents.removed _ serving⟩
  -- a document that is missing is reported as such, which is no failure of the removal
  | none =>
      have absent : (moment.store.container repository.placement.container).documents.contains
          (Memory.documentKey key id) = false := by
        rw [Keyed.Map.contains, stored, found]
        rfl
      have unchanged : Function.update (map.documents repository.placement.container)
          ⟨key.text, id⟩ none = map.documents repository.placement.container :=
        Function.update_eq_self_iff.mpr found.symm
      rw [effect_deleteItem_of_absent absent] at serving ⊢
      rw [unchanged, show map.documents repository.placement.container ⟨key.text, id⟩ = _ from
        found]
      exact ⟨rfl, memory, rfl, represents.kept serving⟩

/-- **One call** is answered as by the map, and leaves what the map has then. -/
theorem perform_refines (mapped : repository.Mapped)
    (live : request.cancelledBy? moment.now = none) (represents : map.Represents moment.store)
    (call : PointCall) :
    Agrees (call.meaning repository.placement map).1
        (repository.perform request call moment).1 ∧
      LeadsTo moment (call.meaning repository.placement map).2
        (repository.perform request call moment).2 := by
  cases call with
  | upsert document key =>
      rw [perform, Action.map_apply]
      exact upsert_refines mapped live represents document key
  | get id key =>
      obtain ⟨found, leads⟩ := get?_refines mapped live represents id key
      rw [perform, Action.map_apply, found]
      exact ⟨rfl, leads⟩
  | contains id key =>
      obtain ⟨found, leads⟩ := get?_refines mapped live represents id key
      rw [perform, Action.map_apply, contains_eq, found]
      exact ⟨rfl, leads⟩
  | delete id key =>
      obtain ⟨removed, leads⟩ := delete_refines mapped live represents id key
      rw [perform, Action.map_apply, removed]
      exact ⟨rfl, leads⟩

end

/-! ### Any number of calls -/

/-- A call for a single document, with the repository that it is made on and the request. -/
structure Made where
  /-- The repository. -/
  repository : Repository
  /-- The request. -/
  request : Request
  /-- The call. -/
  call : PointCall

/-- Makes calls one after the other; one that fails does not keep the next from being made. -/
def performAll : List Made → Moment Memory → List (Except Failure PointAnswer) × Moment Memory
  | [], moment => ([], moment)
  | made :: rest, moment =>
    let (answer, moment) := made.repository.perform made.request made.call moment
    let (answers, moment) := performAll rest moment
    (answer :: answers, moment)

/-- What calls answer one after the other, and the map afterwards. -/
def meaningOfAll : List Made → DocumentMap → List (Except Rejection PointAnswer) × DocumentMap
  | [], map => ([], map)
  | made :: rest, map =>
    let (answer, map) := made.call.meaning made.repository.placement map
    let (answers, map) := meaningOfAll rest map
    (answer :: answers, map)

/-- **Repositories are a finite map.** Any number of calls for single documents, on any
repositories of the catalog, is answered call by call as by the map, and leaves a store that
holds what the map has then. No request is cancelled, and no failure waits in the store. -/
theorem performAll_refines (calls : List Made) (map : DocumentMap) (moment : Moment Memory)
    (mapped : ∀ made ∈ calls, made.repository.Mapped)
    (live : ∀ made ∈ calls, made.request.cancelledBy? moment.now = none)
    (represents : map.Represents moment.store) :
    List.Forall₂ Agrees (meaningOfAll calls map).1 (performAll calls moment).1 ∧
      (meaningOfAll calls map).2.Represents (performAll calls moment).2.store := by
  induction calls generalizing map moment with
  | nil => exact ⟨.nil, represents⟩
  | cons made rest ih =>
      obtain ⟨agrees, memory, left, holds⟩ := perform_refines (mapped made List.mem_cons_self)
        (live made List.mem_cons_self) represents made.call
      have followed := ih (made.call.meaning made.repository.placement map).2
        { moment with store := memory }
        (fun other mem => mapped other (List.mem_cons_of_mem made mem))
        (fun other mem => live other (List.mem_cons_of_mem made mem)) holds
      simp only [meaningOfAll, performAll, left]
      exact ⟨.cons agrees followed.1, followed.2⟩

/-- A document that is stored, removed, and looked for; and the attempt to store it under a key
that it does not carry. -/
theorem performAll_refines_removed :
    let goal : Document := ⟨[("id", .str "g1"), ("userId", .str "u1")], "g1", rfl⟩
    let calls : List Made := [
      ⟨goals, {}, .upsert goal (.ofText "u1")⟩, ⟨goals, {}, .upsert goal (.ofText "u2")⟩,
      ⟨goals, {}, .delete "g1" (.ofText "u1")⟩, ⟨goals, {}, .get "g1" (.ofText "u1")⟩]
    let moment : Moment Memory := ⟨0, {}, []⟩
    (∀ made ∈ calls, made.repository.Mapped) ∧
      (∀ made ∈ calls, made.request.cancelledBy? moment.now = none) ∧
      DocumentMap.empty.Represents moment.store ∧
      List.Forall₂ Agrees (meaningOfAll calls .empty).1 (performAll calls moment).1 ∧
      (meaningOfAll calls .empty).2.Represents (performAll calls moment).2.store := by
  intro goal calls moment
  have mapped : ∀ made ∈ calls, made.repository.Mapped := by
    simp [calls, goals_mapped]
  have live : ∀ made ∈ calls, made.request.cancelledBy? moment.now = none := by
    simp [calls, Request.cancelledBy?]
  exact ⟨mapped, live, DocumentMap.empty_represents,
    performAll_refines calls .empty moment mapped live DocumentMap.empty_represents⟩

end Repository

end DocumentClient
