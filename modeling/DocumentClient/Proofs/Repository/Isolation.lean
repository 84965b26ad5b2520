import DocumentClient.Proofs.Batch.Atomicity
import DocumentClient.Proofs.Query.Sorting
import DocumentClient.Proofs.Repository.Absorption
import DocumentClient.Proofs.Repository.FiniteMap
import DocumentClient.Proofs.Repository.Paging
import DocumentClient.Proofs.Repository.Writes
import Mathlib.Logic.Relation

/-!
# DocumentClient.Proofs.Repository.Isolation

**Partitions whose keys have different texts do not see each other.** A store files documents under
the text of a key, so keys that are different values may still have one partition: a text that looks
like a number, and the number. Texts, not values, are what keeps partitions apart.

* `Documents.slice` are the documents of one partition, in their order. A write leaves the slices
  of all other partitions as they are (`Write.perform_slice`).
* `SameSlice` relates stores with one slice, and what reads only in that partition respects the
  relation (`RepositoryCall.respects_of_readsIn`): it cannot tell the two stores apart.
* `StoredBetween` says of a document that is read where it comes from: it was stored by a write
  whose key has the text of the partition.

## Proof shape

* `slice_insert` and `slice_erase` are all that is needed of the maps: a change under a place of
  another partition is not in the slice. A batch goes by induction over its operations
  (`slice_applyOperations`), and what a write may repeat is settled once, for all writes, by
  `Write.Preserves`.
* `fetchFrom_sameSlice` is the induction over the pages of two fetches. It allows the stores
  different bounds on the number of pages, since a store with more documents elsewhere has a
  larger one.
* `storedBetween_of_steps` is the induction over the steps of a client; `partitions_isolated` puts
  the two sides together, and `partitions_shared_by_values` shows that nothing stronger holds.
-/

namespace DocumentClient

open Retry Memory.Container
open Store (Call)

/-! ### Slices -/

/-- The documents of one partition. -/
def Documents.slice (documents : Documents) (partition : String) : Documents :=
  documents.filterKeys fun place => place.partition == partition

namespace Documents

variable {documents documents' : Documents} {partition : String}

theorem mem_slice {entry : DocumentKey × Json} :
    entry ∈ documents.slice partition ↔ entry ∈ documents ∧ entry.1.partition = partition := by
  rw [slice, Keyed.Map.mem_filterKeys, beq_iff_eq]

theorem find?_slice (documents : Documents) (partition : String) (place : DocumentKey) :
    (documents.slice partition).find? place =
      if place.partition = partition then documents.find? place else none := by
  rw [slice, Keyed.Map.find?_filterKeys]
  simp only [beq_iff_eq]

theorem slice_congr (same : ∀ place : DocumentKey, place.partition = partition →
    documents'.find? place = documents.find? place) :
    documents'.slice partition = documents.slice partition := by
  refine Keyed.Map.ext_find? fun place => ?_
  rw [find?_slice, find?_slice]
  split
  · exact same place ‹_›
  · rfl

theorem slice_insert {place : DocumentKey} (apart : place.partition ≠ partition) (document : Json)
    (documents : Documents) :
    Documents.slice (documents.insert place document) partition = documents.slice partition := by
  refine slice_congr fun other here => Keyed.Map.find?_insert_of_ne ?_ documents document
  rintro rfl
  exact apart here

theorem slice_erase {place : DocumentKey} (apart : place.partition ≠ partition)
    (documents : Documents) :
    Documents.slice (documents.erase place) partition = documents.slice partition := by
  refine slice_congr fun other here => Keyed.Map.find?_erase_of_ne ?_ documents
  rintro rfl
  exact apart here

theorem slice_put {key : PartitionKey} (apart : key.text ≠ partition) (id : String)
    (document : Option Json) (documents : Documents) :
    (documents.put key id document).slice partition = documents.slice partition := by
  have elsewhere : (Memory.documentKey key id).partition ≠ partition := apart
  cases document with
  | none => exact slice_erase elsewhere documents
  | some document => exact slice_insert elsewhere document documents

theorem documentsOf_eq_slice (key : PartitionKey) (documents : Documents) :
    documentsOf { documents } (some key) = (documents.slice key.text).values := rfl

end Documents

/-! ### Writes leave the slices of other partitions alone -/

namespace Write

variable {partition : String} {key : PartitionKey}

/-- An operation of a batch leaves the slices of other partitions alone. -/
theorem slice_applyOperations {operations : List Batch.Operation} {documents documents' : Documents}
    {statuses : List Nat} (apart : key.text ≠ partition)
    (h : applyOperations key operations documents = .ok (statuses, documents')) :
    documents'.slice partition = documents.slice partition := by
  induction operations generalizing documents statuses with
  | nil =>
      cases h
      rfl
  | cons operation operations ih =>
      obtain ⟨status, between, statuses', applied, rest⟩ := applyOperations_cons_ok h
      rw [applyOperation_eq] at applied
      cases acted : operation.actOn (documents.contents key operation.target.id) with
      | error refusal =>
          rw [acted] at applied
          cases applied
      | ok document =>
          rw [acted] at applied
          cases applied
          rw [ih rest, Documents.slice_put apart]

/-- The container has the slice that it should have. -/
def Keeps (partition : String) (slices : String → Documents) (name : String)
    (container : Memory.Container) : Prop :=
  container.documents.slice partition = slices name

/-- A call of a container keeps a slice if it does so once no failure waits. -/
theorem keeps_of_effect {α : Type} {step : Step α} {slices : String → Documents} {name : String}
    {container : Memory.Container} (serves : Serves step)
    (effective : ((effect step container.documents).2).slice partition =
      container.documents.slice partition)
    (keeps : Keeps partition slices name container) :
    Keeps partition slices name (step container).2 := by
  unfold Keeps at keeps ⊢
  cases waiting : container.failures with
  | nil =>
      obtain ⟨-, documents, -, -⟩ := serves.answered container waiting
      rw [documents, effective, keeps]
  | cons failure failures =>
      obtain ⟨-, documents, -, -⟩ := serves.refused container failure failures waiting
      rw [documents, keeps]

/-- The call of a write leaves the slices of other partitions alone. -/
theorem preserves_keeps (write : Write) (apart : write.key.text ≠ partition)
    (slices : String → Documents) : write.Preserves (Keeps partition slices) := by
  cases write with
  | upsert repository document key =>
      refine fun _ container => keeps_of_effect (serves_upsertItem key document.toJson) ?_
      simp only [effect, upsertItem, served]
      split
      · exact Documents.slice_insert apart _ _
      · rfl
  | delete repository id key =>
      refine fun container => keeps_of_effect (serves_deleteItem _ id key) ?_
      simp only [effect, deleteItem, served]
      split
      · exact Documents.slice_erase apart _
      · rfl
  | patch repository id key ops =>
      refine fun container => keeps_of_effect (serves_patchItem _ id key ops) ?_
      simp only [effect, patchItem, served]
      cases container.documents.find? (Memory.documentKey key id) with
      | none => rfl
      | some document =>
          dsimp only
          cases (Patch.applyAll ops document).2 <;> exact Documents.slice_insert apart _ _
  | batch unit operations key =>
      refine fun placement _ container => keeps_of_effect (serves_executeBatch key operations) ?_
      simp only [effect, executeBatch, served, batchAnswer]
      cases applied : applyOperations key operations container.documents with
      | error refused =>
          obtain ⟨index, refusal⟩ := refused
          cases refusal <;> rfl
      | ok answer =>
          obtain ⟨statuses, documents⟩ := answer
          exact slice_applyOperations apart applied

/-- **A write leaves the slices of other partitions as they are**, however it ends. -/
theorem perform_slice (write : Write) (request : Request) {session : Session Memory}
    (coherent : session.connection.Coherent) (apart : write.key.text ≠ partition)
    (name : String) :
    ((write.perform request session).moment.store.container name).documents.slice partition =
      (session.moment.store.container name).documents.slice partition :=
  write.perform_preserves
    (write.preserves_keeps apart fun other =>
      (session.moment.store.container other).documents.slice partition)
    coherent (fun _ => rfl) name

end Write

/-! ### Stores with one slice -/

/-- In two stores a container has the same documents of a partition, and no failure waits. -/
structure SameSlice (name partition : String) (moment moment' : Moment Memory) : Prop where
  /-- The documents of the partition are the same. -/
  slice : (moment.store.container name).documents.slice partition =
    (moment'.store.container name).documents.slice partition
  /-- No failure waits in the first store. -/
  quiet : (moment.store.container name).failures = []
  /-- No failure waits in the second store. -/
  quiet' : (moment'.store.container name).failures = []

/-- A call that reads in one partition only: documents that have the slice lead to one answer, and
stay as they are. -/
structure ReadsSlice {α : Type} (partition : String) (step : Step α) : Prop where
  /-- The answer depends on the slice. -/
  answer : ∀ documents documents' : Documents,
    documents.slice partition = documents'.slice partition →
      (effect step documents).1 = (effect step documents').1
  /-- No document changes. -/
  documents : ∀ documents, (effect step documents).2 = documents

theorem readsSlice_readItem (name id : String) (key : PartitionKey) :
    ReadsSlice key.text (readItem name id key) where
  answer documents documents' same := by
    have found := congrArg (Keyed.Map.find? · ⟨key.text, id⟩) same
    simp only [Documents.find?_slice, if_true] at found
    rw [effect_readItem, effect_readItem, Memory.documentKey, found]
  documents _ := by rw [effect_readItem]

theorem answerOf_of_slice {statement : Query.Statement} {key : PartitionKey} {size : Nat}
    {token : Option String} {documents documents' : Documents}
    (same : documents.slice key.text = documents'.slice key.text) :
    answerOf statement ⟨some key, some size, token⟩ documents =
      answerOf statement ⟨some key, some size, token⟩ documents' := by
  simp only [answerOf, Documents.documentsOf_eq_slice, same]

section

variable {α : Type} {repository : Repository} {request : Request} {key : PartitionKey}

/-- A run of a call that reads in one partition does not tell stores with one slice apart. -/
theorem respects_call {step : Step α} {operation : String} {call : String → Call Memory α}
    (is : call repository.handle.container =
      Memory.inContainer repository.handle.container step)
    (usual : repository.policy.Usual) (serves : Serves step) (conclusive : Conclusive step)
    (reads : ReadsSlice key.text step) (uncancelled : request.cancelledFrom = none) :
    Action.Respects (SameSlice repository.handle.container key.text)
      (repository.call operation request call) := by
  intro moment moment' same
  have live := request.cancelledBy?_of_uncancelled uncancelled
  obtain ⟨memory, run, served⟩ := Policy.run_inContainer operation usual serves conclusive
    (live moment.now) same.quiet repository.policy.maxRetries
  obtain ⟨memory', run', served'⟩ := Policy.run_inContainer operation usual serves conclusive
    (live moment'.now) same.quiet' repository.policy.maxRetries
  rw [Repository.call, is, Policy.run, run, run']
  refine ⟨reads.answer _ _ same.slice, ?_, served.failures, served'.failures⟩
  rw [served.documents, served'.documents, reads.documents, reads.documents, same.slice]

namespace Repository

variable {statement : Query.Statement}

/-- **Induction over the pages of two fetches.** Stores with one slice give the same pages; that
one store may allow for more pages than the other does not matter, as there is never one more. -/
theorem fetchFrom_sameSlice (usual : repository.policy.Usual) (paged : 1 ≤ repository.pageSize)
    (uncancelled : request.cancelledFrom = none) (most : Option Nat) (bound bound' start : Nat)
    (fetched : QueryOutcome Json) (moment moment' : Moment Memory)
    (same : SameSlice repository.handle.container key.text moment moment')
    (enough : ∀ results, Query.evaluate? statement (((moment.store.container
      repository.handle.container).documents.slice key.text).values) = some results →
        results.length ≤ start + bound ∧ results.length ≤ start + bound')
    (more : 1 ≤ bound) (more' : 1 ≤ bound') :
    (repository.fetchFrom Memory.store request statement (some key) most bound fetched
        (tokenOf start) moment).1 =
      (repository.fetchFrom Memory.store request statement (some key) most bound' fetched
        (tokenOf start) moment').1 ∧
      SameSlice repository.handle.container key.text
        (repository.fetchFrom Memory.store request statement (some key) most bound fetched
          (tokenOf start) moment).2
        (repository.fetchFrom Memory.store request statement (some key) most bound' fetched
          (tokenOf start) moment').2 := by
  induction bound generalizing bound' start fetched moment moment' with
  | zero => exact absurd more (Nat.not_succ_le_zero 0)
  | succ bound ih =>
      obtain ⟨bound', rfl⟩ := Nat.exists_eq_add_one_of_ne_zero (Nat.ne_of_gt more')
      by_cases done : most.any (· ≤ fetched.items.length)
      · rw [fetchFrom_of_enough done, fetchFrom_of_enough done]
        exact ⟨rfl, same⟩
      · have live := request.cancelledBy?_of_uncancelled uncancelled
        -- each fetch makes one request, which is answered from the slice and changes no document
        obtain ⟨memory, served, goesOn⟩ := @fetchFrom_page repository request statement (some key)
          most fetched moment (tokenOf start) (settled_of_usual usual _ _) (live moment.now)
          same.quiet done bound
        obtain ⟨memory', served', goesOn'⟩ := @fetchFrom_page repository request statement
          (some key) most fetched moment' (tokenOf start) (settled_of_usual usual _ _)
          (live moment'.now) same.quiet' done bound'
        have positive := nextPageSize_pos paged done
        generalize repository.nextPageSize most fetched.items.length = size
          at goesOn goesOn' positive
        rw [goesOn, goesOn', ← answerOf_of_slice same.slice]
        have same' : SameSlice repository.handle.container key.text
            { moment with store := memory } { moment' with store := memory' } :=
          ⟨by rw [served.documents, served'.documents, same.slice], served.failures,
            served'.failures⟩
        cases answer : answerOf statement ⟨some key, some size, tokenOf start⟩
            (moment.store.container repository.handle.container).documents with
        | error failure => exact ⟨rfl, same'⟩
        | ok page =>
            obtain ⟨results, evaluates, rfl⟩ := answerOf_eq_ok answer
            obtain ⟨fits, fits'⟩ := enough results evaluates
            simp only [afterPage, pageOf_continuation]
            by_cases left : start + size < results.length
            · -- both go on at the same result, and the bounds are lower by one page each
              simp only [if_pos left]
              rw [← tokenOf_of_pos (Nat.lt_of_lt_of_le positive (Nat.le_add_left size start))]
              refine ih bound' (start + size) _ _ _ same' (fun others evaluates' => ?_) (by omega)
                (by omega)
              rw [served.documents] at evaluates'
              obtain rfl := Option.some.inj (evaluates.symm.trans evaluates')
              omega
            · simp only [if_neg left]
              exact ⟨rfl, same'⟩

/-- **To fetch from a partition** does not tell stores with one slice apart. -/
theorem respects_fetch (usual : repository.policy.Usual) (paged : 1 ≤ repository.pageSize)
    (uncancelled : request.cancelledFrom = none) (most : Option Nat) :
    Action.Respects (SameSlice repository.handle.container key.text)
      (repository.fetch Memory.store request statement (some key) most) := by
  intro moment moment' same
  rw [fetch_memory, fetch_memory]
  have few : ∀ (documents : Documents) (results : List Json),
      Query.evaluate? statement ((documents.slice key.text).values) = some results →
        results.length ≤ 0 + (documents.length + 1) := by
    intro documents results evaluates
    have bounded := Query.length_le_of_evaluate? evaluates
    have fewer : (documents.slice key.text).values.length ≤ documents.length :=
      length_documentsOf_le { documents } (some key)
    omega
  obtain ⟨answer, same'⟩ := fetchFrom_sameSlice usual paged uncancelled most _ _ 0 .empty moment
    moment' same (fun results evaluates => ⟨few _ results evaluates,
      few _ results (same.slice ▸ evaluates)⟩) (Nat.le_add_left 1 _) (Nat.le_add_left 1 _)
  exact @Action.Respects.follows _ _ _ (SameSlice repository.handle.container key.text) _ _ _ _ _
    answer same' fun fetched => .ofExcept (.ok (fetched.limit most))

theorem respects_fetchDocuments (usual : repository.policy.Usual)
    (paged : 1 ≤ repository.pageSize) (uncancelled : request.cancelledFrom = none)
    (most : Option Nat) :
    Action.Respects (SameSlice repository.handle.container key.text)
      (repository.fetchDocuments Memory.store request statement (some key) most) :=
  (respects_fetch usual paged uncancelled most).bind fun _ =>
    (Action.Respects.ofExcept _).bind fun _ => .ofExcept (.ok _)

end Repository

end

/-! ### What reads in one partition -/

namespace RepositoryCall

variable {α : Type} {repository : Repository} {request : Request} {key : PartitionKey}

/-- The call reads in the partition of a key, and changes nothing. -/
def ReadsIn (key : PartitionKey) : RepositoryCall α → Prop
  | .get _ scope | .contains _ scope => scope = key
  | .count _ scope | .queryRaw _ scope _ => scope = some key
  | .query plan _ => plan.partition = some key
  | .upsert _ _ | .delete _ _ | .patch _ _ _ => False

/-- **What reads in one partition** does not tell stores with one slice apart. -/
theorem respects_of_readsIn (usual : repository.policy.Usual) (paged : 1 ≤ repository.pageSize)
    (uncancelled : request.cancelledFrom = none) {call : RepositoryCall α}
    (reads : call.ReadsIn key) :
    Action.Respects (SameSlice repository.handle.container key.text)
      (call.perform repository request) := by
  have read : ∀ id, Action.Respects (SameSlice repository.handle.container key.text)
      (repository.get? Memory.store request id key) := by
    intro id
    have called : Action.Respects (SameSlice repository.handle.container key.text)
        (repository.call "read" request fun container =>
          Memory.store.readItem container id key) :=
      respects_call rfl usual (serves_readItem repository.handle.container id key)
        (conclusive_readItem _ id key) (readsSlice_readItem _ id key) uncancelled
    exact called.view Repository.foundOf fun _ => Repository.get?_of_run rfl
  cases call with
  | get id scope =>
      obtain rfl : scope = key := reads
      exact read id
  | contains id scope =>
      obtain rfl : scope = key := reads
      exact (read id).view (Except.map Option.isSome)
        (Repository.contains_eq repository _ request id scope)
  | count predicate scope =>
      obtain rfl : scope = some key := reads
      exact (Action.Respects.ofExcept _).bind fun _ =>
        (Repository.respects_fetch usual paged uncancelled none).bind fun _ => .ofExcept _
  | query plan most =>
      have inPartition : plan.partition = some key := reads
      refine (Action.Respects.ofExcept _).bind fun _ => ?_
      rw [inPartition]
      exact Repository.respects_fetchDocuments usual paged uncancelled _
  | queryRaw statement scope most =>
      obtain rfl : scope = some key := reads
      exact (Action.Respects.ofExcept _).bind fun _ =>
        Repository.respects_fetchDocuments usual paged uncancelled most
  | upsert _ _ | delete _ _ | patch _ _ _ => exact reads.elim

/-- The answer of a reading call holds a document. -/
def Returns : RepositoryCall α → α → Document → Prop
  | .get _ _, answer, document => answer = some document
  | .query _ _, answer, document | .queryRaw _ _ _, answer, document => document ∈ answer.items
  | _, _, _ => False

/-- Documents that are fetched from a partition are stored there. -/
theorem toJson_mem_of_fetchDocuments {statement : Query.Statement} {most : Option Nat}
    (usual : repository.policy.Usual) (paged : 1 ≤ repository.pageSize) {moment : Moment Memory}
    (live : request.cancelledBy? moment.now = none)
    (quiet : (moment.store.container repository.handle.container).failures = [])
    {outcome : QueryOutcome Document}
    (run : (repository.fetchDocuments Memory.store request statement (some key) most moment).1 =
      .ok outcome) {document : Document} (mem : document ∈ outcome.items) :
    ∃ id, (⟨key.text, id⟩, document.toJson) ∈
      (moment.store.container repository.handle.container).documents := by
  obtain ⟨fetched, _, fetches, run⟩ := Action.exists_of_bind_eq_ok run
  obtain ⟨documents, _, decodes, run⟩ := Action.exists_of_bind_eq_ok run
  cases run
  obtain ⟨results, evaluates, result⟩ := Repository.mem_of_fetch usual paged live quiet
    (congrArg Prod.fst fetches) (Document.toJson_mem_of_decodes (congrArg Prod.fst decodes) mem)
  rcases Query.evaluate?_cases evaluates with stored | ⟨count, rfl⟩
  · obtain ⟨⟨place, _⟩, inSlice, rfl⟩ := List.mem_map.mp (stored.subset result)
    obtain ⟨stored, here⟩ := Documents.mem_slice.mp inSlice
    refine ⟨place.id, ?_⟩
    rw [← show place.partition = key.text from here]
    exact stored
  · cases List.mem_singleton.mp result

/-- A document that is read under an id of a partition is stored there. -/
theorem toJson_mem_of_get? {id : String} (usual : repository.policy.Usual)
    {moment : Moment Memory} (live : request.cancelledBy? moment.now = none)
    (quiet : (moment.store.container repository.handle.container).failures = [])
    {document : Document}
    (run : (repository.get? Memory.store request id key moment).1 = .ok (some document)) :
    (⟨key.text, id⟩, document.toJson) ∈
      (moment.store.container repository.handle.container).documents := by
  obtain ⟨memory, called, -⟩ := Policy.run_inContainer "read" usual
    (serves_readItem repository.handle.container id key) (conclusive_readItem _ id key)
    live quiet repository.policy.maxRetries
  rw [effect_readItem] at called
  have read : repository.get? Memory.store request id key moment =
      (Repository.foundOf (readAnswer repository.handle.container id
        ((moment.store.container repository.handle.container).documents.find?
          (Memory.documentKey key id))),
        { moment with store := memory }) := Repository.get?_of_run called
  rw [read] at run
  refine Keyed.mem_of_find? ?_
  cases found : (moment.store.container repository.handle.container).documents.find?
      (Memory.documentKey key id) with
  | none =>
      rw [found] at run
      cases run
  | some value =>
      rw [found] at run
      change (Document.decode value).map some = .ok (some document) at run
      cases decodes : Document.decode value with
      | error failure =>
          rw [decodes] at run
          cases run
      | ok read =>
          rw [decodes] at run
          cases run
          rw [Document.toJson_of_decode decodes]
          exact found

/-- **What a reading call returns is stored in its partition.** -/
theorem stored_of_returns (usual : repository.policy.Usual) (paged : 1 ≤ repository.pageSize)
    (uncancelled : request.cancelledFrom = none) {call : RepositoryCall α}
    (reads : call.ReadsIn key) {moment : Moment Memory}
    (quiet : (moment.store.container repository.handle.container).failures = []) {answer : α}
    (run : (call.perform repository request moment).1 = .ok answer) {document : Document}
    (returns : call.Returns answer document) :
    ∃ id, (⟨key.text, id⟩, document.toJson) ∈
      (moment.store.container repository.handle.container).documents := by
  have live := request.cancelledBy?_of_uncancelled uncancelled moment.now
  cases call with
  | get id scope =>
      obtain rfl : scope = key := reads
      obtain rfl : answer = some document := returns
      exact ⟨id, toJson_mem_of_get? usual live quiet run⟩
  -- documents of a query are results on its pages; other calls return none, or are no reads
  | query plan most =>
      have inPartition : plan.partition = some key := reads
      obtain ⟨statement, moment', compiled, run⟩ := Action.exists_of_bind_eq_ok run
      obtain ⟨-, rfl⟩ := Prod.mk.inj compiled
      rw [inPartition] at run
      exact toJson_mem_of_fetchDocuments usual paged live quiet run returns
  | queryRaw statement scope most =>
      obtain rfl : scope = some key := reads
      obtain ⟨_, moment', checked, run⟩ := Action.exists_of_bind_eq_ok run
      obtain ⟨-, rfl⟩ := Prod.mk.inj checked
      exact toJson_mem_of_fetchDocuments usual paged live quiet run returns
  | contains _ _ | count _ _ => exact returns.elim
  | upsert _ _ | delete _ _ | patch _ _ _ => exact reads.elim

end RepositoryCall

/-! ### Isolation -/

/-- A new document lies in the partition of the key that it was written under. -/
theorem Write.partition_of_new (write : Write) (request : Request) {session : Session Memory}
    (coherent : session.connection.Coherent) {name : String} {entry : DocumentKey × Json}
    (absent : entry ∉ (session.moment.store.container name).documents)
    (stored : entry ∈ ((write.perform request session).moment.store.container name).documents) :
    write.key.text = entry.1.partition := by
  by_contra apart
  have inSlice := Documents.mem_slice.mpr ⟨stored, rfl⟩
  rw [write.perform_slice request coherent apart name] at inSlice
  exact absent (Documents.mem_slice.mp inSlice).1

/-- Between two sessions a write stored an entry in a container, under a key whose text is its
partition. -/
def StoredBetween (start session : Session Memory) (name : String)
    (entry : DocumentKey × Json) : Prop :=
  ∃ (before : Session Memory) (request : Request) (write : Write),
    Relation.ReflTransGen (ClientStep fun _ => True) start before ∧
      Relation.ReflTransGen (ClientStep fun _ => True) (write.perform request before) session ∧
      write.key.text = entry.1.partition ∧
      entry ∉ (before.moment.store.container name).documents ∧
      entry ∈ ((write.perform request before).moment.store.container name).documents

/-- **Induction over the steps.** Whatever is stored in the end was stored on the way, under a key
whose text is the partition that it lies in. -/
theorem storedBetween_of_steps {start session : Session Memory}
    (coherent : start.connection.Coherent) {name : String}
    (empty : (start.moment.store.container name).documents = ∅)
    (steps : Relation.ReflTransGen (ClientStep fun _ => True) start session) :
    session.connection.Coherent ∧
      ∀ entry ∈ (session.moment.store.container name).documents,
        StoredBetween start session name entry := by
  induction steps with
  | refl =>
      refine ⟨coherent, fun entry stored => ?_⟩
      rw [empty] at stored
      exact absurd stored List.not_mem_nil
  | @tail between session earlier step ih =>
      obtain ⟨coherent', known⟩ := ih
      refine ⟨step.coherent coherent', fun entry stored => ?_⟩
      by_cases old : entry ∈ (between.moment.store.container name).documents
      · obtain ⟨before, request, write, reached, reaches, rest⟩ := known entry old
        exact ⟨before, request, write, reached, reaches.tail step, rest⟩
      · cases step with
        | @write write _ request =>
            exact ⟨between, request, write, earlier, .refl,
              write.partition_of_new request coherent' old stored, old, stored⟩
        | around _ same =>
            rw [same name] at stored
            exact absurd stored old

/-- What a call answers in a session, if no failure waits in the container that it reads. -/
def RepositoryCall.seen {α : Type} (call : RepositoryCall α) (reader : Repository)
    (request : Request) (session : Session Memory) : Except Failure α :=
  (call.perform reader request (session.quieted reader.handle.container).moment).1

/-- A write goes unseen in the partitions of keys with another text. -/
theorem Write.seen_perform {α : Type} (write : Write) (writeRequest : Request)
    {session : Session Memory} (coherent : session.connection.Coherent) {reader : Repository}
    {request : Request} (usual : reader.policy.Usual) (paged : 1 ≤ reader.pageSize)
    (uncancelled : request.cancelledFrom = none) {call : RepositoryCall α} {key : PartitionKey}
    (reads : call.ReadsIn key) (apart : write.key.text ≠ key.text) :
    call.seen reader request (write.perform writeRequest session) =
      call.seen reader request session := by
  have same : SameSlice reader.handle.container key.text
      ((write.perform writeRequest session).quieted reader.handle.container).moment
      (session.quieted reader.handle.container).moment := by
    refine ⟨?_, ?_, ?_⟩
    · simp only [Session.quieted, Memory.quieted, Memory.container_setContainer_self]
      exact write.perform_slice writeRequest coherent apart reader.handle.container
    · simp only [Session.quieted, Memory.quieted, Memory.container_setContainer_self]
    · simp only [Session.quieted, Memory.quieted, Memory.container_setContainer_self]
  exact (RepositoryCall.respects_of_readsIn usual paged uncancelled reads _ _ same).1

/-- **Partitions are isolated as far as the texts of their keys differ.** In every session that is
reached from empty containers, what reads in the partition of a key answers the same before and
after any write under a key with another text, and returns only documents that were stored under
keys with the text of its own. -/
theorem partitions_isolated {α : Type} {start session : Session Memory}
    (coherent : start.connection.Coherent)
    (empty : ∀ name, (start.moment.store.container name).documents = ∅)
    (steps : Relation.ReflTransGen (ClientStep fun _ => True) start session)
    {reader : Repository} {request : Request} (usual : reader.policy.Usual)
    (paged : 1 ≤ reader.pageSize) (uncancelled : request.cancelledFrom = none)
    {key : PartitionKey} {call : RepositoryCall α} (reads : call.ReadsIn key) :
    (∀ (write : Write) (writeRequest : Request), write.key.text ≠ key.text →
      call.seen reader request (write.perform writeRequest session) =
        call.seen reader request session) ∧
    (∀ answer document, call.seen reader request session = .ok answer →
      call.Returns answer document →
        ∃ id, StoredBetween start session reader.handle.container
          (⟨key.text, id⟩, document.toJson)) := by
  obtain ⟨coherent', stored⟩ := storedBetween_of_steps coherent
    (empty reader.handle.container) steps
  refine ⟨fun write writeRequest apart =>
    write.seen_perform writeRequest coherent' usual paged uncancelled reads apart,
    fun answer document run returns => ?_⟩
  have quiet : ((session.quieted reader.handle.container).moment.store.container
      reader.handle.container).failures = [] := by
    simp only [Session.quieted, Memory.quieted, Memory.container_setContainer_self]
  obtain ⟨id, lies⟩ := RepositoryCall.stored_of_returns usual paged uncancelled reads quiet run
    returns
  simp only [Session.quieted, Memory.quieted, Memory.container_setContainer_self] at lies
  exact ⟨id, stored _ lies⟩

/-- A goal of one user, seen by its own key; a write under the key of another user goes unseen. -/
theorem partitions_isolated_goals :
    let session := (Write.creation "1").perform {} Session.fresh
    let call := RepositoryCall.get "g1" (.ofText "1")
    Relation.ReflTransGen (ClientStep fun _ => True) Session.fresh session ∧
      call.ReadsIn (.ofText "1") ∧
      (∀ (write : Write) (writeRequest : Request), write.key.text ≠ "1" →
        call.seen Repository.goals {} (write.perform writeRequest session) =
          call.seen Repository.goals {} session) ∧
      (∀ answer document, call.seen Repository.goals {} session = .ok answer →
        call.Returns answer document →
          ∃ id, StoredBetween Session.fresh session "Goals" (⟨"1", id⟩, document.toJson)) := by
  have steps : Relation.ReflTransGen (ClientStep fun _ => True) Session.fresh
      ((Write.creation "1").perform {} Session.fresh) :=
    .single (.write trivial {})
  have reads : (RepositoryCall.get "g1" (.ofText "1")).ReadsIn (.ofText "1") := rfl
  have isolated := partitions_isolated (fun _ mem => absurd mem List.not_mem_nil) (fun _ => rfl)
    steps Repository.goals_mapped.usual (by decide) (rfl : ({} : Request).cancelledFrom = none)
    reads
  exact ⟨steps, reads, isolated⟩

/-- **Keys that are different values may share a partition.** A goal that is written under a text
is there under the number that the text looks like, where there was none before. -/
theorem partitions_shared_by_values :
    let text := PartitionKey.ofText "1"
    let number : PartitionKey := ⟨.int 1⟩
    let call := RepositoryCall.contains "g1" number
    text.equiv number = false ∧ (Write.creation "1").key = text ∧ call.ReadsIn number ∧
      call.seen Repository.goals {} Session.fresh = .ok false ∧
      call.seen Repository.goals {} ((Write.creation "1").perform {} Session.fresh) =
        .ok true := by
  refine ⟨rfl, rfl, rfl, rfl, ?_⟩
  rfl

end DocumentClient
