import DocumentClient.Proofs.Connection
import DocumentClient.Proofs.Query.Building
import DocumentClient.Proofs.Repository.Paging

/-!
# DocumentClient.Proofs.Repository.Querying

**A query is answered with what its clauses ask for.** It takes a number of pieces that have to fit:
the clauses make a plan, the plan a text, the container reads the text and cuts the results into
pages, and the repository puts the pages together and reads documents from them.

* `Memory.Container.Readable` is what is asked of a container: no failure waits, what is stored
  are documents, and a word can count them. `documentsOf_entries` says in which order it goes
  through them.
* `query_results` follows the whole way for a plan that can be evaluated, and `query_answers` for
  clauses.

## Proof shape

* Each of the pieces has its own lemma elsewhere: plans of clauses, the text of a plan, its
  evaluation, pages. What is here is how the outcome of one is the input of the next.
* `query_of_compiled`, `query_of_fetched` and `query_of_refused` take a query apart once, one for
  each way that it can go; the proofs after them never unfold it.
* `fetch_stored` reads the documents that were fetched. It needs of the results only that they are
  stored documents (`Readable.decodes_of_mem`), so sorting and windows do not matter to it.
* A bound on the results and a window of the query cut the same list from two sides;
  `wanted_smallerBound` and `wanted_sublist` say how the cuts go together.
-/

namespace DocumentClient

open Store

/-! ### As many as are wanted -/

/-- A bound on the results that all of them are within makes no difference. -/
theorem wanted_smallerBound {most take : Option Nat} {results : List Json}
    (within : ∀ n ∈ take, results.length ≤ n) :
    wanted (Repository.smallerBound most take) results = wanted most results := by
  cases take with
  | none => cases most <;> rfl
  | some n =>
      have all : results.take n = results := List.take_of_length_le (within n rfl)
      cases most with
      | none => exact all
      | some m =>
          change results.take (min m n) = results.take m
          rw [← List.take_take, all]

theorem wanted_sublist (most : Option Nat) (results : List Json) :
    (wanted most results).Sublist results := by
  cases most with
  | none => exact .refl results
  | some m => exact List.take_sublist m results

/-! ### What a container answers with -/

/-- A container that answers queries: no failure waits, and what is stored are documents, no more
than a word can count. -/
structure Memory.Container.Readable (container : Memory.Container) : Prop where
  /-- No failure waits. -/
  quiet : container.failures = []
  /-- A token can say where any page starts. -/
  counted : container.documents.length ≤ Word.max64
  /-- What is stored are documents. -/
  decodes : ∀ entry ∈ container.documents, ∃ document, Document.decode entry.2 = .ok document

theorem Memory.Container.Readable.decodes_of_mem {container : Memory.Container}
    (readable : container.Readable) {scope : Option PartitionKey} {value : Json}
    (mem : value ∈ container.documentsOf scope) :
    ∃ document, Document.decode value = .ok document := by
  obtain ⟨entry, inside, rfl⟩ := List.mem_map.mp mem
  exact readable.decodes entry (Keyed.Map.mem_filterKeys.mp inside).1

theorem Memory.Container.Readable.length_le {container : Memory.Container}
    (readable : container.Readable) {scope : Option PartitionKey} {results : List Json}
    (stored : results.Subperm (container.documentsOf scope)) : results.length ≤ Word.max64 :=
  Nat.le_trans stored.length_le (Nat.le_trans
    (Memory.Container.length_documentsOf_le _ scope) readable.counted)

/-- A document is in the partition that clauses ask for, if they do. -/
def Query.InScope (clauses : List Query.Clause) (key : DocumentKey) : Prop :=
  ∀ partition ∈ Query.lastSet Query.Clause.setsPartition clauses, key.partition = partition.text

/-- **The documents of a partition, or of all, are in order of their keys.** -/
theorem Memory.Container.documentsOf_entries (container : Memory.Container)
    (scope : Option PartitionKey) :
    ∃ entries : Documents,
      (∀ entry, entry ∈ entries ↔ entry ∈ container.documents ∧
        ∀ partition ∈ scope, entry.1.partition = partition.text) ∧
      container.documentsOf scope = entries.values := by
  refine ⟨_, fun entry => ?_, rfl⟩
  rw [Keyed.Map.mem_filterKeys]
  refine and_congr_right fun _ => ?_
  cases scope with
  | none => simp
  | some partition => simp

namespace Repository

variable {repository : Repository} {request : Retry.Request} {plan : Query.Plan}
  {statement : Query.Statement} {most : Option Nat} {moment later : Moment Memory}

theorem query_of_refused {error : Query.CompileError}
    (refused : Query.compilePlan repository.pageSize plan = .error error) :
    repository.query Memory.store request plan most moment = (.error error.toFailure, moment) := by
  have metrics : repository.queryWithMetrics Memory.store request plan most moment =
      (.error error.toFailure, moment) :=
    Action.ofExcept_bind_of_error (congrArg (Except.mapError Query.CompileError.toFailure) refused)
  rw [query, Action.map_apply, metrics]
  rfl

/-- A query that compiles goes on with fetching documents for its text. -/
theorem query_of_compiled (compiled : Query.compilePlan repository.pageSize plan = .ok statement) :
    repository.query Memory.store request plan most moment =
      (QueryOutcome.items <$> repository.fetchDocuments Memory.store request statement
        plan.partition (smallerBound most plan.take)) moment := by
  have metrics : repository.queryWithMetrics Memory.store request plan most moment =
      repository.fetchDocuments Memory.store request statement plan.partition
        (smallerBound most plan.take) moment :=
    Action.ofExcept_bind_of_ok (congrArg (Except.mapError Query.CompileError.toFailure) compiled)
  rw [query, Action.map_apply, Action.map_apply, metrics]

/-- A query that compiles answers with the documents that are fetched for its text. -/
theorem query_of_fetched (compiled : Query.compilePlan repository.pageSize plan = .ok statement)
    {fetched : QueryOutcome Json}
    (run : repository.fetch Memory.store request statement plan.partition
      (smallerBound most plan.take) moment = (.ok fetched, later))
    {documents : List Document} (decoded : fetched.items.mapM Document.decode = .ok documents) :
    repository.query Memory.store request plan most moment = (.ok documents, later) := by
  have fetches : repository.fetchDocuments Memory.store request statement plan.partition
      (smallerBound most plan.take) moment =
        (.ok ⟨documents, fetched.charge, fetched.pages⟩, later) := by
    rw [fetchDocuments, Action.bind_apply_of_ok run]
    exact Action.ofExcept_bind_of_ok decoded
  rw [query_of_compiled compiled, Action.map_apply, fetches]
  rfl

/-- A query whose results cannot be fetched fails with that. -/
theorem query_of_unfetched (compiled : Query.compilePlan repository.pageSize plan = .ok statement)
    {failure : Failure}
    (run : repository.fetch Memory.store request statement plan.partition
      (smallerBound most plan.take) moment = (.error failure, later)) :
    repository.query Memory.store request plan most moment = (.error failure, later) := by
  have fetches : repository.fetchDocuments Memory.store request statement plan.partition
      (smallerBound most plan.take) moment = (.error failure, later) :=
    Action.bind_apply_of_error run
  rw [query_of_compiled compiled, Action.map_apply, fetches]
  rfl

/-- **Results that are stored documents are fetched and read**, no more than are wanted. -/
theorem fetch_stored {scope : Option PartitionKey} {results : List Json}
    (paged : 1 ≤ repository.pageSize) (live : request.cancelledBy? moment.now = none)
    (readable : (moment.store.container repository.handle.container).Readable)
    (evaluates : Query.evaluate? statement
      ((moment.store.container repository.handle.container).documentsOf scope) = some results)
    (stored : results.Subperm
      ((moment.store.container repository.handle.container).documentsOf scope)) :
    ∃ fetched documents later,
      repository.fetch Memory.store request statement scope most moment = (.ok fetched, later) ∧
        fetched.items.mapM Document.decode = .ok documents ∧
        documents.map Document.toJson = wanted most results := by
  -- a token can count them, so that no page is refused, and each of them can be read
  have counted := readable.length_le stored
  obtain ⟨outcome, memory, calls, run, -, found, ends⟩ := @fetch_ends repository request statement
    scope most results (.inr counted) paged moment live readable.quiet evaluates
  obtain ⟨fetched, rfl⟩ := ends counted
  obtain ⟨documents, decoded⟩ :
      ∃ documents, fetched.items.mapM Document.decode = .ok documents := by
    refine Document.exists_decodes fun value mem => readable.decodes_of_mem (stored.subset ?_)
    rw [found fetched rfl] at mem
    exact (wanted_sublist most results).subset mem
  refine ⟨fetched, documents, _, run, decoded, ?_⟩
  rw [Document.map_toJson_of_decodes decoded, found fetched rfl]

/-- **A plan that can be evaluated is answered with its results**, no more than are wanted. -/
theorem query_results (paged : 1 ≤ repository.pageSize)
    (live : request.cancelledBy? moment.now = none)
    (readable : (moment.store.container repository.handle.container).Readable)
    (evaluable : plan.Evaluable repository.pageSize
      ((moment.store.container repository.handle.container).documentsOf plan.partition)) :
    ∃ documents later,
      repository.query Memory.store request plan most moment = (.ok documents, later) ∧
        documents.map Document.toJson = wanted most (plan.results repository.pageSize
          ((moment.store.container repository.handle.container).documentsOf plan.partition)) := by
  obtain ⟨statement, compiled, evaluates⟩ := Query.evaluate?_compilePlan evaluable
  have bounded : ∀ n ∈ plan.take, (plan.results repository.pageSize
      ((moment.store.container repository.handle.container).documentsOf plan.partition)).length ≤
        n := fun n => Query.Plan.length_results_le
  obtain ⟨fetched, documents, later, run, decoded, results⟩ :=
    @fetch_stored repository request statement (smallerBound most plan.take) moment plan.partition _
      paged live readable evaluates (Query.Plan.results_subperm _ plan _)
  exact ⟨documents, later, query_of_fetched compiled run decoded,
    results.trans (wanted_smallerBound bounded)⟩

/-- **A query is answered with exactly what its clauses ask for.** Of the documents in scope, in
order of partition and id, it returns those for which all equalities hold, sorted stably by the last
order, within the last window, and no more than are wanted; whatever the size of a page. -/
theorem query_answers (repository : Repository) (request : Retry.Request)
    (clauses : List Query.Clause) (most : Option Nat) (moment : Moment Memory)
    (paged : 1 ≤ repository.pageSize) (fits : repository.pageSize ≤ Word.max32)
    (live : request.cancelledBy? moment.now = none)
    (readable : (moment.store.container repository.handle.container).Readable)
    (answerable : Query.Answerable clauses
      ((moment.store.container repository.handle.container).documentsOf
        (Query.lastSet Query.Clause.setsPartition clauses))) :
    ∃ (entries : Documents) (documents : List Document) (later : Moment Memory),
      (∀ entry, entry ∈ entries ↔
        entry ∈ (moment.store.container repository.handle.container).documents ∧
          Query.InScope clauses entry.1) ∧
        repository.query Memory.store request (.ofClauses clauses) most moment =
          (.ok documents, later) ∧
        documents.map Document.toJson =
          wanted most (Query.asked repository.pageSize clauses entries.values) := by
  have evaluable := answerable.evaluable fits
  rw [← Query.Plan.partition_ofClauses] at evaluable
  obtain ⟨documents, later, run, results⟩ :=
    @query_results repository request (.ofClauses clauses) most moment paged live readable evaluable
  obtain ⟨entries, inScope, same⟩ :=
    Memory.Container.documentsOf_entries _ (Query.Plan.ofClauses clauses).partition
  rw [Query.results_ofClauses, same] at results
  rw [Query.Plan.partition_ofClauses] at inScope
  exact ⟨entries, documents, later, inScope, run, results⟩

/-- A goal of a rank, for the example below. -/
def ranked (user id : String) (rank : Int) : DocumentKey × Json :=
  (⟨user, id⟩, .obj [("id", .str id), ("kind", .str "run"), ("rank", .int rank),
    ("userId", .str user)])

/-- Goals of two users; one goal has no rank, and one is of another kind. -/
def ranking : Memory.Container where
  documents := { entries := [ranked "u1" "g1" 2,
    (⟨"u1", "g2"⟩, .obj [("id", .str "g2"), ("kind", .str "run"), ("userId", .str "u1")]),
    (⟨"u1", "g3"⟩, .obj [("id", .str "g3"), ("kind", .str "rest"), ("userId", .str "u1")]),
    ranked "u1" "g4" 3, ranked "u1" "g5" 1, ranked "u2" "g1" 5] }

theorem ranking_readable : ranking.Readable where
  quiet := rfl
  counted := by decide
  decodes := by
    have read : ∀ entry ∈ ranking.documents.entries, (Document.decode entry.2).isOk = true := by
      decide
    intro entry mem
    cases decoded : Document.decode entry.2 with
    | ok document => exact ⟨document, rfl⟩
    | error failure =>
        have := read entry mem
        rw [decoded] at this
        cases this

/-- Clauses that ask for the goals of a user by falling rank, without the first one. -/
def byRank : List Query.Clause :=
  [.filter (.compare "Kind" .eq (.str "run")), .partition none, .orderBy "id", .skip 1, .take 2,
    .filter (.compare "UserId" .eq (.str "u1")), .orderByDescending "Rank",
    .partition (some (.ofText "u1"))]

theorem byRank_answerable :
    Query.Answerable byRank (ranking.documentsOf (some (.ofText "u1"))) where
  plain := by
    have kind : (⟨"Kind", .str "run"⟩ : Query.Equality).Readable := ⟨by decide, by decide⟩
    have user : (⟨"UserId", .str "u1"⟩ : Query.Equality).Readable := ⟨by decide, by decide⟩
    simp only [byRank, List.forall_mem_cons, List.not_mem_nil, false_implies, implies_true,
      and_true, Query.Clause.Plain, true_and]
    exact ⟨.equality kind, by decide, by decide, .equality user⟩
  path := by
    rintro order ⟨rfl⟩
    decide
  admitted := by
    rintro order ⟨rfl⟩
    have running : Query.selected (byRank.flatMap Query.Clause.equalities)
        (ranking.documentsOf (some (.ofText "u1"))) =
          [(ranked "u1" "g1" 2).2,
            .obj [("id", .str "g2"), ("kind", .str "run"), ("userId", .str "u1")],
            (ranked "u1" "g4" 3).2, (ranked "u1" "g5" 1).2] := rfl
    refine ⟨.numbers, ?_⟩
    rw [running]
    simp only [List.forall_mem_cons, List.not_mem_nil, false_implies, implies_true, and_true]
    exact ⟨⟨2, rfl, by decide⟩, trivial, ⟨3, rfl, by decide⟩, ⟨1, rfl, by decide⟩⟩

/-- That query is answered, with one document a page. -/
theorem query_answers_byRank :
    let repository : Repository := { goals with pageSize := 1 }
    let moment : Moment Memory := ⟨0, Memory.setContainer {} "Goals" ranking, []⟩
    Query.Answerable byRank (ranking.documentsOf (some (.ofText "u1"))) ∧
      ∃ (entries : Documents) (documents : List Document) (later : Moment Memory),
        (∀ entry, entry ∈ entries ↔
          entry ∈ (moment.store.container "Goals").documents ∧ Query.InScope byRank entry.1) ∧
          repository.query Memory.store {} (.ofClauses byRank) (some 5) moment =
            (.ok documents, later) ∧
          documents.map Document.toJson =
            wanted (some 5) (Query.asked 1 byRank entries.values) :=
  ⟨byRank_answerable, query_answers { goals with pageSize := 1 } {} byRank (some 5)
    ⟨0, Memory.setContainer {} "Goals" ranking, []⟩ (by decide) (by decide) rfl ranking_readable
    byRank_answerable⟩

example : Query.asked 1 byRank ranking.documents.values =
    [(ranked "u1" "g1" 2).2, (ranked "u1" "g5" 1).2] := by cbv

end Repository

end DocumentClient
