import DocumentClient.Proofs.Repository.Querying

/-!
# DocumentClient.Proofs.Repository.Counting

**A count agrees with the query that it counts for.** The two compile to different texts, are
evaluated differently and are put together from their pages differently, the one as a sum, the other
as documents. They agree all the same, also in what they refuse: a predicate that does not compile,
and one that the store does not understand.

* `EndAlike` lists the ways in which both end; `count_query_endAlike` shows that there is no
  other. Each way fixes both outcomes, so that whatever is compared between them is decided by it.
* `endAlike_of_results` has the work in it: the count has one result on one page, the query as
  many as there are documents on any number of pages. That the one is the number of the others is
  `Query.evaluate?_count`, and `addCounts_singleton` that the sum of one part is the part, if a
  word can hold it; it can, since a container that can be read has no more documents.
* `count_agrees` says the same as equivalences: they return as many, or fail with one kind of
  failure. What a failure says of the text that was refused is different, as the texts are.
-/

namespace DocumentClient

open Store

namespace Repository

variable {repository : Repository} {request : Retry.Request} {filter : Option Query.Expr}
  {key : Option PartitionKey} {statement : Query.Statement} {error : Query.CompileError}
  {moment : Moment Memory}

/-! ### The ways in which a count ends -/

theorem count_of_refused (refused : Query.compileCount filter = .error error) :
    repository.count Memory.store request filter key moment = (.error error.toFailure, moment) :=
  Action.ofExcept_bind_of_error (congrArg (Except.mapError Query.CompileError.toFailure) refused)

theorem count_of_compiled (compiled : Query.compileCount filter = .ok statement) :
    repository.count Memory.store request filter key moment =
      (do
        let fetched ← repository.fetch Memory.store request statement key none
        Action.ofExcept (addCounts 0 fetched.items) : Action (Moment Memory) Nat) moment :=
  Action.ofExcept_bind_of_ok (congrArg (Except.mapError Query.CompileError.toFailure) compiled)

/-- One part that a word can hold is the sum. -/
theorem addCounts_singleton {n : Nat} (fits : n ≤ Word.max64) :
    addCounts 0 [.int n] = .ok n := by
  have word : (Json.int n).asWord64? = some n := by
    have unsigned : Word.isUnsigned64 n = true := by
      simp only [Word.isUnsigned64, Bool.and_eq_true, decide_eq_true_eq]
      omega
    rw [Json.asWord64?, if_pos unsigned, Int.toNat_natCast]
  simp only [addCounts, word, Nat.zero_add, if_pos fits]

/-! ### Both together -/

/-- How a count ends together with the query that it counts for. -/
inductive EndAlike : Except Failure Nat → Except Failure (List Document) → Prop
  /-- The count is the number of documents. -/
  | counted (documents : List Document) : EndAlike (.ok documents.length) (.ok documents)
  /-- Neither compiles, for one reason. -/
  | uncompiled (detail : String) :
    EndAlike (.error (.compilation detail)) (.error (.compilation detail))
  /-- The store understands neither; it tells with the text of each. -/
  | unevaluated (detail detail' : String) :
    EndAlike (.error (.internal detail)) (.error (.internal detail'))

theorem error_or_compiles (filter : Option Query.Expr) :
    (∃ error, filter.bind Query.Expr.error? = some error) ∨ ∀ e ∈ filter, e.Compiles := by
  cases found : filter.bind Query.Expr.error? with
  | some error => exact .inl ⟨error, rfl⟩
  | none =>
      refine .inr fun e given => Query.Expr.compiles_of_error? e ?_
      rwa [show filter = some e from given, Option.bind_some] at found

theorem compilePlan_of_compiles (compiles : ∀ e ∈ filter, e.Compiles) (pageSize : Nat) :
    Query.compilePlan pageSize { filter, partition := key } =
      .ok (Query.predicateStatement .documents filter) :=
  Query.compileFilter_of_compiles compiles .documents

section Compiled

variable (usual : repository.policy.Usual) (live : request.cancelledBy? moment.now = none)
  (readable : (moment.store.container repository.handle.container).Readable)
  (compiles : ∀ e ∈ filter, e.Compiles)

include usual live readable compiles

/-- A predicate that the store does not understand is refused by both. -/
theorem endAlike_of_unknown
    (unknown : Query.evaluate? (Query.predicateStatement .documents filter)
      ((moment.store.container repository.handle.container).documentsOf key) = none) :
    EndAlike (repository.count Memory.store request filter key moment).1
      (repository.query Memory.store request { filter, partition := key } none moment).1 := by
  have unknown' := Query.evaluate?_count compiles
    ((moment.store.container repository.handle.container).documentsOf key)
  rw [unknown] at unknown'
  obtain ⟨_, counts⟩ := @fetch_refused repository request _ key none usual moment live
    readable.quiet unknown' Bool.false_ne_true
  obtain ⟨later, queries⟩ := @fetch_refused repository request _ key none usual moment live
    readable.quiet unknown Bool.false_ne_true
  have queried : repository.query Memory.store request { filter, partition := key } none moment =
      (_, later) := query_of_unfetched (compilePlan_of_compiles compiles _) queries
  rw [count_of_compiled (Query.compileFilter_of_compiles compiles .count),
    Action.bind_apply_of_error counts, queried]
  exact .unevaluated _ _

/-- A predicate that the store understands is answered by both. -/
theorem endAlike_of_results (paged : 1 ≤ repository.pageSize) {results : List Json}
    (evaluates : Query.evaluate? (Query.predicateStatement .documents filter)
      ((moment.store.container repository.handle.container).documentsOf key) = some results) :
    EndAlike (repository.count Memory.store request filter key moment).1
      (repository.query Memory.store request { filter, partition := key } none moment).1 := by
  have stored := Query.evaluateDocuments?_subperm
    ((Query.evaluate?_documents (Query.toList_predicateStatement .documents filter) _).symm.trans
      evaluates)
  have counted := readable.length_le stored
  -- the only part of the count is one result, so that no token is needed for it
  have evaluates' := Query.evaluate?_count compiles
    ((moment.store.container repository.handle.container).documentsOf key)
  rw [evaluates, Option.map_some] at evaluates'
  obtain ⟨_, _, _, counts, -, found, ends⟩ := @fetch_ends repository request _ key none _
    (.inl usual) paged moment live readable.quiet evaluates'
  obtain ⟨parts, rfl⟩ := ends (Nat.le_of_ble_eq_true rfl)
  obtain ⟨fetched, documents, later, queries, decoded, same⟩ := @fetch_stored repository request _
    none moment key _ paged live readable evaluates stored
  have length : documents.length = results.length := by
    rw [← List.length_map Document.toJson, same]
    rfl
  have queried : repository.query Memory.store request { filter, partition := key } none moment =
      (.ok documents, later) :=
    query_of_fetched (compilePlan_of_compiles compiles _) queries decoded
  rw [count_of_compiled (Query.compileFilter_of_compiles compiles .count),
    Action.bind_apply_of_ok counts, queried, found parts rfl]
  change EndAlike (addCounts 0 [.int results.length]) (.ok documents)
  rw [addCounts_singleton counted, ← length]
  exact .counted documents

end Compiled

/-- **A count ends as the query does that it counts for**, for any predicate, partition and size of
a page. -/
theorem count_query_endAlike (paged : 1 ≤ repository.pageSize) (usual : repository.policy.Usual)
    (live : request.cancelledBy? moment.now = none)
    (readable : (moment.store.container repository.handle.container).Readable) :
    EndAlike (repository.count Memory.store request filter key moment).1
      (repository.query Memory.store request { filter, partition := key } none moment).1 := by
  rcases error_or_compiles filter with ⟨error, found⟩ | compiles
  · have refused : ∀ projection, Query.compileFilter projection filter = .error error := fun _ => by
      rw [Query.compileFilter, found]
    have queried : repository.query Memory.store request { filter, partition := key } none moment =
        (_, moment) := query_of_refused (refused .documents)
    rw [count_of_refused (refused .count), queried]
    exact .uncompiled error.message
  · cases evaluates : Query.evaluate? (Query.predicateStatement .documents filter)
        ((moment.store.container repository.handle.container).documentsOf key) with
    | none => exact endAlike_of_unknown usual live readable compiles evaluates
    | some results => exact endAlike_of_results usual live readable compiles paged evaluates

/-- A count and a query agree: they return as many, or fail with one kind of failure. -/
structure Agree (counted : Except Failure Nat) (queried : Except Failure (List Document)) :
    Prop where
  /-- A number is counted exactly if that many documents are returned. -/
  count : ∀ n, counted = .ok n ↔ ∃ documents, queried = .ok documents ∧ documents.length = n
  /-- The one does not compile exactly if the other does not, for the same reason. -/
  compilation : ∀ detail, counted = .error (.compilation detail) ↔
    queried = .error (.compilation detail)
  /-- The one fails within the store exactly if the other does. -/
  internal : (∃ detail, counted = .error (.internal detail)) ↔
    ∃ detail, queried = .error (.internal detail)

/-- What ends in one of the ways agrees. -/
theorem EndAlike.agree {counted : Except Failure Nat} {queried : Except Failure (List Document)}
    (alike : EndAlike counted queried) : Agree counted queried := by
  cases alike with
  | counted documents => constructor <;> simp
  | uncompiled detail => constructor <;> simp
  | unevaluated detail detail' => constructor <;> simp

/-- **A count agrees with the query that it counts for.** Whatever is stored, as long as it can be
read as documents, and whatever the predicate, the partition and the size of a page. -/
theorem count_agrees (repository : Repository) (request : Retry.Request)
    (predicate : Query.Expr) (key : Option PartitionKey) (moment : Moment Memory)
    (paged : 1 ≤ repository.pageSize) (usual : repository.policy.Usual)
    (live : request.cancelledBy? moment.now = none)
    (readable : (moment.store.container repository.handle.container).Readable) :
    Agree (repository.count Memory.store request (some predicate) key moment).1
      (repository.queryByPredicate Memory.store request predicate key none moment).1 :=
  (count_query_endAlike paged usual live readable).agree

/-- A predicate that goals of both users satisfy. -/
def running : Query.Expr := .compare "Kind" .eq (.str "run")

/-- A denial, which the store does not understand. -/
def resting : Query.Expr := .not running

/-- The count of the running goals agrees with their query, with one result a page, and so does that
of the others, which the store does not understand. -/
theorem count_agrees_running :
    let repository : Repository := { goals with pageSize := 1 }
    let moment : Moment Memory := ⟨0, Memory.setContainer {} "Goals" ranking, []⟩
    ranking.Readable ∧
      ∀ predicate ∈ [running, resting],
        Agree (repository.count Memory.store {} (some predicate) none moment).1
          (repository.queryByPredicate Memory.store {} predicate none none moment).1 :=
  ⟨ranking_readable, fun predicate _ => count_agrees { goals with pageSize := 1 } {} predicate none
    ⟨0, Memory.setContainer {} "Goals" ranking, []⟩ (by decide) (.inl rfl) rfl ranking_readable⟩

end Repository

end DocumentClient
