import DocumentClient.Proofs.Query.Keywords
import DocumentClient.Proofs.Query.Sorting
import Mathlib.Data.List.Perm.Subperm

/-!
# DocumentClient.Proofs.Query.Evaluation

**A plan evaluates to what it asks for**, if its predicate is a conjunction of equalities. The text
of the plan is cut at the keywords of the window and of the order, and each part is read back.

* `results` says what a plan asks for over some documents, without its text: those for which all
  equalities hold, in an order, and the window of them. `Evaluable` is what has to be known of a
  plan so that its text is understood: at the path of the order the selected documents have values
  of one kind, and both numbers of the window are words of 64 bits.
* `selectBy?_whereText`, `readOrder?_text` and `readWindow?_text` read the parts. Where the text
  is cut is shown elsewhere: no keyword of a part starts in the part before it.
* `evaluate?_compilePlan` puts them together. A plan without a window and without an order has the
  statement of its predicate alone, and one with an order always has a window.
* `evaluate?_count` is about any predicate that compiles, understood or not: a query for the
  number of documents has as its result how many results the query for the documents has. Both
  read the same predicate, and what is selected depends on nothing but the text of it and the
  parameters (`selectBy?_congr`).
-/

namespace DocumentClient.Query

/-! ### Reading the parts -/

/-- **An order is read back** as the names along its path, and its direction. -/
theorem readOrder?_text {order : Order} (path : isFieldPath order.reference = true) :
    readOrder? (orderBody order) = some ⟨storedPath order.reference, order.descending⟩ := by
  obtain ⟨rest, after, names⟩ := namesOf_fieldText path
  have cut : Text.splitOnce? [' '] (orderBody order) =
      some (fieldText order.reference, order.keyword.toList) :=
    Text.Skips.splitOnce?_append (.of_not_mem (blank_not_mem_fieldText path) _)
  have direction : (order.keyword.toList == "DESC".toList) = order.descending := by
    unfold Order.keyword
    cases order.descending <;> decide
  unfold readOrder?
  rw [cut]
  dsimp only [Option.bind_eq_bind, Option.bind_some]
  rw [after, Option.bind_some, names, direction]
  rfl

/-- **A window is read back**, if both numbers are words of 64 bits. -/
theorem readWindow?_text {skip take : Nat} (skips : skip ≤ Word.max64) (takes : take ≤ Word.max64) :
    readWindow? (windowBody skip take) = some (skip, take) := by
  have plain : ' ' ∉ Text.natChars skip := fun mem =>
    absurd (Text.isDigit_of_mem_natChars mem) (by decide)
  have cut : Text.splitOnce? " LIMIT ".toList (windowBody skip take) =
      some (Text.natChars skip, Text.natChars take) :=
    Text.Skips.splitOnce?_append (.of_not_mem plain _)
  unfold readWindow?
  rw [cut]
  dsimp only [Option.bind_eq_bind, Option.bind_some]
  rw [Text.readNumeral_natChars skips, Text.readNumeral_natChars takes]
  rfl

/-! ### What a plan asks for -/

/-- Documents in an order. -/
def Order.arrange (order : Order) (documents : List Json) : List Json :=
  let ascending := sortedBy (storedPath order.reference) documents
  if order.descending then ascending.reverse else ascending

theorem Order.arrange_perm (order : Order) (documents : List Json) :
    (order.arrange documents).Perm documents := by
  have sorted : (sortedBy (storedPath order.reference) documents).Perm documents :=
    List.mergeSort_perm _ _
  unfold Order.arrange
  dsimp only
  split
  · exact (List.reverse_perm _).trans sorted
  · exact sorted

theorem OrderClause.apply_eq {order : Order} {kind : SortKind} {documents : List Json}
    (admitted : ∀ document ∈ documents,
      kind.Admits (document.descend (storedPath order.reference))) :
    OrderClause.apply ⟨storedPath order.reference, order.descending⟩ documents =
      order.arrange documents := by
  simp only [OrderClause.apply, Order.arrange, sortByPath_eq admitted]

/-- The documents for which all equalities hold. -/
def selected (equalities : List Equality) (documents : List Json) : List Json :=
  documents.filter fun document => equalities.all fun equality => equality.holds document

/-- Those documents for which equalities hold, in an order, and the window of them: a part that is
not asked for leaves them as they are, but an order brings a window of one page. -/
def resultsOf (pageSize : Nat) (equalities : List Equality) (order : Option Order)
    (skip take : Option Nat) (documents : List Json) : List Json :=
  let ordered := order.elim id Order.arrange (selected equalities documents)
  if order.isSome || skip.isSome || take.isSome then
    (ordered.drop (skip.getD 0)).take (take.getD pageSize)
  else ordered

namespace Plan

/-- The equalities that the predicate of a plan demands. -/
def equalities (plan : Plan) : List Equality :=
  plan.filter.elim [] Expr.equalities

/-- The results of a plan over documents. -/
def results (pageSize : Nat) (plan : Plan) (documents : List Json) : List Json :=
  resultsOf pageSize plan.equalities plan.order plan.skip plan.take documents

/-- **Results are documents**, each no more often than it is there. -/
theorem results_subperm (pageSize : Nat) (plan : Plan) (documents : List Json) :
    (plan.results pageSize documents).Subperm documents := by
  have inside : (selected plan.equalities documents).Subperm documents :=
    List.filter_sublist.subperm
  have inOrder :
      (plan.order.elim id Order.arrange (selected plan.equalities documents)).Subperm
        documents := by
    cases plan.order with
    | none => exact inside
    | some order => exact (order.arrange_perm _).subperm.trans inside
  unfold results resultsOf
  dsimp only
  split
  · exact ((List.take_sublist _ _).trans (List.drop_sublist _ _)).subperm.trans inOrder
  · exact inOrder

theorem length_results_le {pageSize : Nat} {plan : Plan} {documents : List Json} {n : Nat}
    (take : n ∈ plan.take) : (plan.results pageSize documents).length ≤ n := by
  have take : plan.take = some n := take
  unfold results resultsOf
  dsimp only
  rw [take, Option.isSome_some, Bool.or_true, if_pos rfl, Option.getD_some, List.length_take]
  exact Nat.min_le_left _ _

/-- A plan that can be evaluated: its predicate is a conjunction, its order has a path at which the
selected documents have values of one kind, and its window is within the words of 64 bits. -/
structure Evaluable (pageSize : Nat) (plan : Plan) (documents : List Json) : Prop where
  /-- The predicate is a conjunction of equalities. -/
  conjunctive : ∀ e ∈ plan.filter, e.Conjunctive
  /-- The reference of the order is a path of names. -/
  path : ∀ order ∈ plan.order, isFieldPath order.reference = true
  /-- The values at the path of the order are of one kind. -/
  admitted : ∀ order ∈ plan.order, ∃ kind : SortKind,
    ∀ document ∈ selected plan.equalities documents,
      kind.Admits (document.descend (storedPath order.reference))
  /-- The documents to leave out are counted by a word. -/
  skips : plan.skip.getD 0 ≤ Word.max64
  /-- So are those to return. -/
  takes : plan.take.getD pageSize ≤ Word.max64

end Plan

/-- **A conjunction selects the documents for which its equalities hold.** -/
theorem selectBy?_whereText {plan : Plan} (conjunctive : ∀ e ∈ plan.filter, e.Conjunctive)
    (text : String) (documents : List Json) :
    selectBy? ⟨text, parametersFor (literalsOf plan.filter)⟩ (whereText plan.filter) documents =
      some (selected plan.equalities documents) := by
  unfold selectBy? Plan.equalities
  cases filter : plan.filter with
  | none =>
      have all : selected [] documents = documents :=
        List.filter_eq_self.mpr fun document _ => rfl
      exact congrArg some all.symm
  | some e =>
      rw [whereText_some, Text.afterStart?_append, literalsOf_some]
      dsimp only
      rw [readConditions?_text (conjunctive e filter), Option.map_some, Option.elim_some]
      refine congrArg some (List.filter_congr fun document _ => ?_)
      rw [List.all_map]
      exact congrArg (List.all _) (funext fun equality => equality.holds_condition document)

theorem orderBy?_orderBody {order : Option Order} {documents : List Json}
    (path : ∀ o ∈ order, isFieldPath o.reference = true)
    (admitted : ∀ o ∈ order, ∃ kind : SortKind, ∀ document ∈ documents,
      kind.Admits (document.descend (storedPath o.reference))) :
    orderBy? (order.map orderBody) documents =
      some (order.elim id Order.arrange documents) := by
  cases order with
  | none => rfl
  | some order =>
      obtain ⟨kind, admits⟩ := admitted order rfl
      simp only [Option.map_some, orderBy?, readOrder?_text (path order rfl),
        OrderClause.apply_eq admits, Option.elim_some]

theorem evaluate?_documents {statement : Statement} {rest : List Char}
    (text : statement.text.toList = Projection.documents.text ++ rest) (documents : List Json) :
    evaluate? statement documents = evaluateDocuments? statement rest documents := by
  have other : Text.afterStart? "SELECT VALUE COUNT(1) FROM c".toList
      (Projection.documents.text ++ rest) = none := rfl
  have same : Text.afterStart? "SELECT * FROM c".toList (Projection.documents.text ++ rest) =
      some rest := Text.afterStart?_append _ _
  unfold evaluate?
  simp only [text, other, same]

theorem evaluate?_number {statement : Statement} {rest : List Char}
    (text : statement.text.toList = Projection.count.text ++ rest) (documents : List Json) :
    evaluate? statement documents = evaluateCount? statement rest documents := by
  have same : Text.afterStart? "SELECT VALUE COUNT(1) FROM c".toList
      (Projection.count.text ++ rest) = some rest := Text.afterStart?_append _ _
  unfold evaluate?
  simp only [text, same]

/-- What is selected depends on the parameters of a statement alone. -/
theorem selectBy?_congr {statement statement' : Statement}
    (same : statement.parameters = statement'.parameters) (predicate : List Char)
    (documents : List Json) :
    selectBy? statement predicate documents = selectBy? statement' predicate documents := by
  have parameter : statement.parameter? = statement'.parameter? := by
    funext name
    rw [Statement.parameter?, Statement.parameter?, same]
  have equality : readEquality? statement = readEquality? statement' := by
    funext clause
    simp only [readEquality?, parameter]
  simp only [selectBy?, readConditions?, equality]

/-- **A number is that of the documents.** A query for the number of documents that satisfy a
predicate is understood exactly if the query for these documents is, and its result is how many
there are. -/
theorem evaluate?_count {filter : Option Expr} (compiles : ∀ e ∈ filter, e.Compiles)
    (documents : List Json) :
    evaluate? (predicateStatement .count filter) documents =
      (evaluate? (predicateStatement .documents filter) documents).map fun results =>
        [.int results.length] := by
  have same : (predicateStatement .count filter).parameters =
      (predicateStatement .documents filter).parameters := rfl
  rw [evaluate?_number (toList_predicateStatement .count filter),
    evaluate?_documents (toList_predicateStatement .documents filter)]
  unfold evaluateCount? evaluateDocuments?
  rw [ofText_whereText compiles]
  dsimp only [Option.bind_eq_bind]
  rw [selectBy?_congr same]
  cases selectBy? (predicateStatement .documents filter) (whereText filter) documents <;> rfl

/-- **A plan evaluates to what it asks for.** It compiles, and the results of its statement are
those documents that it selects, in its order and within its window. -/
theorem evaluate?_compilePlan {pageSize : Nat} {plan : Plan} {documents : List Json}
    (h : plan.Evaluable pageSize documents) :
    ∃ statement, compilePlan pageSize plan = .ok statement ∧
      evaluate? statement documents = some (plan.results pageSize documents) := by
  have compiles : ∀ e ∈ plan.filter, e.Compiles := fun e filter =>
    (h.conjunctive e filter).compiles
  have results : plan.results pageSize documents =
      let ordered := plan.order.elim id Order.arrange (selected plan.equalities documents)
      if plan.needsWindow then (ordered.drop (plan.skip.getD 0)).take (plan.take.getD pageSize)
      else ordered := rfl
  have selects : ∀ text, selectBy? ⟨text, parametersFor (literalsOf plan.filter)⟩
      (whereText plan.filter) documents = some (selected plan.equalities documents) :=
    fun text => selectBy?_whereText h.conjunctive text documents
  unfold compilePlan
  rw [results]
  by_cases needsWindow : plan.needsWindow
  · rw [if_pos needsWindow, if_pos needsWindow]
    refine ⟨_, compile_of_compiles compiles h.path pageSize, ?_⟩
    rw [evaluate?_documents (toList_windowStatement pageSize plan)]
    unfold evaluateDocuments?
    rw [ofText_withWindow compiles h.path]
    dsimp only [Option.bind_eq_bind]
    rw [windowStatement, selects, Option.bind_some, orderBy?_orderBody h.path h.admitted,
      Option.bind_some]
    simp only [windowOf?, readWindow?_text h.skips h.takes, Option.map_some]
  · have unordered : plan.order = none := by
      simp only [Plan.needsWindow, Bool.or_eq_true, not_or, Option.not_isSome_iff_eq_none]
        at needsWindow
      exact needsWindow.1.1
    rw [if_neg needsWindow, if_neg needsWindow]
    refine ⟨_, compileFilter_of_compiles compiles .documents, ?_⟩
    rw [evaluate?_documents (toList_predicateStatement .documents plan.filter)]
    unfold evaluateDocuments?
    rw [ofText_whereText compiles]
    dsimp only [Option.bind_eq_bind]
    rw [predicateStatement, selects, Option.bind_some, unordered]
    rfl

end DocumentClient.Query
