import DocumentClient.Document
import DocumentClient.Query.Expr

/-!
# DocumentClient.Query.Plan

**What a caller asks for**: a predicate, an order, a window of the ordered documents, and the
partition to look in. A plan is built clause by clause; predicates add up, and of any other clause
the last one counts.

* `Plan.ofClauses` is the plan of several clauses. Predicates are joined by conjunctions from the
  left, in the order in which they were given.
* `Plan.needsWindow` tells the two kinds of plans apart. One without an order and a window is
  paged by the store; any other has its window in the text, and the store has to do the paging.
* A `Statement` is what a plan is compiled to, and what a store is asked: text, with the values
  that it refers to by name. Of parameters with one name the first counts.
-/

namespace DocumentClient.Query

/-! ## Plans -/

/-- A field to order by. -/
structure Order where
  /-- The field. -/
  reference : String
  /-- Does the largest value come first? -/
  descending : Bool
  deriving DecidableEq, Repr

/-- The keyword of the direction of an order. -/
def Order.keyword (order : Order) : String :=
  if order.descending then "DESC" else "ASC"

/-- A query over the documents of one type. -/
structure Plan where
  /-- The predicate that documents have to satisfy. -/
  filter : Option Expr := none
  /-- The order of the documents. -/
  order : Option Order := none
  /-- How many documents to leave out first. -/
  skip : Option Nat := none
  /-- How many documents to return at most. -/
  take : Option Nat := none
  /-- The partition to look in; without one the query covers all of them. -/
  partition : Option PartitionKey := none
  deriving Repr, Inhabited

/-- One step in building a plan. -/
inductive Clause where
  /-- Adds a predicate. -/
  | filter (predicate : Expr)
  /-- Orders by a field, the least value first. -/
  | orderBy (reference : String)
  /-- Orders by a field, the largest value first. -/
  | orderByDescending (reference : String)
  /-- Leaves out the first documents. -/
  | skip (count : Nat)
  /-- Bounds how many documents are returned. -/
  | take (count : Nat)
  /-- Looks in one partition, or in all. -/
  | partition (key : Option PartitionKey)
  deriving Repr

namespace Plan

/-- Adds a predicate to those the plan has. -/
def addFilter (plan : Plan) (predicate : Expr) : Plan :=
  { plan with
    filter := some (match plan.filter with
      | some existing => existing.and predicate
      | none => predicate) }

/-- The plan after one more clause. -/
def add (plan : Plan) : Clause → Plan
  | .filter predicate => plan.addFilter predicate
  | .orderBy reference => { plan with order := some ⟨reference, false⟩ }
  | .orderByDescending reference => { plan with order := some ⟨reference, true⟩ }
  | .skip count => { plan with skip := some count }
  | .take count => { plan with take := some count }
  | .partition key => { plan with partition := key }

/-- The plan that a sequence of clauses builds. -/
def ofClauses (clauses : List Clause) : Plan :=
  clauses.foldl add {}

/-- Does the plan order its documents or cut a window out of them? Then the store has to do the
paging, and it has to be part of the query text. -/
def needsWindow (plan : Plan) : Bool :=
  plan.order.isSome || plan.skip.isSome || plan.take.isSome

end Plan

/-! ## Statements -/

/-- A named value that query text refers to. -/
structure Parameter where
  /-- The name, with its leading at-sign. -/
  name : String
  /-- The value. -/
  value : Json
  deriving Repr, Inhabited

/-- Query text with its parameters. -/
structure Statement where
  /-- The text of the query. -/
  text : String
  /-- The parameters, in the order in which they were bound. -/
  parameters : List Parameter
  deriving Repr, Inhabited

/-- The value of a parameter; of equal names the first counts. -/
def Statement.parameter? (statement : Statement) (name : String) : Option Json :=
  (statement.parameters.find? fun p => p.name = name).map Parameter.value

end DocumentClient.Query
