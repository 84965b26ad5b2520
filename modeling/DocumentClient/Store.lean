import DocumentClient.Action
import DocumentClient.Batch
import DocumentClient.Catalog.Definition
import DocumentClient.Query.Plan

/-!
# DocumentClient.Store

**What the client asks of a store.** A store is given by what becomes of each kind of call; nothing
else is assumed of it, so it may answer anything, late, or not at all.

* A call is made in time. The clock shows whole milliseconds and is advanced by whoever waits; a
  store learns the instant of a call and answers after some time, or never.
* A `Reply` holds two states of the store: the one once the answer has arrived, and the one if
  nobody waits for it. A store may have done what it was asked in both.
* A `Moment` is where a computation stands: the instant, the state of the store, and the numbers
  that will be drawn at random. With these given a computation is a function.
* Serving a call may cancel the request that made it, at once or just before the answer arrives
  (`Cancels`). That is how a caller gives up that learns of something on the way.
-/

namespace DocumentClient

/-! ## Calls in time -/

namespace Store

/-- When, if ever, serving a call cancels the request that made it. -/
inductive Cancels where
  /-- It does not. -/
  | never
  /-- As soon as the call is made. -/
  | onCall
  /-- Just before the answer arrives. -/
  | onAnswer
  deriving DecidableEq, Repr

/-- What becomes of a call. -/
structure Reply (σ α : Type) where
  /-- After how many milliseconds the answer arrives; none if it never does. -/
  after : Option Nat
  /-- The answer. -/
  outcome : Except Failure α
  /-- The store once the answer has arrived. -/
  settled : σ
  /-- The store if nobody waits for the answer. -/
  dropped : σ
  /-- When the call cancels its request. -/
  cancels : Cancels := .never

/-- A call: what becomes of it at an instant, with the store in a state. -/
abbrev Call (σ α : Type) : Type := Nat → σ → Reply σ α

/-- An answer without delay. -/
def Reply.atOnce {σ α : Type} (outcome : Except Failure α) (store : σ) : Reply σ α :=
  { after := some 0, outcome, settled := store, dropped := store }

end Store

open Store

/-- Where a computation against a store stands: the instant, the state of the store, and the
numbers that will be drawn at random. -/
structure Moment (σ : Type) where
  /-- The instant, in milliseconds. -/
  now : Nat
  /-- The state of the store. -/
  store : σ
  /-- The numbers that will be drawn. -/
  draws : List Nat := []
  deriving Repr, Inhabited

namespace Moment

variable {σ α : Type}

/-- The moment `ms` milliseconds later. -/
def later (moment : Moment σ) (ms : Nat) : Moment σ :=
  { moment with now := moment.now + ms }

@[simp] theorem later_now (moment : Moment σ) (ms : Nat) :
    (moment.later ms).now = moment.now + ms := rfl

@[simp] theorem later_store (moment : Moment σ) (ms : Nat) :
    (moment.later ms).store = moment.store := rfl

/-- Waits for an answer for at most `limit` milliseconds: the answer if it arrives by then, and
the moment at which the wait is over. -/
def await (moment : Moment σ) (limit : Nat) (reply : Reply σ α) :
    Option (Except Failure α) × Moment σ :=
  match reply.after.filter (· ≤ limit) with
  | some ms => (some reply.outcome, { moment.later ms with store := reply.settled })
  | none => (none, { moment.later limit with store := reply.dropped })

end Moment

/-- Makes a call and waits for the answer, however long it takes. A call that is never answered
is given up at once. -/
def Store.Call.action {σ α : Type} (call : Call σ α) : Action (Moment σ) α :=
  fun moment =>
    let reply := call moment.now moment.store
    match reply.after with
    | some ms => (reply.outcome, { moment.later ms with store := reply.settled })
    | none => (.error (.internal "the store never answers"), { moment with store := reply.dropped })

/-! ## Stores -/

/-- A document that a store returns, and what the call cost. -/
structure ItemResponse where
  /-- The document. -/
  resource : Json
  /-- What the call cost. -/
  charge : Binary64
  deriving Repr, Inhabited

/-- What a query call asks for besides the query. -/
structure QueryOptions where
  /-- The partition to look in; without one all are searched. -/
  key : Option PartitionKey := none
  /-- How many results to return at most. -/
  maxItems : Option Nat := none
  /-- Where to go on, as the page before said. -/
  continuation : Option String := none
  deriving Repr, Inhabited

/-- A page of results. -/
structure QueryPage where
  /-- The results. -/
  items : List Json
  /-- Where the next page starts, if there is one. -/
  continuation : Option String
  /-- What the call cost. -/
  charge : Binary64
  deriving Repr, Inhabited

/-- A store with states of type `σ`. -/
structure Store (σ : Type) where
  /-- Checks that a database is there. -/
  readDatabase : (database : String) → Call σ Unit
  /-- Creates a database that is missing, with the highest throughput it may grow to; tells
  whether it was missing. -/
  createDatabase : (database : String) → (autoscale : Option Nat) → Call σ Bool
  /-- Creates a container that is missing; tells whether it was missing. -/
  createContainer : (database : String) → ContainerDefinition → Call σ Bool
  /-- Prepares for calls of a container, at an instant. -/
  openContainer : (database container : String) → Nat → σ → σ
  /-- Frees what the store holds, at an instant. -/
  dispose : Nat → σ → σ
  /-- Returns a document. -/
  readItem : (container id : String) → PartitionKey → Call σ ItemResponse
  /-- Stores a document under its id. -/
  upsertItem : (container : String) → PartitionKey → Json → Call σ ItemResponse
  /-- Removes a document; returns what that cost. -/
  deleteItem : (container id : String) → PartitionKey → Call σ Binary64
  /-- Changes a document. -/
  patchItem : (container id : String) → PartitionKey → List PatchOp → Call σ ItemResponse
  /-- Returns one page of the results of a query. -/
  queryItems : (container : String) → Query.Statement → QueryOptions → Call σ QueryPage
  /-- Applies operations, all or none. -/
  executeBatch : (container : String) → PartitionKey → List Batch.Operation →
    Call σ Batch.Response
  /-- An upper bound on the number of pages that a query of a container has. -/
  pageBound : (container : String) → σ → Nat

end DocumentClient
