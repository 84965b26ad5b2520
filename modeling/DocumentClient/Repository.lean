import DocumentClient.Connection
import DocumentClient.Query.Compile
import DocumentClient.Retry.Run

/-!
# DocumentClient.Repository

**The documents of one type.** A repository checks what it is given before anything is sent, makes
every call under its policy, and reads what comes back as documents of its type. Queries are fetched
page by page.

* Single documents go through `Repository.call`, which names the call for diagnostics and makes it
  of the container of the handle. A document that is missing is a failure of the store and no
  failure of the client: `whenMissing` turns it into a value.
* What the store returns is read before it is given to the caller, and that may fail after the
  store has done what it was asked. So a failure does not mean that nothing was changed.
* `fetchFrom` asks for page after page. How many there may be is for the store to say; the
  recursion is on that number.
* A count comes in parts, one from each page or several, which are added up as words of 64 bits.

`queryWithMetrics` and `queryRawWithMetrics` differ in where the statement comes from: the one
compiles a plan, the other takes a text from the caller as it is.
-/

namespace DocumentClient

open Store

/-- The documents of one type. -/
structure Repository where
  /-- The name of the type. -/
  typeName : String
  /-- Where documents of the type are stored. -/
  placement : Placement
  /-- The container, prepared for calls. -/
  handle : Handle
  /-- When calls are repeated. -/
  policy : Retry.Policy
  /-- How many results a page holds at most. -/
  pageSize : Nat
  /-- How many repositories had been made before over the connection. -/
  serial : Nat

/-- Results of a query, and what they cost. -/
structure QueryOutcome (α : Type) where
  /-- The results. -/
  items : List α
  /-- What all pages cost together. -/
  charge : Binary64
  /-- How many pages there were. -/
  pages : Nat
  deriving Repr, Inhabited

namespace QueryOutcome

/-- Nothing fetched yet. -/
def empty {α : Type} : QueryOutcome α :=
  { items := [], charge := .zero, pages := 0 }

/-- What was fetched, together with another page. -/
def addPage (fetched : QueryOutcome Json) (page : QueryPage) : QueryOutcome Json :=
  { items := fetched.items ++ page.items
    charge := fetched.charge.add page.charge
    pages := fetched.pages + 1 }

/-- What was fetched, cut to as many results as are wanted. -/
def limit {α : Type} (fetched : QueryOutcome α) : Option Nat → QueryOutcome α
  | none => fetched
  | some most => { fetched with items := fetched.items.take most }

end QueryOutcome

namespace Repository

variable {σ α : Type}

/-! ## Making repositories -/

/-- The repository of a document type, with a policy. -/
def openWith (store : Store σ) (typeName : String) (policy : Retry.Policy) :
    Action (Session σ) Repository := do
  let placement ← Action.ofExcept (Catalog.locate typeName)
  let handle ← Connection.container store placement.container
  let serial ← Action.read Session.repositoriesMade
  let settings ← Action.read Session.settings
  Action.change fun session => { session with repositoriesMade := serial + 1 }
  return { typeName, placement, handle, policy, pageSize := settings.pageSize, serial }

/-- The repository of a document type, with the policy that the settings ask for. -/
def openDefault (store : Store σ) (typeName : String) : Action (Session σ) Repository := do
  openWith store typeName (.ofSettings (← Action.read Session.settings))

/-! ## Single documents -/

/-- The largest size of a document that a store takes, in bytes: two mebibytes. -/
def maxDocumentSize : Nat := 2 * 1024 * 1024

/-- The failure of storing a document under a key that it does not carry. -/
def keyMismatch (repository : Repository) (document : Document) (key : PartitionKey) : Failure :=
  .validation (repository.typeName ++ " '" ++ document.id ++ "' does not carry partition key '" ++
    key.text ++ "' at " ++ repository.placement.partitionPath)

/-- The failure of storing a document that is too large. -/
def tooLarge (repository : Repository) (document : Document) (size : Nat) : Failure :=
  .payloadTooLarge (repository.typeName ++ " '" ++ document.id ++ "' is " ++ Text.natText size ++
    " bytes, the limit is " ++ Text.natText maxDocumentSize)

/-- A document can be stored under a key if its id is not blank, it carries the key, and it is
not too large. -/
def checkUpsert (repository : Repository) (document : Document) (key : PartitionKey) :
    Except Failure Unit := do
  (document.checkWritable repository.typeName).mapError ModelError.toFailure
  if !key.isCarriedBy document.toJson repository.placement then
    throw (repository.keyMismatch document key)
  let size := document.toJson.size
  if maxDocumentSize < size then
    throw (repository.tooLarge document size)

/-- Makes a call of the container under the policy. -/
def call (repository : Repository) (operation : String) (request : Retry.Request)
    (call : String → Call σ α) : Action (Moment σ) α :=
  repository.policy.run operation request (call repository.handle.container)

/-- Reads the document that a store returned. -/
def decode (response : ItemResponse) : Action (Moment σ) Document :=
  Action.ofExcept (Document.decode response.resource)

/-- Stores a document under its id, in place of one that has the id already; returns it as it is
stored. -/
def upsert (repository : Repository) (store : Store σ) (request : Retry.Request)
    (document : Document) (key : PartitionKey) : Action (Moment σ) Document := do
  Action.ofExcept (repository.checkUpsert document key)
  let response ← repository.call "upsert" request fun container =>
    store.upsertItem container key document.toJson
  decode response

/-- Turns the failure of a document that is not there into a value. -/
def whenMissing (value : α) (failure : Failure) : Option α :=
  if failure.isNotFound then some value else none

/-- Returns the document of an id, if it is there. -/
def get? (repository : Repository) (store : Store σ) (request : Retry.Request) (id : String)
    (key : PartitionKey) : Action (Moment σ) (Option Document) := do
  let read := repository.call "read" request fun container => store.readItem container id key
  match ← (some <$> read).recover (whenMissing none) with
  | some response => some <$> decode response
  | none => return none

/-- Is there a document of an id? -/
def contains (repository : Repository) (store : Store σ) (request : Retry.Request) (id : String)
    (key : PartitionKey) : Action (Moment σ) Bool :=
  Option.isSome <$> repository.get? store request id key

/-- Removes the document of an id; tells whether it was there. -/
def delete (repository : Repository) (store : Store σ) (request : Retry.Request) (id : String)
    (key : PartitionKey) : Action (Moment σ) Bool :=
  let removal := repository.call "delete" request fun container =>
    store.deleteItem container id key
  ((fun _ => true) <$> removal).recover (whenMissing false)

/-- Changes the document of an id; returns it as it is stored then. -/
def patch (repository : Repository) (store : Store σ) (request : Retry.Request) (id : String)
    (key : PartitionKey) (ops : List PatchOp) : Action (Moment σ) Document := do
  Action.ofExcept ((Patch.check ops).mapError PatchError.toFailure)
  let response ← repository.call "patch" request fun container =>
    store.patchItem container id key ops
  decode response

/-! ## Queries -/

/-- How many results the next page should hold at most: no more than a page, and no more than
are still wanted. -/
def nextPageSize (repository : Repository) (maxResults : Option Nat) (fetched : Nat) : Nat :=
  match maxResults with
  | none => repository.pageSize
  | some most => Nat.min repository.pageSize (most - fetched)

/-- Fetches pages after those that were fetched, until there is no other one or enough results
are there. The first argument bounds how many pages there are. -/
def fetchFrom (repository : Repository) (store : Store σ) (request : Retry.Request)
    (statement : Query.Statement) (key : Option PartitionKey) (maxResults : Option Nat) :
    Nat → QueryOutcome Json → Option String → Action (Moment σ) (QueryOutcome Json)
  | bound, fetched, continuation =>
    if maxResults.any (· ≤ fetched.items.length) then Action.succeed fetched
    else
      match bound with
      | 0 => Action.fail (.internal "the store returned more pages than it has")
      | bound + 1 => do
        let size := repository.nextPageSize maxResults fetched.items.length
        let options : QueryOptions := { key, maxItems := some size, continuation }
        let page ← repository.call "query" request fun container =>
          store.queryItems container statement options
        let fetched := fetched.addPage page
        match page.continuation with
        | none => Action.succeed fetched
        | some token =>
          fetchFrom repository store request statement key maxResults bound fetched (some token)

/-- Fetches the results of a query, at most as many as are wanted. -/
def fetch (repository : Repository) (store : Store σ) (request : Retry.Request)
    (statement : Query.Statement) (key : Option PartitionKey) (maxResults : Option Nat) :
    Action (Moment σ) (QueryOutcome Json) := do
  let bound ← Action.read fun moment =>
    store.pageBound repository.handle.container moment.store
  let fetched ← repository.fetchFrom store request statement key maxResults bound .empty none
  return fetched.limit maxResults

/-- Fetches the results of a query as documents. -/
def fetchDocuments (repository : Repository) (store : Store σ) (request : Retry.Request)
    (statement : Query.Statement) (key : Option PartitionKey) (maxResults : Option Nat) :
    Action (Moment σ) (QueryOutcome Document) := do
  let fetched ← repository.fetch store request statement key maxResults
  let items ← Action.ofExcept (fetched.items.mapM Document.decode)
  return { items, charge := fetched.charge, pages := fetched.pages }

/-- The smaller of two bounds, either of which may be missing. -/
def smallerBound : Option Nat → Option Nat → Option Nat
  | some a, some b => some (Nat.min a b)
  | some a, none => some a
  | none, b => b

/-- The results of a plan, and what they cost. -/
def queryWithMetrics (repository : Repository) (store : Store σ) (request : Retry.Request)
    (plan : Query.Plan) (maxResults : Option Nat) : Action (Moment σ) (QueryOutcome Document) := do
  let statement ← Action.ofExcept
    ((Query.compilePlan repository.pageSize plan).mapError Query.CompileError.toFailure)
  repository.fetchDocuments store request statement plan.partition
    (smallerBound maxResults plan.take)

/-- The results of a plan. -/
def query (repository : Repository) (store : Store σ) (request : Retry.Request)
    (plan : Query.Plan) (maxResults : Option Nat) : Action (Moment σ) (List Document) :=
  QueryOutcome.items <$> repository.queryWithMetrics store request plan maxResults

/-- The documents that satisfy a predicate, in one partition or in all. -/
def queryByPredicate (repository : Repository) (store : Store σ) (request : Retry.Request)
    (predicate : Query.Expr) (key : Option PartitionKey) (maxResults : Option Nat) :
    Action (Moment σ) (List Document) :=
  repository.query store request { filter := some predicate, partition := key } maxResults

/-- The names of parameters start with an at-sign. -/
def checkParameters (statement : Query.Statement) : Except Failure Unit :=
  match statement.parameters.find? fun p => !Text.startsWith '@' p.name with
  | some p =>
    .error (.validation ("query parameter '" ++ p.name ++ "' must start with '@'"))
  | none => .ok ()

/-- The results of a statement, and what they cost. -/
def queryRawWithMetrics (repository : Repository) (store : Store σ) (request : Retry.Request)
    (statement : Query.Statement) (key : Option PartitionKey) (maxResults : Option Nat) :
    Action (Moment σ) (QueryOutcome Document) := do
  Action.ofExcept (checkParameters statement)
  repository.fetchDocuments store request statement key maxResults

/-- The results of a statement. -/
def queryRaw (repository : Repository) (store : Store σ) (request : Retry.Request)
    (statement : Query.Statement) (key : Option PartitionKey) (maxResults : Option Nat) :
    Action (Moment σ) (List Document) :=
  QueryOutcome.items <$> repository.queryRawWithMetrics store request statement key maxResults

/-- Adds up counts, which come in parts, after a sum that is known; all are words of 64 bits. -/
def addCounts : Nat → List Json → Except Failure Nat
  | sum, [] => .ok sum
  | sum, part :: parts =>
    match part.asWord64? with
    | none => .error (.internal ("count query returned " ++ part.compact))
    | some n =>
      if sum + n ≤ Word.max64 then addCounts (sum + n) parts else .error .overflow

/-- How many documents satisfy a predicate, in one partition or in all. -/
def count (repository : Repository) (store : Store σ) (request : Retry.Request)
    (predicate : Option Query.Expr) (key : Option PartitionKey) : Action (Moment σ) Nat := do
  let statement ← Action.ofExcept
    ((Query.compileCount predicate).mapError Query.CompileError.toFailure)
  let fetched ← repository.fetch store request statement key none
  Action.ofExcept (addCounts 0 fetched.items)

end Repository

end DocumentClient
