import DocumentClient.Store.Memory

/-!
# DocumentClient.Store.Scripted

**A store in memory that can be told how to behave**, and that notes every call it gets. Each call
takes the next entry of a script: it waits as long as the entry says, and then fails, or gives the
answer of the entry, or the answer of the store in memory.

* What an `Entry` says that does not fit the call does not count, so one entry can be made without
  knowing which call will take it. The entry without anything is served by the store in memory at
  once; so is every call after the end of the script.
* A call that nobody waits for any more has used up its entry, and is noted, but has no effect on
  what is stored.
* `Noted` calls have the instant at which they reached the store, so that waits can be read off.
-/

namespace DocumentClient

namespace Scripted

/-- How to serve one call. What does not fit the call does not count. -/
structure Entry where
  /-- After how many milliseconds the answer arrives. -/
  delay : Nat := 0
  /-- The failure to answer with. -/
  failure : Option Failure := none
  /-- The answer to reading, storing and changing a document; its charge also answers removal. -/
  item : Option ItemResponse := none
  /-- The answer to a query. -/
  page : Option QueryPage := none
  /-- The answer to a batch. -/
  batch : Option Batch.Response := none
  /-- The answer to a creation. -/
  created : Option Bool := none
  deriving Repr, Inhabited

/-- What was asked in a call. -/
inductive Asked where
  | readDatabase (database : String)
  | createDatabase (database : String) (autoscale : Option Nat)
  | createContainer (database : String) (definition : ContainerDefinition)
  | openContainer (database container : String)
  | dispose
  | readItem (container id : String) (key : PartitionKey)
  | upsertItem (container : String) (key : PartitionKey) (document : Json)
  | deleteItem (container id : String) (key : PartitionKey)
  | patchItem (container id : String) (key : PartitionKey) (ops : List PatchOp)
  | queryItems (container : String) (statement : Query.Statement) (options : QueryOptions)
  | executeBatch (container : String) (key : PartitionKey) (operations : List Batch.Operation)
  deriving Repr, Inhabited

/-- A call that reached the store. -/
structure Noted where
  /-- The instant of the call. -/
  instant : Nat
  /-- What was asked. -/
  asked : Asked
  deriving Repr, Inhabited

end Scripted

/-- A store in memory with a script and notes. -/
structure Scripted where
  /-- The store that answers when the script says nothing. -/
  memory : Memory := {}
  /-- How to serve the next calls. -/
  script : List Scripted.Entry := []
  /-- The calls so far, the last one first. -/
  notes : List Scripted.Noted := []
  deriving Repr, Inhabited

namespace Scripted

open Store

/-- Notes a call. -/
def note (scripted : Scripted) (instant : Nat) (asked : Asked) : Scripted :=
  { scripted with notes := ⟨instant, asked⟩ :: scripted.notes }

/-- Serves a call by the next entry of the script; `given` is the answer in an entry that fits
the call. -/
def serve {α : Type} (asked : Asked) (given : Entry → Option α) (otherwise : Call Memory α) :
    Call Scripted α :=
  fun now scripted =>
    let entry := scripted.script.headD {}
    let waiting := { scripted.note now asked with script := scripted.script.tail }
    let reply := otherwise (now + entry.delay) scripted.memory
    match entry.failure, given entry with
    | some failure, _ =>
      { after := some entry.delay, outcome := .error failure, settled := waiting,
        dropped := waiting }
    | none, some value =>
      { after := some entry.delay, outcome := .ok value, settled := waiting, dropped := waiting }
    | none, none =>
      { after := reply.after.map (entry.delay + ·), outcome := reply.outcome,
        settled := { waiting with memory := reply.settled }, dropped := waiting }

/-- The store with a script. -/
def store : Store Scripted where
  readDatabase database :=
    serve (.readDatabase database) (fun _ => none) (Memory.store.readDatabase database)
  createDatabase database autoscale :=
    serve (.createDatabase database autoscale) Entry.created
      (Memory.store.createDatabase database autoscale)
  createContainer database definition :=
    serve (.createContainer database definition) Entry.created
      (Memory.store.createContainer database definition)
  openContainer database name now scripted :=
    { scripted.note now (.openContainer database name) with
      memory := Memory.store.openContainer database name now scripted.memory }
  dispose now scripted :=
    { scripted.note now .dispose with memory := Memory.store.dispose now scripted.memory }
  readItem name id key :=
    serve (.readItem name id key) Entry.item (Memory.store.readItem name id key)
  upsertItem name key document :=
    serve (.upsertItem name key document) Entry.item (Memory.store.upsertItem name key document)
  deleteItem name id key :=
    serve (.deleteItem name id key) (fun entry => entry.item.map ItemResponse.charge)
      (Memory.store.deleteItem name id key)
  patchItem name id key ops :=
    serve (.patchItem name id key ops) Entry.item (Memory.store.patchItem name id key ops)
  queryItems name statement options :=
    serve (.queryItems name statement options) Entry.page
      (Memory.store.queryItems name statement options)
  executeBatch name key operations :=
    serve (.executeBatch name key operations) Entry.batch
      (Memory.store.executeBatch name key operations)
  pageBound name scripted := scripted.script.length + Memory.store.pageBound name scripted.memory

end Scripted

end DocumentClient
