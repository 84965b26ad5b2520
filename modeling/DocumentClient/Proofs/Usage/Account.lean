import DocumentClient.UnitOfWork
import Mathlib.Data.List.Infix

/-!
# DocumentClient.Proofs.Usage.Account

**A connection in use by any number of units of work, and the account of it.** Units of work share
the connection; it hands out the handles of containers, and each unit of work opens repositories of
its own over them. What should be known of all that at any time is said here without looking at the
connection.

* `Command` is what a connection, or a unit of work over it, is asked to do, and `performAll`
  carries out commands, one after the other.
* Which containers were resolved and which repositories were opened can be read off the commands
  alone (`names`, `opened`); what the checks of the store found is read off their answers
  (`healths`). A `Tally` has all of that.
* `Answered` is what has to come of a command. It names handles and repositories by the place of
  their first time, so it does not depend on what else was done before.

The lists grow at the end and never lose anything: `note` adds what is not there already, and
`tallyOf_concat` says what one more command adds to a tally. Inductions over commands need no more
of it than that.
-/

namespace DocumentClient

open Store Retry

variable {σ : Type}

/-! ### Using a connection -/

/-- A connection in use, and the units of work over it. -/
structure Usage (σ : Type) where
  /-- The connection. -/
  session : Session σ
  /-- The units of work. -/
  units : Nat → UnitOfWork

namespace Usage

/-- What a connection, or a unit of work over it, is asked to do. -/
inductive Command where
  /-- To give the handle of a container. -/
  | container (name : String)
  /-- To give the handle of the container of a document type. -/
  | containerFor (typeName : String)
  /-- To give the repository that a unit of work has for a document type. -/
  | repository (unit : Nat) (typeName : String)
  /-- To execute a batch. -/
  | batch (unit : Nat) (request : Request) (operations : List Batch.Operation)
      (key : PartitionKey)
  /-- To check that the store is there. -/
  | check (timeout : Duration)
  /-- To give the statistics. -/
  | statistics
  /-- To dispose of the store. -/
  | dispose

/-- What comes of a command. -/
inductive Answer where
  | handle (outcome : Except Failure Handle)
  | repository (outcome : Except Failure Repository)
  | batch (outcome : Except Failure Batch.Result)
  | health (outcome : Except Failure Bool)
  | statistics (statistics : Connection.Statistics)
  | disposed

/-- Commands with what came of them. -/
abbrev History : Type := List (Command × Answer)

/-- Carries out a command. -/
def perform (store : Store σ) (command : Command) (usage : Usage σ) : Answer × Usage σ :=
  match command with
  | .container name =>
    let (outcome, session) := Connection.container store name usage.session
    (.handle outcome, { usage with session })
  | .containerFor typeName =>
    let (outcome, session) := Connection.containerFor store typeName usage.session
    (.handle outcome, { usage with session })
  | .repository unit typeName =>
    match (usage.units unit).repository store typeName usage.session with
    | (.ok (repository, work), session) =>
      (.repository (.ok repository), ⟨session, Function.update usage.units unit work⟩)
    | (.error failure, session) => (.repository (.error failure), { usage with session })
  | .batch unit request operations key =>
    let (outcome, session) :=
      (usage.units unit).executeBatch store request operations key usage.session
    (.batch outcome, { usage with session })
  | .check timeout =>
    let (outcome, session) := Connection.checkHealth store timeout usage.session
    (.health outcome, { usage with session })
  | .statistics => (.statistics usage.session.connection.statistics, usage)
  | .dispose => (.disposed, { usage with session := Connection.dispose store usage.session })

/-- Carries out commands, one after the other. -/
def performAll (store : Store σ) : List Command → Usage σ → History × Usage σ
  | [], usage => ([], usage)
  | command :: commands, usage =>
    let (answer, usage) := perform store command usage
    let (history, usage) := performAll store commands usage
    ((command, answer) :: history, usage)

/-! ### What the commands say -/

namespace Command

def isDispose : Command → Bool
  | .dispose => true
  | _ => false

def isCheck : Command → Bool
  | .check _ => true
  | _ => false

/-- The container that a command resolves, if nothing keeps it from that: the type must be in the
catalog, and the operations must make a batch. -/
def containerOf? : Command → Option String
  | .container name => some name
  | .containerFor typeName | .repository _ typeName =>
    (Catalog.find? typeName).map Placement.container
  | .batch _ _ operations key => (Batch.check operations key).toOption.map Placement.container
  | .check _ | .statistics | .dispose => none

/-- Is a command one that has to resolve a container? -/
def resolves : Command → Bool
  | .container _ | .containerFor _ | .repository _ _ | .batch _ _ _ _ => true
  | .check _ | .statistics | .dispose => false

/-- The repository that a command opens, if its type is in the catalog. -/
def opens? : Command → Option (Nat × String)
  | .repository unit typeName => (Catalog.find? typeName).map fun _ => (unit, typeName)
  | _ => none

end Command

/-- Was the connection disposed of? -/
def disposed (commands : List Command) : Bool :=
  commands.any Command.isDispose

/-- The commands before the connection was disposed of. -/
def live (commands : List Command) : List Command :=
  commands.takeWhile fun command => !command.isDispose

/-- The names of the containers that were resolved, each as often as it was. -/
def resolved (commands : List Command) : List String :=
  (live commands).filterMap Command.containerOf?

/-- The names of the containers that were resolved, in the order of their first time. -/
def names (commands : List Command) : List String :=
  (resolved commands).eraseDups

/-- The repositories that were opened, in the order of their first time. -/
def opened (commands : List Command) : List (Nat × String) :=
  ((live commands).filterMap Command.opens?).eraseDups

/-- What a check of the store found. -/
def Answer.health? : Answer → Option (Except Failure Bool)
  | .health outcome => some outcome
  | _ => none

/-- What the checks of the store found, in order. -/
def healths (history : History) : List (Except Failure Bool) :=
  history.filterMap fun entry => entry.2.health?

/-- Did a check find that the store is there? -/
def isThere : Except Failure Bool → Bool
  | .ok there => there
  | .error _ => false

/-- The handle of a container, of those that were resolved. -/
def handleFor (names : List String) (name : String) : Handle :=
  ⟨name, names.idxOf name⟩

/-- The repository that a unit of work has for a document type. -/
def repositoryFor (settings : Settings) (names : List String) (opened : List (Nat × String))
    (unit : Nat) (typeName : String) : Repository :=
  let placement := (Catalog.find? typeName).getD ⟨"", ""⟩
  { typeName, placement
    handle := handleFor names placement.container
    policy := .ofSettings settings
    pageSize := settings.pageSize
    serial := opened.idxOf (unit, typeName) }

/-! ### What is kept account of -/

/-- What a connection keeps account of. -/
structure Tally where
  /-- The containers that were resolved, in the order of their first time. -/
  names : List String
  /-- The repositories that were opened, in the order of their first time. -/
  opened : List (Nat × String)
  /-- Was the connection disposed of? -/
  disposed : Bool
  /-- What the checks of the store found. -/
  found : List (Except Failure Bool)

/-- What a history comes to. -/
def tallyOf (history : History) : Tally :=
  let commands := history.map Prod.fst
  ⟨names commands, opened commands, disposed commands, healths history⟩

/-- Adds what there is, unless it is there already. -/
def note {α : Type} [BEq α] [LawfulBEq α] (known : List α) : Option α → List α
  | none => known
  | some new => if new ∈ known then known else known ++ [new]

/-- What a command adds to the account. -/
def Tally.after (tally : Tally) (command : Command) (answer : Answer) : Tally where
  names := note tally.names (if tally.disposed then none else command.containerOf?)
  opened := note tally.opened (if tally.disposed then none else command.opens?)
  disposed := tally.disposed || command.isDispose
  found := tally.found ++ answer.health?.toList

/-! ### What has to come of a command -/

/-- Statistics tell an account. -/
structure Tells (settings : Settings) (tally : Tally) (statistics : Connection.Statistics) :
    Prop where
  endpoint : statistics.endpoint = settings.endpoint
  database : statistics.database = settings.databaseName
  mode : statistics.mode = settings.mode
  maxConnections : statistics.maxConnections = settings.maxConnections
  references : statistics.containerReferences = if tally.disposed then 0 else tally.names.length
  checks : statistics.healthChecks = tally.found.length
  latest : statistics.lastHealthCheck.map HealthCheck.healthy = tally.found.getLast?.map isThere

/-- What a resolution gives, which fails once the connection was disposed of. -/
def unlessClosed {α : Type} (closed : Bool) (value : α) : Except Failure α :=
  if closed then .error Connection.disposedFailure else .ok value

/-- What has to come of a command: which handle a container has, and which repository a unit of
work has for a type, does not depend on what was done before, only whether there is one does. -/
def Answered (settings : Settings) (handles : String → Handle)
    (repositories : Nat → String → Repository) (before : Tally) : Command → Answer → Prop
  | .container name, .handle outcome => outcome = unlessClosed before.disposed (handles name)
  | .containerFor typeName, .handle outcome =>
    outcome = (Catalog.locate typeName).bind fun placement =>
      unlessClosed before.disposed (handles placement.container)
  | .repository unit typeName, .repository outcome =>
    outcome =
      if (unit, typeName) ∈ before.opened then .ok (repositories unit typeName)
      else (Catalog.locate typeName).bind fun _ =>
        unlessClosed before.disposed (repositories unit typeName)
  | .batch _ _ operations key, .batch outcome =>
    -- a batch that is submitted may end in any way
    ∀ failure, ((Batch.check operations key).mapError Batch.Error.toFailure).bind
      (fun _ => unlessClosed before.disposed ()) = .error failure → outcome = .error failure
  | .check _, .health _ => True
  | .statistics, .statistics statistics => Tells settings before statistics
  | .dispose, .disposed => True
  | _, _ => False

/-! ### The account grows -/

section
variable {α : Type} [BEq α] [LawfulBEq α] {known : List α} {new : α}

@[simp] theorem note_none : note known none = known := rfl

theorem note_of_mem (h : new ∈ known) : note known (some new) = known := if_pos h

theorem note_of_not_mem (h : new ∉ known) : note known (some new) = known ++ [new] := if_neg h

theorem mem_note_self : new ∈ note known (some new) := by
  by_cases h : new ∈ known
  · rwa [note_of_mem h]
  · rw [note_of_not_mem h]
    exact List.mem_append_right known List.mem_cons_self

theorem prefix_note (known : List α) (new : Option α) : known <+: note known new := by
  cases new with
  | none => exact List.prefix_refl known
  | some new =>
      by_cases h : new ∈ known
      · rw [note_of_mem h]
      · rw [note_of_not_mem h]
        exact List.prefix_append known [new]

theorem idxOf_of_extends {all : List α} (h : known <+: all) (mem : new ∈ known) :
    all.idxOf new = known.idxOf new := by
  obtain ⟨rest, rfl⟩ := h
  exact List.idxOf_append_of_mem mem

theorem eraseDups_concat (all : List α) (new : α) :
    (all ++ [new]).eraseDups = note all.eraseDups (some new) := by
  rw [List.eraseDups_append]
  by_cases h : new ∈ all
  · rw [note_of_mem (List.mem_eraseDups.mpr h)]
    simp [List.removeAll, h]
  · rw [note_of_not_mem (mt List.mem_eraseDups.mp h)]
    simp [List.removeAll, h, List.eraseDups_cons]

theorem nodup_note (h : known.Nodup) (new : Option α) : (note known new).Nodup := by
  cases new with
  | none => exact h
  | some new =>
      by_cases mem : new ∈ known
      · rwa [note_of_mem mem]
      · rw [note_of_not_mem mem]
        exact List.nodup_append.mpr ⟨h, List.nodup_cons.mpr ⟨List.not_mem_nil, List.nodup_nil⟩, by
          rintro a ha b hb rfl
          exact mem (List.mem_singleton.mp hb ▸ ha)⟩

theorem nodup_eraseDups (all : List α) : all.eraseDups.Nodup := by
  induction all using List.reverseRecOn with
  | nil => simp
  | append_singleton all new ih =>
      rw [eraseDups_concat]
      exact nodup_note ih _

end

/-- Commands count as live up to the one that disposes. -/
theorem live_concat (commands : List Command) (command : Command) :
    live (commands ++ [command]) =
      if disposed commands || command.isDispose then live commands
      else live commands ++ [command] := by
  induction commands with
  | nil => cases h : command.isDispose <;> simp [live, disposed, h]
  | cons first rest ih =>
      cases h : first.isDispose with
      | true => simp [live, disposed, h]
      | false =>
          have kept : ∀ commands, live (first :: commands) = first :: live commands := by
            intro commands
            simp [live, h]
          have same : disposed (first :: rest) = disposed rest := by simp [disposed, h]
          rw [List.cons_append, kept, kept, same, ih]
          split
          · rfl
          · rfl

/-- What is read off the live commands grows by what is read off the next one. -/
theorem filterMap_live_concat {α : Type} [BEq α] [LawfulBEq α] {view : Command → Option α}
    (silent : view .dispose = none) (commands : List Command) (command : Command) :
    ((live (commands ++ [command])).filterMap view).eraseDups =
      note ((live commands).filterMap view).eraseDups
        (if disposed commands then none else view command) := by
  rw [live_concat]
  cases closed : disposed commands with
  | true => simp
  | false =>
      cases h : command.isDispose with
      | true =>
          cases command with
          | dispose => simp [silent]
          | _ => cases h
      | false =>
          simp only [Bool.or_self, Bool.false_eq_true, if_false, List.filterMap_append]
          cases said : view command with
          | none => simp [said]
          | some new => simp [said, eraseDups_concat]

/-- What a history comes to grows by what its last command adds. -/
theorem tallyOf_concat (history : History) (command : Command) (answer : Answer) :
    tallyOf (history ++ [(command, answer)]) = (tallyOf history).after command answer := by
  have names_eq := @filterMap_live_concat _ _ _ Command.containerOf? rfl
    (history.map Prod.fst) command
  have opened_eq := @filterMap_live_concat _ _ _ Command.opens? rfl
    (history.map Prod.fst) command
  have disposed_eq : disposed (history.map Prod.fst ++ [command]) =
      (disposed (history.map Prod.fst) || command.isDispose) := by simp [disposed]
  simp only [tallyOf, Tally.after, names, resolved, opened, List.map_append, List.map_cons,
    List.map_nil, names_eq, opened_eq, disposed_eq, healths, List.filterMap_append,
    List.filterMap_cons, List.filterMap_nil]
  cases answer <;> rfl

end Usage

end DocumentClient
