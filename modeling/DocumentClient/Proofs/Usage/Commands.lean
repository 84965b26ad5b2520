import DocumentClient.Proofs.Batch.Execution
import DocumentClient.Proofs.Keyed
import DocumentClient.Proofs.Retry.Attempts
import DocumentClient.Proofs.Usage.Account

/-!
# DocumentClient.Proofs.Usage.Commands

**One command keeps the account of a connection.** `Keeps` says that the connection and its store
agree with the containers that were resolved; `Kept` adds the units of work and the checks of the
store. A command is `Carried` out if the account is kept, what came of it is right, and a resolution
that failed changed nothing.

* `Noting` is a store that notes in a book what happens to it besides calls: containers are made
  ready, and it is disposed of. Nothing else is assumed of it.
* `Kept.carried` says of every command that it is carried out.

## Proof shape

* Every command that resolves a container does it in one way, so `Keeps.container` is the step
  that all of them share; `Kept.resolve` is the same with repositories and checks around it.
* There is one lemma for each command and each way that it can go, such as
  `Kept.repository_again`, `Kept.repository_opened` and `Kept.repository_refused`; which way it is
  depends only on the account, not on the store.
* Where a command changes nothing, `after_of_closed` and `after_of_known` say that the account
  does not change either: the connection was disposed of, or what is resolved is known already.
-/

namespace DocumentClient

open Store Retry

variable {σ : Type}

namespace Usage

/-! ### Stores that note what happens to them -/

/-- What a connection does to its store besides calls. -/
inductive Event where
  /-- It prepares for calls of a container. -/
  | opened (database container : String)
  /-- It disposes of the store. -/
  | disposed
  deriving DecidableEq

/-- A store notes in a book what a connection does to it besides calls. -/
structure Noting (store : Store σ) (book : σ → List Event) : Prop where
  opened : ∀ database name now state,
    book (store.openContainer database name now state) = book state ++ [.opened database name]
  disposed : ∀ now state, book (store.dispose now state) = book state ++ [.disposed]
  /-- Calls are not noted, whether their answers are waited for or not. -/
  checked : ∀ database now state,
    book (store.readDatabase database now state).settled = book state ∧
      book (store.readDatabase database now state).dropped = book state
  executed : ∀ name key operations now state,
    book (store.executeBatch name key operations now state).settled = book state ∧
      book (store.executeBatch name key operations now state).dropped = book state

/-! ### The connection agrees with the account -/

/-- A connection and its store agree with the names of the containers that were resolved. -/
structure Keeps (book : σ → List Event) (begun : List Event) (settings : Settings)
    (names : List String) (closed : Bool) (session : Session σ) : Prop where
  settled : session.connection.settings = settings
  disposed : session.connection.disposed = closed
  find : closed = false → ∀ name, Keyed.find? name session.connection.handles =
    if name ∈ names then some (handleFor names name) else none
  length : closed = false → session.connection.handles.length = names.length
  made : session.connection.handlesMade = names.length
  counted : session.connection.containerReferences = if closed then 0 else names.length
  noted : book session.moment.store = begun ++ names.map (.opened settings.databaseName) ++
    if closed then [.disposed] else []

/-- Nothing but handles was added. -/
structure OnlyHandles (session session' : Session σ) : Prop where
  checks : session'.connection.healthChecks = session.connection.healthChecks
  last : session'.connection.lastHealthCheck = session.connection.lastHealthCheck
  made : session'.repositoriesMade = session.repositoriesMade

section
variable {store : Store σ} {book : σ → List Event} {begun : List Event} {settings : Settings}
  {names all : List String} {session session' : Session σ}

theorem handleFor_of_extends {name : String} (h : names <+: all) (mem : name ∈ names) :
    handleFor all name = handleFor names name :=
  congrArg (Handle.mk name) (idxOf_of_extends h mem)

/-- **Every resolution goes this way**: the handle is the one of the container's first time, and
the store is prepared for calls of the container only then. -/
theorem Keeps.container (noting : Noting store book)
    (keeps : Keeps book begun settings names false session) (name : String) :
    ∃ session', Connection.container store name session =
        (.ok (handleFor (note names (some name)) name), session') ∧
      Keeps book begun settings (note names (some name)) false session' ∧
      OnlyHandles session session' := by
  have opens := Connection.container_opens store name session
  generalize Connection.container store name session = ended at opens
  cases opens with
  | refused closed =>
      rw [keeps.disposed] at closed
      cases closed
  -- a handle that is found was made at the first time, so that nothing changes
  | known live found =>
      rw [keeps.find rfl] at found
      have mem : name ∈ names := by
        by_contra absent
        rw [if_neg absent] at found
        cases found
      rw [if_pos mem] at found
      cases found
      rw [note_of_mem mem]
      exact ⟨session, rfl, keeps, rfl, rfl, rfl⟩
  -- a new handle has the number of handles before, which is its place in the order of first times
  | made live found =>
      have absent : name ∉ names := by
        intro mem
        rw [keeps.find rfl, if_pos mem] at found
        cases found
      have new : handleFor (names ++ [name]) name = ⟨name, session.connection.handlesMade⟩ := by
        rw [keeps.made, handleFor, List.idxOf_append_of_notMem absent]
        simp
      rw [note_of_not_mem absent, new]
      refine ⟨_, rfl, ?_, rfl, rfl, rfl⟩
      constructor
      case settled => exact keeps.settled
      case disposed => exact keeps.disposed
      case find =>
        intro _ other
        simp only [Connection.addHandle, Keyed.find?_concat, keeps.find rfl other]
        by_cases known : other ∈ names
        · simp [known, handleFor_of_extends (List.prefix_append names [name]) known]
        · by_cases same : other = name
          · subst same
            simp [absent, new]
          · simp [known, same]
      case length => simp [Connection.addHandle, keeps.length rfl]
      case made => simp [Connection.addHandle, keeps.made]
      case counted => simp [Connection.addHandle, keeps.length rfl]
      case noted =>
        simp [noting.opened, keeps.noted, keeps.settled]

theorem Keeps.container_closed (keeps : Keeps book begun settings names true session)
    (name : String) : Connection.container store name session =
      (.error Connection.disposedFailure, session) :=
  if_pos keeps.disposed

theorem Keeps.moment {closed : Bool} (keeps : Keeps book begun settings names closed session)
    {moment : Moment σ} (same : book moment.store = book session.moment.store) :
    Keeps book begun settings names closed { session with moment } :=
  { keeps with noted := same.trans keeps.noted }

end

/-! ### The repositories agree with the account -/

/-- A connection, its store and the units of work over it agree with an account. -/
structure Kept (book : σ → List Event) (begun : List Event) (settings : Settings) (tally : Tally)
    (usage : Usage σ) : Prop where
  keeps : Keeps book begun settings tally.names tally.disposed usage.session
  repositories : ∀ unit typeName, Keyed.find? typeName (usage.units unit).repositories =
    if (unit, typeName) ∈ tally.opened then
      some (repositoryFor settings tally.names tally.opened unit typeName)
    else none
  made : usage.session.repositoriesMade = tally.opened.length
  /-- The container of a repository was resolved when that was opened. -/
  known : ∀ unit typeName, (unit, typeName) ∈ tally.opened →
    ∃ placement, Catalog.find? typeName = some placement ∧ placement.container ∈ tally.names
  checks : usage.session.connection.healthChecks = tally.found.length
  latest : usage.session.connection.lastHealthCheck.map HealthCheck.healthy =
    tally.found.getLast?.map isThere

section
variable {store : Store σ} {book : σ → List Event} {begun : List Event} {settings : Settings}
  {tally : Tally} {usage : Usage σ} {session' : Session σ}

theorem repositoryFor_of_extends {names all : List String} {opened opened' : List (Nat × String)}
    {unit : Nat} {typeName : String} {placement : Placement} (more : names <+: all)
    (more' : opened <+: opened') (mem : (unit, typeName) ∈ opened)
    (found : Catalog.find? typeName = some placement) (known : placement.container ∈ names) :
    repositoryFor settings all opened' unit typeName =
      repositoryFor settings names opened unit typeName := by
  simp only [repositoryFor, found, Option.getD_some, handleFor_of_extends more known,
    idxOf_of_extends more' mem]

/-- A resolution leaves repositories and checks as they are. -/
theorem Kept.resolve (kept : Kept book begun settings tally usage) {name : String}
    (keeps : Keeps book begun settings (note tally.names (some name)) tally.disposed session')
    (only : OnlyHandles usage.session session') :
    Kept book begun settings { tally with names := note tally.names (some name) }
      { usage with session := session' } where
  keeps := keeps
  repositories unit typeName := by
    rw [kept.repositories unit typeName]
    by_cases mem : (unit, typeName) ∈ tally.opened
    · obtain ⟨placement, found, known⟩ := kept.known unit typeName mem
      rw [if_pos mem, if_pos mem, repositoryFor_of_extends (prefix_note tally.names (some name))
        (List.prefix_refl _) mem found known]
    · rw [if_neg mem, if_neg mem]
  made := only.made.trans kept.made
  known unit typeName mem := by
    obtain ⟨placement, found, known⟩ := kept.known unit typeName mem
    exact ⟨placement, found, (prefix_note tally.names (some name)).subset known⟩
  checks := only.checks.trans kept.checks
  latest := by rw [← kept.latest, ← only.last]

/-- A unit of work opens a repository over a container that was resolved. -/
theorem Kept.openRepository (kept : Kept book begun settings tally usage) {unit : Nat}
    {typeName : String} {placement : Placement}
    (found : Catalog.find? typeName = some placement) (known : placement.container ∈ tally.names)
    (new : (unit, typeName) ∉ tally.opened) :
    Kept book begun settings { tally with opened := note tally.opened (some (unit, typeName)) }
      ⟨{ usage.session with repositoriesMade := usage.session.repositoriesMade + 1 },
        Function.update usage.units unit ((usage.units unit).add (repositoryFor settings tally.names
          (note tally.opened (some (unit, typeName))) unit typeName))⟩ where
  keeps := { kept.keeps with }
  repositories other typeName' := by
    have grown := prefix_note tally.opened (some (unit, typeName))
    -- the new repository is looked for, or one of those before, whose place stays
    by_cases here : (other, typeName') = (unit, typeName)
    · obtain ⟨rfl, rfl⟩ := Prod.mk.inj here
      have absent := kept.repositories other typeName'
      rw [if_neg new] at absent
      simp [UnitOfWork.add, Keyed.find?_concat, absent, mem_note_self, repositoryFor]
    · have same : Keyed.find? typeName' (Function.update usage.units unit
          ((usage.units unit).add (repositoryFor settings tally.names
            (note tally.opened (some (unit, typeName))) unit typeName)) other).repositories =
          Keyed.find? typeName' (usage.units other).repositories := by
        by_cases unit_eq : other = unit
        · have different : typeName' ≠ typeName := fun h => here (by rw [unit_eq, h])
          subst unit_eq
          simp [UnitOfWork.add, Keyed.find?_concat, repositoryFor, different]
        · rw [Function.update_of_ne unit_eq]
      have mem_iff : (other, typeName') ∈ note tally.opened (some (unit, typeName)) ↔
          (other, typeName') ∈ tally.opened := by
        rw [note_of_not_mem new]
        simp only [List.mem_append, List.mem_singleton, here, or_false]
      rw [same, kept.repositories other typeName']
      by_cases mem : (other, typeName') ∈ tally.opened
      · obtain ⟨placement', found', known'⟩ := kept.known other typeName' mem
        rw [if_pos mem, if_pos (mem_iff.mpr mem),
          repositoryFor_of_extends (List.prefix_refl _) grown mem found' known']
      · rw [if_neg mem, if_neg (mt mem_iff.mp mem)]
  made := by
    rw [note_of_not_mem new]
    simp [kept.made]
  known other typeName' mem := by
    rw [note_of_not_mem new] at mem
    rcases List.mem_append.mp mem with mem | mem
    · exact kept.known other typeName' mem
    · obtain ⟨rfl, rfl⟩ := Prod.mk.inj (List.mem_singleton.mp mem)
      exact ⟨placement, found, known⟩
  checks := kept.checks
  latest := kept.latest

end

/-! ### What a command does -/

/-- A command was carried out: the account is kept, what came of the command is right, and a
resolution that failed changed nothing. -/
structure Carried (book : σ → List Event) (begun : List Event) (settings : Settings)
    (tally : Tally) (command : Command) (usage : Usage σ) (ended : Answer × Usage σ) : Prop where
  kept : Kept book begun settings (tally.after command ended.1) ended.2
  answered : Answered settings (handleFor (tally.after command ended.1).names)
    (repositoryFor settings (tally.after command ended.1).names
      (tally.after command ended.1).opened) tally command ended.1
  unchanged : command.resolves = true → command.containerOf? = none ∨ tally.disposed = true →
    ended.2 = usage

section
variable {tally : Tally} {command : Command} {answer : Answer}

theorem after_of_closed (closed : tally.disposed = true) (quiet : answer.health? = none) :
    tally.after command answer = tally := by
  simp only [Tally.after, closed, quiet, Bool.true_or, if_true, note_none, Option.toList_none,
    List.append_nil]
  rw [← closed]

theorem after_of_live (live : tally.disposed = false) (quiet : answer.health? = none)
    (stays : command.isDispose = false) :
    tally.after command answer =
      { tally with
        names := note tally.names command.containerOf?
        opened := note tally.opened command.opens? } := by
  simp only [Tally.after, live, quiet, stays, Bool.or_self, Bool.false_eq_true, if_false,
    Option.toList_none, List.append_nil]

theorem after_of_known (quiet : answer.health? = none) (stays : command.isDispose = false)
    (resolved : note tally.names command.containerOf? = tally.names)
    (opened : note tally.opened command.opens? = tally.opened) :
    tally.after command answer = tally := by
  cases closed : tally.disposed with
  | true => exact after_of_closed closed quiet
  | false => rw [after_of_live closed quiet stays, resolved, opened]

end

/-! ### Types of the catalog -/

section
variable {store : Store σ} {session : Session σ} {typeName : String} {placement : Placement}

theorem locate_of_found (h : Catalog.find? typeName = some placement) :
    Catalog.locate typeName = .ok placement := by
  simp [Catalog.locate, Catalog.placement, h, Except.mapError]

theorem locate_of_missing (h : Catalog.find? typeName = none) :
    ∃ failure, Catalog.locate typeName = .error failure := by
  simp [Catalog.locate, Catalog.placement, h, Except.mapError]

theorem containerFor_of_located (located : Catalog.locate typeName = .ok placement) :
    Connection.containerFor store typeName session =
      Connection.container store placement.container session :=
  Action.bind_apply_of_ok (by rw [located, Action.ofExcept_apply])

theorem containerFor_of_missing {failure : Failure}
    (missing : Catalog.locate typeName = .error failure) :
    Connection.containerFor store typeName session = (.error failure, session) :=
  Action.bind_apply_of_error (by rw [missing, Action.ofExcept_apply])

end

/-! ### One command -/

section
variable {store : Store σ} {book : σ → List Event} {begun : List Event} {settings : Settings}
  {tally : Tally} {usage : Usage σ}

/-- A container is resolved. -/
theorem Kept.container (noting : Noting store book) (kept : Kept book begun settings tally usage)
    (name : String) :
    Carried book begun settings tally (.container name) usage
      (perform store (.container name) usage) := by
  have keeps := kept.keeps
  cases closed : tally.disposed with
  | true =>
      rw [closed] at keeps
      rw [show perform store (.container name) usage =
        (.handle (.error Connection.disposedFailure), usage) by
          simp [perform, keeps.container_closed]]
      constructor
      case kept => rwa [after_of_closed closed rfl]
      case answered => simp [Answered, unlessClosed, closed]
      case unchanged => exact fun _ _ => rfl
  | false =>
      rw [closed] at keeps
      obtain ⟨session', resolved, keeps', only⟩ := keeps.container noting name
      rw [show perform store (.container name) usage =
        (.handle (.ok (handleFor (note tally.names (some name)) name)),
          { usage with session := session' }) by simp [perform, resolved]]
      constructor
      case kept =>
        rw [after_of_live closed rfl rfl]
        exact kept.resolve (closed ▸ keeps') only
      case answered =>
        rw [after_of_live closed rfl rfl]
        simp [Answered, unlessClosed, closed, Command.containerOf?]
      case unchanged =>
        intro _ failed
        simp [Command.containerOf?, closed] at failed

/-- The container of a document type is resolved as any other, if the type is in the catalog. -/
theorem Kept.containerFor (noting : Noting store book)
    (kept : Kept book begun settings tally usage) (typeName : String) :
    Carried book begun settings tally (.containerFor typeName) usage
      (perform store (.containerFor typeName) usage) := by
  cases found : Catalog.find? typeName with
  | none =>
      obtain ⟨failure, missing⟩ := locate_of_missing found
      have same : tally.after (.containerFor typeName) (.handle (.error failure)) = tally :=
        after_of_known rfl rfl (by simp [Command.containerOf?, found]) rfl
      rw [show perform store (.containerFor typeName) usage =
        (.handle (.error failure), usage) by simp [perform, containerFor_of_missing missing]]
      constructor
      case kept => rwa [same]
      case answered => simp [Answered, missing, Except.bind]
      case unchanged => exact fun _ _ => rfl
  | some placement =>
      have located := locate_of_found found
      -- the command is the one for the container of the type, word for word
      have resolves : perform store (.containerFor typeName) usage =
          perform store (.container placement.container) usage := by
        simp only [perform, containerFor_of_located located]
      have after_eq : ∀ answer, tally.after (.containerFor typeName) answer =
          tally.after (.container placement.container) answer := by
        intro answer
        simp [Tally.after, Command.containerOf?, Command.opens?, Command.isDispose, found]
      have carried := kept.container noting placement.container
      rw [resolves]
      generalize perform store (.container placement.container) usage = ended at carried ⊢
      obtain ⟨answer, usage'⟩ := ended
      constructor
      case kept =>
        rw [after_eq]
        exact carried.kept
      case answered =>
        have answered := carried.answered
        rw [after_eq]
        cases answer with
        | handle outcome => simpa [Answered, located, Except.bind] using answered
        | _ => exact answered
      case unchanged =>
        intro _ failed
        exact carried.unchanged rfl (by simpa [Command.containerOf?, found] using failed)

theorem openDefault_of_error {session : Session σ} {typeName : String} {failure : Failure}
    (unopened : Connection.containerFor store typeName session = (.error failure, session)) :
    Repository.openDefault store typeName session = (.error failure, session) := by
  change Repository.openWith store typeName (.ofSettings session.settings) session = _
  unfold Repository.openWith
  cases located : Catalog.locate typeName with
  | error missing =>
      rw [containerFor_of_missing located] at unopened
      cases unopened
      exact Action.bind_apply_of_error (Action.ofExcept_apply _ session)
  | ok placement =>
      rw [containerFor_of_located located] at unopened
      exact (Action.bind_apply_of_ok (Action.ofExcept_apply _ session)).trans
        (Action.bind_apply_of_error unopened)

theorem openDefault_of_opened {session session' : Session σ} {typeName : String}
    {placement : Placement} {handle : Handle} (located : Catalog.locate typeName = .ok placement)
    (opened : Connection.container store placement.container session = (.ok handle, session')) :
    Repository.openDefault store typeName session =
      (.ok { typeName, placement, handle
             policy := .ofSettings session.settings
             pageSize := session'.settings.pageSize
             serial := session'.repositoriesMade },
        { session' with repositoriesMade := session'.repositoriesMade + 1 }) := by
  change Repository.openWith store typeName (.ofSettings session.settings) session = _
  unfold Repository.openWith
  rw [located]
  exact (Action.bind_apply_of_ok (Action.ofExcept_apply _ session)).trans
    (Action.bind_apply_of_ok opened)

section
variable {unit : Nat} {typeName : String}

/-- A repository that was opened before is given again, also after the connection was disposed
of. -/
theorem Kept.repository_again (kept : Kept book begun settings tally usage)
    (mem : (unit, typeName) ∈ tally.opened) :
    Carried book begun settings tally (.repository unit typeName) usage
      (perform store (.repository unit typeName) usage) := by
  obtain ⟨placement, found, known⟩ := kept.known unit typeName mem
  have cached := kept.repositories unit typeName
  rw [if_pos mem] at cached
  have same : ∀ outcome, tally.after (.repository unit typeName) (.repository outcome) = tally := by
    intro outcome
    refine after_of_known rfl rfl ?_ ?_
    · simp [Command.containerOf?, found, note_of_mem known]
    · simp [Command.opens?, found, note_of_mem mem]
  have performed : perform store (.repository unit typeName) usage =
      (.repository (.ok (repositoryFor settings tally.names tally.opened unit typeName)),
        usage) := by
    simp [perform, UnitOfWork.repository, cached, Action.succeed]
  rw [performed]
  constructor
  case kept => rwa [same]
  case answered => simp [Answered, mem, same]
  case unchanged => exact fun _ _ => rfl

theorem Kept.repository_new (kept : Kept book begun settings tally usage)
    (new : (unit, typeName) ∉ tally.opened) :
    (usage.units unit).repository store typeName = (do
      let repository ← Repository.openDefault store typeName
      return (repository, (usage.units unit).add repository) :
        Action (Session σ) (Repository × UnitOfWork)) := by
  have uncached := kept.repositories unit typeName
  rw [if_neg new] at uncached
  simp only [UnitOfWork.repository, uncached]

/-- A repository whose container cannot be resolved is not opened. -/
theorem Kept.repository_refused (kept : Kept book begun settings tally usage)
    (new : (unit, typeName) ∉ tally.opened) {failure : Failure}
    (unresolved : Connection.containerFor store typeName usage.session =
      (.error failure, usage.session))
    (same : tally.after (.repository unit typeName) (.repository (.error failure)) = tally)
    (expected : ∀ repository : Repository,
      ((Catalog.locate typeName).bind fun _ => unlessClosed tally.disposed repository) =
        .error failure) :
    Carried book begun settings tally (.repository unit typeName) usage
      (perform store (.repository unit typeName) usage) := by
  have refused : (usage.units unit).repository store typeName usage.session =
      (.error failure, usage.session) := by
    rw [kept.repository_new new]
    exact Action.bind_apply_of_error (openDefault_of_error unresolved)
  have performed : perform store (.repository unit typeName) usage =
      (.repository (.error failure), usage) := by
    simp only [perform, refused]
  rw [performed]
  constructor
  case kept => rwa [same]
  case answered => simp [Answered, new, expected]
  case unchanged => exact fun _ _ => rfl

/-- A repository whose container can be resolved is opened. -/
theorem Kept.repository_opened (noting : Noting store book)
    (kept : Kept book begun settings tally usage) (new : (unit, typeName) ∉ tally.opened)
    {placement : Placement} (found : Catalog.find? typeName = some placement)
    (live : tally.disposed = false) :
    Carried book begun settings tally (.repository unit typeName) usage
      (perform store (.repository unit typeName) usage) := by
  have keeps := kept.keeps
  rw [live] at keeps
  obtain ⟨session', resolved, keeps', only⟩ := keeps.container noting placement.container
  generalize names_eq : note tally.names (some placement.container) = names at resolved keeps'
  generalize opened_eq : note tally.opened (some (unit, typeName)) = opened
  have serial : opened.idxOf (unit, typeName) = session'.repositoriesMade := by
    rw [← opened_eq, note_of_not_mem new, List.idxOf_append_of_notMem new, only.made, kept.made]
    simp
  have settled : usage.session.settings = settings := keeps.settled
  have settled' : session'.settings = settings := keeps'.settled
  have made : Repository.openDefault store typeName usage.session =
      (.ok (repositoryFor settings names opened unit typeName),
        { session' with repositoriesMade := session'.repositoriesMade + 1 }) := by
    rw [openDefault_of_opened (locate_of_found found) resolved, settled, settled']
    simp [repositoryFor, found, serial]
  have given : (usage.units unit).repository store typeName usage.session =
      (.ok (repositoryFor settings names opened unit typeName,
        (usage.units unit).add (repositoryFor settings names opened unit typeName)),
        { session' with repositoriesMade := session'.repositoriesMade + 1 }) := by
    rw [kept.repository_new new]
    exact Action.bind_apply_of_ok made
  have performed : perform store (.repository unit typeName) usage =
      (.repository (.ok (repositoryFor settings names opened unit typeName)),
        ⟨{ session' with repositoriesMade := session'.repositoriesMade + 1 },
          Function.update usage.units unit
            ((usage.units unit).add (repositoryFor settings names opened unit typeName))⟩) := by
    simp only [perform, given]
  have after_eq : ∀ outcome, tally.after (.repository unit typeName) (.repository outcome) =
      { tally with names, opened } := by
    intro outcome
    rw [after_of_live live rfl rfl, ← names_eq, ← opened_eq]
    simp [Command.containerOf?, Command.opens?, found]
  rw [performed]
  constructor
  case kept =>
    rw [after_eq]
    subst names_eq opened_eq
    exact (kept.resolve (live ▸ keeps') only).openRepository found mem_note_self new
  case answered =>
    rw [after_eq]
    simp [Answered, new, locate_of_found found, Except.bind, unlessClosed, live]
  case unchanged =>
    intro _ failed
    simp [Command.containerOf?, found, live] at failed

end

/-- A unit of work gives the repository that it has, or opens one. -/
theorem Kept.repository (noting : Noting store book)
    (kept : Kept book begun settings tally usage) (unit : Nat) (typeName : String) :
    Carried book begun settings tally (.repository unit typeName) usage
      (perform store (.repository unit typeName) usage) := by
  by_cases mem : (unit, typeName) ∈ tally.opened
  · exact kept.repository_again mem
  · cases found : Catalog.find? typeName with
    | none =>
        obtain ⟨failure, missing⟩ := locate_of_missing found
        refine kept.repository_refused mem (containerFor_of_missing missing) ?_
          (fun repository => by simp [missing, Except.bind])
        exact after_of_known rfl rfl (by simp [Command.containerOf?, found])
          (by simp [Command.opens?, found])
    | some placement =>
        cases closed : tally.disposed with
        | true =>
            have keeps := kept.keeps
            rw [closed] at keeps
            have unresolved : Connection.containerFor store typeName usage.session =
                (.error Connection.disposedFailure, usage.session) :=
              (containerFor_of_located (locate_of_found found)).trans (keeps.container_closed _)
            exact kept.repository_refused mem unresolved
              (after_of_closed closed rfl)
              (fun repository => by simp [locate_of_found found, Except.bind, unlessClosed, closed])
        | false => exact kept.repository_opened noting mem found closed

/-- A batch whose container can be resolved is submitted, whatever comes of it then. -/
theorem Kept.batch_submitted (noting : Noting store book)
    (kept : Kept book begun settings tally usage) (unit : Nat) (request : Request)
    {operations : List Batch.Operation} {key : PartitionKey} {placement : Placement}
    (checked : Batch.check operations key = .ok placement) (closed : tally.disposed = false) :
    Carried book begun settings tally (.batch unit request operations key) usage
      (perform store (.batch unit request operations key) usage) := by
  have keeps := kept.keeps
  rw [closed] at keeps
  obtain ⟨session', resolved, keeps', only⟩ :=
    keeps.container noting placement.container
  generalize ran : (usage.units unit).batchPolicy.run "batch" request
    (store.executeBatch (handleFor (note tally.names (some placement.container))
      placement.container).container key operations) session'.moment = ended
  -- no attempt at a batch is noted, whether its answer is waited for or not
  have unnoted : book ended.2.store = book session'.moment.store := by
    rw [← ran]
    exact Policy.run_store (fun state => book state = book session'.moment.store)
      (fun now state same => (noting.executed _ key operations now state).1.trans same)
      (fun now state same => (noting.executed _ key operations now state).2.trans same)
      _ _ _ _ rfl
  have performed : perform store (.batch unit request operations key) usage =
      (.batch (ended.1.map Batch.Result.ofResponse),
        { usage with session := { session' with moment := ended.2 } }) := by
    simp only [perform, UnitOfWork.executeBatch_of_opened checked resolved ran]
  have after_eq : ∀ outcome,
      tally.after (.batch unit request operations key) (.batch outcome) =
        { tally with names := note tally.names (some placement.container) } := by
    intro outcome
    rw [after_of_live closed rfl rfl]
    simp [Command.containerOf?, Command.opens?, checked, Except.toOption]
  rw [performed]
  constructor
  case kept =>
    rw [after_eq]
    exact kept.resolve (closed ▸ keeps'.moment unnoted) ⟨only.checks, only.last, only.made⟩
  case answered =>
    simp [Answered, checked, Except.mapError, Except.bind, unlessClosed, closed]
  case unchanged =>
    intro _ failed
    simp [Command.containerOf?, checked, Except.toOption, closed] at failed

/-- A batch that is refused, or whose container cannot be resolved, changes nothing; any other one
is submitted. -/
theorem Kept.batch (noting : Noting store book) (kept : Kept book begun settings tally usage)
    (unit : Nat) (request : Request) (operations : List Batch.Operation) (key : PartitionKey) :
    Carried book begun settings tally (.batch unit request operations key) usage
      (perform store (.batch unit request operations key) usage) := by
  have keeps := kept.keeps
  cases checked : Batch.check operations key with
  | error error =>
      have performed : perform store (.batch unit request operations key) usage =
          (.batch (.error error.toFailure), usage) := by
        simp only [perform, UnitOfWork.executeBatch_of_refused checked]
      rw [performed]
      have same : tally.after (.batch unit request operations key)
          (.batch (.error error.toFailure)) = tally :=
        after_of_known rfl rfl (by simp [Command.containerOf?, checked, Except.toOption]) rfl
      constructor
      case kept => rwa [same]
      case answered => simp [Answered, checked, Except.mapError, Except.bind]
      case unchanged => exact fun _ _ => rfl
  | ok placement =>
      cases closed : tally.disposed with
      | true =>
          rw [closed] at keeps
          have performed : perform store (.batch unit request operations key) usage =
              (.batch (.error Connection.disposedFailure), usage) := by
            simp only [perform, UnitOfWork.executeBatch_of_unopened checked
              (keeps.container_closed placement.container)]
          rw [performed]
          constructor
          case kept => rwa [after_of_closed closed rfl]
          case answered =>
            simp [Answered, checked, Except.mapError, Except.bind, unlessClosed, closed]
          case unchanged => exact fun _ _ => rfl
      | false => exact kept.batch_submitted noting unit request checked closed

theorem await_store {α : Type} (moment : Moment σ) (limit : Nat) (reply : Reply σ α) :
    (moment.await limit reply).2.store = reply.settled ∨
      (moment.await limit reply).2.store = reply.dropped := by
  unfold Moment.await
  split
  · exact .inl rfl
  · exact .inr rfl

/-- A check of the store is recorded as what was answered in time, or as a failure if nothing was,
and is not noted. -/
theorem checkHealth_unnoted (noting : Noting store book) (timeout : Duration)
    (session : Session σ) :
    ∃ answer moment, book moment.store = book session.moment.store ∧
      Connection.checkHealth store timeout session =
        (Connection.healthOf answer,
          { session with
            connection := session.connection.recordHealth (Connection.checkOf answer)
            moment }) := by
  generalize replied : store.readDatabase session.settings.databaseName session.moment.now
    session.moment.store = reply
  refine ⟨((session.moment.await timeout.ticks reply).1).getD
      (.error (Connection.checkTimedOut timeout)),
    (session.moment.await timeout.ticks reply).2, ?_, by rw [← replied]; rfl⟩
  have unnoted := noting.checked session.settings.databaseName session.moment.now
    session.moment.store
  rw [replied] at unnoted
  rcases await_store session.moment timeout.ticks reply with waited | given
  · rw [waited]
    exact unnoted.1
  · rw [given]
    exact unnoted.2

theorem healthy_checkOf (answer : Except Failure Unit) :
    (Connection.checkOf answer).healthy = isThere (Connection.healthOf answer) := by
  cases answer with
  | ok _ => rfl
  | error failure =>
      cases reported : failure.isStoreFailure <;>
        simp [Connection.checkOf, Connection.healthOf, reported, isThere]

/-- A check counts, and what it found is remembered. -/
theorem Kept.check (noting : Noting store book) (kept : Kept book begun settings tally usage)
    (timeout : Duration) :
    Carried book begun settings tally (.check timeout) usage
      (perform store (.check timeout) usage) := by
  obtain ⟨answer, moment, unnoted, checked⟩ := checkHealth_unnoted noting timeout usage.session
  have performed : perform store (.check timeout) usage =
      (.health (Connection.healthOf answer),
        { usage with
          session :=
            { usage.session with
              connection := usage.session.connection.recordHealth (Connection.checkOf answer)
              moment } }) := by
    simp only [perform, checked]
  have after_eq : tally.after (.check timeout) (.health (Connection.healthOf answer)) =
      { tally with found := tally.found ++ [Connection.healthOf answer] } := by
    simp [Tally.after, Command.containerOf?, Command.opens?, Command.isDispose, Answer.health?]
  rw [performed]
  constructor
  case kept =>
    rw [after_eq]
    exact {
      keeps := { kept.keeps.moment unnoted with }
      repositories := kept.repositories
      made := kept.made
      known := kept.known
      checks := by simp [Connection.recordHealth, kept.checks]
      latest := by simp [Connection.recordHealth, healthy_checkOf] }
  case answered => trivial
  case unchanged =>
    intro resolves
    cases resolves

/-- Statistics tell the account, which stays as it is. -/
theorem Kept.statistics (kept : Kept book begun settings tally usage) :
    Carried book begun settings tally .statistics usage (perform store .statistics usage) := by
  have same : tally.after .statistics (.statistics usage.session.connection.statistics) =
      tally := after_of_known rfl rfl rfl rfl
  constructor
  case kept =>
    change Kept book begun settings (tally.after .statistics
      (.statistics usage.session.connection.statistics)) usage
    rwa [same]
  case answered =>
    exact {
      endpoint := congrArg Settings.endpoint kept.keeps.settled
      database := congrArg Settings.databaseName kept.keeps.settled
      mode := congrArg Settings.mode kept.keeps.settled
      maxConnections := congrArg Settings.maxConnections kept.keeps.settled
      references := kept.keeps.counted
      checks := kept.checks
      latest := kept.latest }
  case unchanged =>
    intro resolves
    cases resolves

/-- The first disposal forgets the handles and disposes of the store; any other one does nothing. -/
theorem Kept.dispose (noting : Noting store book) (kept : Kept book begun settings tally usage) :
    Carried book begun settings tally .dispose usage (perform store .dispose usage) := by
  have keeps := kept.keeps
  cases closed : tally.disposed with
  | true =>
      rw [closed] at keeps
      have performed : perform store .dispose usage = (.disposed, usage) := by
        simp [perform, Connection.dispose, keeps.disposed]
      rw [performed]
      constructor
      case kept => rwa [after_of_closed closed rfl]
      case answered => trivial
      case unchanged => exact fun _ _ => rfl
  -- handles are forgotten, so that what `Keeps` says of them is void; their number is kept
  | false =>
      rw [closed] at keeps
      have after_eq : tally.after .dispose .disposed = { tally with disposed := true } := by
        simp [Tally.after, Command.containerOf?, Command.opens?, Command.isDispose,
          Answer.health?]
      have ended : (perform store .dispose usage).2.session =
          { usage.session with
            connection := { usage.session.connection with
              disposed := true, handles := [], containerReferences := 0, refreshTask := none }
            moment := { usage.session.moment with
              store := store.dispose usage.session.moment.now usage.session.moment.store } } := by
        simp [perform, Connection.dispose, keeps.disposed]
      constructor
      case kept =>
        change Kept book begun settings (tally.after .dispose .disposed) _
        rw [after_eq]
        constructor
        case keeps =>
          rw [ended]
          constructor
          case settled => exact keeps.settled
          case disposed => rfl
          case find =>
            intro live
            cases live
          case length =>
            intro live
            cases live
          case made => exact keeps.made
          case counted => rfl
          case noted => simp [noting.disposed, keeps.noted]
        case repositories => exact kept.repositories
        case made => rw [ended]; exact kept.made
        case known => exact kept.known
        case checks => rw [ended]; exact kept.checks
        case latest => rw [ended]; exact kept.latest
      case answered => trivial
      case unchanged =>
        intro resolves
        cases resolves

/-- **One command keeps the account**, and what comes of it is right. -/
theorem Kept.carried (noting : Noting store book) (kept : Kept book begun settings tally usage)
    (command : Command) :
    Carried book begun settings tally command usage (perform store command usage) := by
  cases command with
  | container name => exact kept.container noting name
  | containerFor typeName => exact kept.containerFor noting typeName
  | repository unit typeName => exact kept.repository noting unit typeName
  | batch unit request operations key => exact kept.batch noting unit request operations key
  | check timeout => exact kept.check noting timeout
  | statistics => exact kept.statistics
  | dispose => exact kept.dispose noting

end

end Usage

end DocumentClient
